import Gatekeeper.Pattern.Validity
import Gatekeeper.Proofs.Pattern.Widening

/-! Two asterisks inside a pattern, between two slashes. They stand for any characters, and both slashes
stand for themselves, for only at the very end of a pattern are asterisks read together with a slash. So
the asterisks cover every number of path segments but none: the two slashes never come to one. -/
namespace Gatekeeper.Pattern

variable {front back text : List Char} {path : String}

theorem tokens_inside (front back : List Char) :
    tokens (front ++ ['/', '*', '*', '/'] ++ back) =
      tokens (front ++ ['/']) ++ .anything :: tokens ('/' :: back) := by
  have unstarred : (front ++ ['/']).getLast? ≠ some '*' := by simp
  have plain : ('/' :: back).head? ≠ some '*' := by simp
  have wide := (tokens_around unstarred plain).2 fun _ => List.cons_ne_nil _ _
  simpa using wide

theorem language_inside (front back : List Char) :
    language (tokens (front ++ ['/', '*', '*', '/'] ++ back)) =
      language (tokens (front ++ ['/'])) * Token.anything.language * language (tokens ('/' :: back)) := by
  rw [tokens_inside, language_append, language_cons, mul_assoc]

theorem mem_language_inside_iff :
    text ∈ language (tokens (front ++ ['/', '*', '*', '/'] ++ back)) ↔
      ∃ before between after, text = before ++ between ++ after ∧
        before ∈ language (tokens (front ++ ['/'])) ∧ after ∈ language (tokens ('/' :: back)) := by
  rw [language_inside, Language.mem_mul]
  constructor
  · rintro ⟨_, ⟨before, inFront, between, -, rfl⟩, after, behind, rfl⟩
    exact ⟨before, between, after, rfl, inFront, behind⟩
  · rintro ⟨before, between, after, rfl, inFront, behind⟩
    exact ⟨_, ⟨before, inFront, between, mem_language_anything, rfl⟩, after, behind, rfl⟩

theorem accepts_inside_iff (front back : String) :
    accepts (front ++ "/**/" ++ back) path = true ↔
      ∃ before between after, path = before ++ between ++ after ∧
        accepts (front ++ "/") before = true ∧ accepts ("/" ++ back) after = true := by
  have written : (front ++ "/**/" ++ back).toList =
      front.toList ++ ['/', '*', '*', '/'] ++ back.toList := by simp
  have frontWritten : (front ++ "/").toList = front.toList ++ ['/'] := by simp
  have backWritten : ("/" ++ back).toList = '/' :: back.toList := by simp
  simp only [accepts, reads_start_iff, compile]
  rw [written, frontWritten, backWritten, mem_language_inside_iff]
  simp only [toList_surjective.exists, ← String.toList_append, String.toList_inj]

/-- Two asterisks between slashes, with no other wildcard around, cover just the paths that have both
slashes. With any path segments between them the path is covered. With no segment, and so with a single
slash, it is not. -/
theorem wildcard_inside_keeps_slashes (front back : String) (plainFront : '*' ∉ front.toList)
    (plainBack : '*' ∉ back.toList) :
    (∀ path, accepts (front ++ "/**/" ++ back) path = true ↔
      ∃ between, path = front ++ "/" ++ between ++ "/" ++ back) ∧
    (∀ segments, IsSegments segments.toList →
      accepts (front ++ "/**/" ++ back) (front ++ "/" ++ segments ++ "/" ++ back) = true) ∧
    accepts (front ++ "/**/" ++ back) (front ++ "/" ++ back) = false := by
  have frontPlain : '*' ∉ (front ++ "/").toList := by simpa using plainFront
  have backPlain : '*' ∉ ("/" ++ back).toList := by simpa using plainBack
  have covered : ∀ path, accepts (front ++ "/**/" ++ back) path = true ↔
      ∃ between, path = front ++ "/" ++ between ++ "/" ++ back := by
    intro path
    simp only [accepts_inside_iff, accepts_plain_iff frontPlain, accepts_plain_iff backPlain]
    constructor
    · rintro ⟨_, between, _, rfl, rfl, rfl⟩
      exact ⟨between, by simp only [String.append_assoc]⟩
    · rintro ⟨between, rfl⟩
      exact ⟨_, between, _, by simp only [String.append_assoc], rfl, rfl⟩
  refine ⟨covered, fun segments _ => (covered _).mpr ⟨segments, rfl⟩, ?_⟩
  rw [← Bool.not_eq_true, covered]
  rintro ⟨between, same⟩
  have lengths := congrArg String.length same
  simp only [String.length_append] at lengths
  have slash : "/".length = 1 := rfl
  omega

theorem chapter_edit_page_covered :
    ('*' ∉ "/docs".toList ∧ '*' ∉ "edit".toList ∧ IsSegments "a/b".toList) ∧
      accepts ("/docs" ++ "/**/" ++ "edit") ("/docs" ++ "/" ++ "a/b" ++ "/" ++ "edit") = true ∧
      accepts ("/docs" ++ "/**/" ++ "edit") ("/docs" ++ "/" ++ "edit") = false := by
  have plainFront : '*' ∉ "/docs".toList := by decide
  have plainBack : '*' ∉ "edit".toList := by decide
  have segments : IsSegments "a/b".toList := ⟨by decide, by decide, by decide, by decide⟩
  obtain ⟨-, covers, bare⟩ := wildcard_inside_keeps_slashes "/docs" "edit" plainFront plainBack
  exact ⟨⟨plainFront, plainBack, segments⟩, covers "a/b" segments, bare⟩

/-- The pattern is a valid one and covers the edit pages of all chapters, but not the one that is not in
a chapter. The same asterisks at the end of a pattern do cover the page with nothing behind. -/
theorem bare_edit_page_uncovered :
    ('*' ∉ "/docs".toList ∧ '*' ∉ "edit".toList) ∧ isValidText "/docs/**/edit" = true ∧
      accepts ("/docs" ++ "/**/" ++ "edit") ("/docs" ++ "/" ++ "edit") = false ∧
      accepts "/docs/**" "/docs" = true := by
  refine ⟨⟨by decide, by decide⟩, ?_, ?_, ?_⟩ <;> cbv

end Gatekeeper.Pattern
