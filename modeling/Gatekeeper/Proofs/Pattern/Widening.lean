import Gatekeeper.Proofs.Pattern.Subtree
import Mathlib.Order.CompletePartialOrder

/-! One asterisk made two. The text around a run of asterisks is read as it would be by itself, but for
a slash before two asterisks at the very end, which they take along; either way the wider wildcard
stands for all that the narrower one stood for. -/
namespace Gatekeeper.Pattern

variable {front back : List Char}

theorem exists_tokens_append_slash (front : List Char) :
    ∃ before, ∀ more, tokens (front ++ '/' :: more) = before ++ tokens ('/' :: more) := by
  by_cases ending : ['/', '*', '*'] <:+ front
  · obtain ⟨inner, same⟩ := ending
    have shorter : inner.length < front.length := by simp [← same]
    obtain ⟨before, reads⟩ := exists_tokens_append_slash inner
    refine ⟨before ++ [.literal '/', .anything], fun more => ?_⟩
    have inside : tokens ('/' :: '*' :: '*' :: '/' :: more) =
        [.literal '/', .anything] ++ tokens ('/' :: more) := rfl
    rw [← same, List.append_assoc, List.append_assoc, ← inside]
    exact reads _
  · exact ⟨tokens front, tokens_append_slash ending⟩
termination_by front.length

theorem tokens_around (unstarred : front.getLast? ≠ some '*') (plain : back.head? ≠ some '*') :
    tokens (front ++ '*' :: back) = tokens front ++ .segments :: tokens back ∧
    ((front.getLast? = some '/' → back ≠ []) →
      tokens (front ++ '*' :: '*' :: back) = tokens front ++ .anything :: tokens back) := by
  have unended : ¬ ['/', '*', '*'] <:+ front := fun ⟨inner, same⟩ => unstarred (by simp [← same])
  have parted : ∀ more, (front.getLast? = some '/' → more ≠ ['*', '*']) → Parted front more :=
    fun more slash => ⟨fun ends => absurd ends unstarred, fun ending => absurd ending unended, slash⟩
  have single : tokens ('*' :: back) = .segments :: tokens back :=
    tokens.eq_4 back fun rest same => plain (by rw [same]; rfl)
  refine ⟨?_, fun inhabited => ?_⟩
  · rw [tokens_append (parted _ fun _ same => ?_), single]
    exact plain (congrArg List.head? (List.cons.inj same).2)
  · rw [tokens_append (parted _ fun slash same => inhabited slash ?_)]
    · rfl
    · simpa using same

/-- Behind a slash at the very end, the wider wildcard takes the slash along. -/
theorem exists_tokens_slash (slash : front.getLast? = some '/') :
    ∃ before, tokens front = before ++ [.literal '/'] ∧
      tokens (front ++ ['*']) = before ++ [.literal '/', .segments] ∧
      tokens (front ++ ['*', '*']) = before ++ [.subtree] := by
  obtain ⟨inner, rfl⟩ := List.getLast?_eq_some_iff.mp slash
  obtain ⟨before, reads⟩ := exists_tokens_append_slash inner
  simp only [List.append_assoc]
  exact ⟨before, reads [], reads ['*'], reads ['*', '*']⟩

theorem language_slash_segments_le :
    language [.literal '/', .segments] ≤ language [.subtree] := by
  intro text mem
  obtain ⟨rest, rfl, -⟩ := mem_language_literal_cons.mp mem
  rw [language_single]
  exact .inr ⟨rest, rfl⟩

theorem language_segments_le : Token.segments.language ≤ Token.anything.language :=
  fun _ _ => mem_language_anything

theorem language_around_le (unstarred : front.getLast? ≠ some '*') (plain : back.head? ≠ some '*') :
    language (tokens (front ++ '*' :: back)) ≤ language (tokens (front ++ '*' :: '*' :: back)) := by
  obtain ⟨narrow, wide⟩ := tokens_around unstarred plain
  by_cases absorbed : front.getLast? = some '/' ∧ back = []
  · obtain ⟨slash, rfl⟩ := absorbed
    obtain ⟨before, -, narrow, wide⟩ := exists_tokens_slash slash
    rw [narrow, wide, language_append, language_append]
    exact mul_le_mul' le_rfl language_slash_segments_le
  · rw [narrow, wide fun slash empty => absorbed ⟨slash, empty⟩, language_append, language_append,
      language_cons, language_cons]
    exact mul_le_mul' le_rfl (mul_le_mul' language_segments_le le_rfl)

/-- A wider wildcard leaves no path unmatched. What is around one asterisk that stands alone is read
alike if there are two, unless they are the last of the pattern and follow a slash; then they take it
along, and match the bare path in front of it as well. -/
theorem widening_keeps_matches (front back : String) (unstarred : front.toList.getLast? ≠ some '*')
    (plain : back.toList.head? ≠ some '*') :
    compile (front ++ "*" ++ back) = compile front ++ .segments :: compile back ∧
    (if front.toList.getLast? = some '/' ∧ back = "" then
      ∃ before, compile front = before ++ [.literal '/'] ∧
        compile (front ++ "**" ++ back) = before ++ [.subtree]
    else compile (front ++ "**" ++ back) = compile front ++ .anything :: compile back) ∧
    ∀ path, accepts (front ++ "*" ++ back) path = true → accepts (front ++ "**" ++ back) path = true := by
  have narrowWritten : (front ++ "*" ++ back).toList = front.toList ++ '*' :: back.toList := by simp
  have wideWritten : (front ++ "**" ++ back).toList = front.toList ++ '*' :: '*' :: back.toList := by
    simp
  simp only [accepts, reads_start_iff, compile]
  rw [narrowWritten, wideWritten]
  obtain ⟨narrow, wide⟩ := tokens_around unstarred plain
  refine ⟨narrow, ?_, fun path covered => language_around_le unstarred plain covered⟩
  split
  · obtain ⟨slash, rfl⟩ := ‹_ ∧ _›
    obtain ⟨before, alone, -, absorbed⟩ := exists_tokens_slash slash
    exact ⟨before, alone, absorbed⟩
  · rename_i kept
    exact wide fun slash empty => kept ⟨slash, String.toList_eq_nil_iff.mp empty⟩

theorem posts_still_matched :
    (("/users/".toList.getLast? ≠ some '*' ∧ "".toList.head? ≠ some '*') ∧
      accepts "/users/*" "/users/7/posts" = true ∧ accepts "/users/**" "/users/7/posts" = true ∧
      accepts "/users/*" "/users" = false ∧ accepts "/users/**" "/users" = true) ∧
    (("/u/".toList.getLast? ≠ some '*' ∧ "/edit".toList.head? ≠ some '*') ∧
      accepts "/u/*/edit" "/u/7/edit" = true ∧ accepts "/u/**/edit" "/u/7/edit" = true) := by
  have users : accepts "/users/*" "/users/7/posts" = true := by cbv
  have edit : accepts "/u/*/edit" "/u/7/edit" = true := by cbv
  obtain ⟨-, -, keeps⟩ := widening_keeps_matches "/users/" "" (by decide) (by decide)
  obtain ⟨-, -, keepsToo⟩ := widening_keeps_matches "/u/" "/edit" (by decide) (by decide)
  exact ⟨⟨⟨by decide, by decide⟩, users, keeps _ users, by cbv, by cbv⟩,
    ⟨by decide, by decide⟩, edit, keepsToo _ edit⟩

end Gatekeeper.Pattern
