import Gatekeeper.Pattern.Token
import Mathlib.Logic.Function.Defs

/-! Written forms of token lists. A pattern is the written form of its tokens, so no two patterns
have the same ones; but some lists of tokens are written like others. Those that are read back from
their written form are the canonical ones. -/
namespace Gatekeeper.Pattern

variable {token : Token} {list rest : List Token} {chars front : List Char} {char : Char}

/-- No token is written in a way that reading would take for something else. -/
structure Canonical (list : List Token) : Prop where
  noAsterisk : .literal '*' ∉ list
  subtreeLast : ∀ before after, list = before ++ .subtree :: after → after = []
  segmentsApart : ∀ before after, list = before ++ .segments :: after →
    after.head? ≠ some .segments ∧ after.head? ≠ some .anything
  slashAbsorbed : ∀ before, list ≠ before ++ [.literal '/', .anything]

def Token.Precedes (rest : List Token) : Token → Prop
  | .literal char => char ≠ '*' ∧ (char = '/' → rest ≠ [.anything])
  | .segments => rest.head? ≠ some .segments ∧ rest.head? ≠ some .anything
  | .anything => True
  | .subtree => rest = []

theorem canonical_nil : Canonical [] where
  noAsterisk := by simp
  subtreeLast := by simp
  segmentsApart := by simp
  slashAbsorbed := by simp

theorem canonical_cons_iff :
    Canonical (token :: rest) ↔ token.Precedes rest ∧ Canonical rest := by
  constructor
  · intro canonical
    have further : ∀ {before after}, rest = before ++ after → token :: rest = token :: before ++ after := by
      rintro before after rfl
      rfl
    refine ⟨?_, ?_, ?_, ?_, ?_⟩
    · cases token with
      | literal char =>
        refine ⟨?_, ?_⟩
        · rintro rfl
          exact canonical.noAsterisk (by simp)
        · rintro rfl rfl
          exact canonical.slashAbsorbed [] rfl
      | segments => exact canonical.segmentsApart [] rest rfl
      | anything => trivial
      | subtree => exact canonical.subtreeLast [] rest rfl
    · exact fun mem => canonical.noAsterisk (List.mem_cons_of_mem _ mem)
    · exact fun before after same => canonical.subtreeLast _ after (further same)
    · exact fun before after same => canonical.segmentsApart _ after (further same)
    · exact fun before same => canonical.slashAbsorbed _ (further same)
  · rintro ⟨precedes, canonical⟩
    refine ⟨?_, ?_, ?_, ?_⟩
    · rintro (_ | ⟨_, mem⟩)
      · exact precedes.1 rfl
      · exact canonical.noAsterisk mem
    · rintro (_ | ⟨_, before⟩) after ⟨⟩
      · exact precedes
      · exact canonical.subtreeLast before after rfl
    · rintro (_ | ⟨_, before⟩) after ⟨⟩
      · exact precedes
      · exact canonical.segmentsApart before after rfl
    · rintro (_ | ⟨_, before⟩) ⟨⟩
      · exact precedes.2 rfl rfl
      · exact canonical.slashAbsorbed before rfl

theorem asterisk_of_head? (starred : (tokens chars).head? = some .segments ∨
    (tokens chars).head? = some .anything) : ∃ more, chars = '*' :: more := by
  rw [← render_tokens chars]
  rcases starred with first | first
  · obtain ⟨rest, same⟩ := List.head?_eq_some_iff.mp first
    exact ⟨render rest, by rw [same]; rfl⟩
  · obtain ⟨rest, same⟩ := List.head?_eq_some_iff.mp first
    exact ⟨'*' :: render rest, by rw [same]; rfl⟩

theorem head?_tokens_asterisk (more : List Char) :
    (tokens ('*' :: more)).head? = some .segments ∨ (tokens ('*' :: more)).head? = some .anything := by
  cases more with
  | nil => exact .inl rfl
  | cons next more =>
    by_cases paired : next = '*'
    · subst paired
      rw [tokens.eq_3]
      exact .inr rfl
    · rw [tokens.eq_4 _ fun _ same => paired (List.cons.inj same).1]
      exact .inl rfl

theorem canonical_tokens (chars : List Char) : Canonical (tokens chars) := by
  fun_induction tokens chars with
  | case1 => exact canonical_nil
  | case2 => exact canonical_cons_iff.mpr ⟨rfl, canonical_nil⟩
  | case3 rest ih => exact canonical_cons_iff.mpr ⟨trivial, ih⟩
  | case4 rest single ih =>
    refine canonical_cons_iff.mpr ⟨⟨fun first => ?_, fun first => ?_⟩, ih⟩
    · obtain ⟨more, same⟩ := asterisk_of_head? (.inl first)
      exact single more same
    · obtain ⟨more, same⟩ := asterisk_of_head? (.inr first)
      exact single more same
  | case5 char rest unabsorbed _ plain ih =>
    refine canonical_cons_iff.mpr ⟨⟨plain, fun slash alone => unabsorbed slash ?_⟩, ih⟩
    rw [← render_tokens rest, alone]
    rfl

/-- A token is read from its written form if what follows lets it stand there. -/
theorem tokens_render_append (precedes : token.Precedes (tokens chars)) :
    tokens (token.render ++ chars) = token :: tokens chars := by
  cases token with
  | literal char =>
    obtain ⟨plain, unabsorbed⟩ := precedes
    refine tokens.eq_5 char chars (fun slash pair => unabsorbed slash ?_) (fun _ same _ => plain same) plain
    rw [pair]
    rfl
  | segments =>
    obtain ⟨noSegments, noAnything⟩ := precedes
    refine tokens.eq_4 chars fun more same => ?_
    subst same
    exact (head?_tokens_asterisk more).elim noSegments noAnything
  | anything => exact tokens.eq_3 chars
  | subtree =>
    have nothing : tokens chars = [] := precedes
    have ends : chars = [] := by
      rw [← render_tokens chars, nothing]
      rfl
    rw [ends]
    rfl

theorem tokens_render (canonical : Canonical list) : tokens (render list) = list := by
  induction list with
  | nil => rfl
  | cons token rest ih =>
    obtain ⟨precedes, further⟩ := canonical_cons_iff.mp canonical
    have same := ih further
    rw [render_cons, tokens_render_append (by rwa [same]), same]

theorem subtree_mem_tokens (ending : ['/', '*', '*'] <:+ chars) : .subtree ∈ tokens chars := by
  fun_induction tokens chars with
  | case1 => simp at ending
  | case2 => exact List.mem_cons_self
  | case3 rest ih =>
    have later : ['/', '*', '*'] <:+ rest := by simpa [List.suffix_cons_iff] using ending
    exact List.mem_cons_of_mem _ (ih later)
  | case4 rest _ ih =>
    have later : ['/', '*', '*'] <:+ rest := by simpa [List.suffix_cons_iff] using ending
    exact List.mem_cons_of_mem _ (ih later)
  | case5 char rest unabsorbed _ _ ih =>
    rcases List.suffix_cons_iff.mp ending with same | later
    · cases same
      exact absurd rfl (unabsorbed rfl)
    · exact List.mem_cons_of_mem _ (ih later)

theorem subtree_mem_tokens_iff : .subtree ∈ tokens chars ↔
    ∃ before, tokens chars = before ++ [.subtree] := by
  constructor
  · intro mem
    obtain ⟨before, after, same⟩ := List.append_of_mem mem
    have ends := (canonical_tokens chars).subtreeLast before after same
    exact ⟨before, ends ▸ same⟩
  · rintro ⟨before, same⟩
    simp [same]

theorem eq_of_tokens_eq_concat {before : List Token} (same : tokens chars = before ++ [.subtree]) :
    chars = render before ++ ['/', '*', '*'] := by
  rw [← render_tokens chars, same]
  simp [render, Token.render]

/-- A pattern is the written form of its tokens. The lists of tokens that are read back from their
written form are exactly the canonical ones, so no two patterns have the same tokens; and a subtree
is what a pair of asterisks stands for that ends the pattern right after a slash, and nothing else. -/
theorem compile_inverts_render :
    (∀ pattern : String, render (compile pattern) = pattern.toList) ∧
    (∀ list : List Token, compile (String.ofList (render list)) = list ↔ Canonical list) ∧
    Function.Injective compile ∧
    (∀ pattern : String, .subtree ∈ compile pattern ↔ ['/', '*', '*'] <:+ pattern.toList) ∧
    ∀ (pattern : String) (front : List Char),
      (∃ before, compile pattern = before ++ [.subtree] ∧ render before = front) ↔
        pattern.toList = front ++ ['/', '*', '*'] := by
  have written : ∀ pattern : String, render (compile pattern) = pattern.toList :=
    fun pattern => render_tokens pattern.toList
  refine ⟨written, fun list => ⟨fun same => ?_, fun canonical => ?_⟩, fun one other same => ?_,
    fun pattern => ⟨fun mem => ?_, subtree_mem_tokens⟩, fun pattern front => ⟨?_, fun ending => ?_⟩⟩
  · exact same ▸ canonical_tokens _
  · rw [compile, String.toList_ofList]
    exact tokens_render canonical
  · apply String.toList_injective
    rw [← written one, ← written other, same]
  · obtain ⟨before, same⟩ := subtree_mem_tokens_iff.mp mem
    rw [eq_of_tokens_eq_concat same]
    exact List.suffix_append _ _
  · rintro ⟨before, same, rfl⟩
    exact eq_of_tokens_eq_concat same
  · have mem := subtree_mem_tokens (ending ▸ List.suffix_append front _)
    obtain ⟨before, same⟩ := subtree_mem_tokens_iff.mp mem
    have written := (eq_of_tokens_eq_concat same).symm.trans ending
    exact ⟨before, same, List.append_cancel_right written⟩

/-- Three asterisks at the end take no slash along. -/
example : compile "/docs/***" = "/docs/".toList.map .literal ++ [.anything, .segments] := by decide

end Gatekeeper.Pattern
