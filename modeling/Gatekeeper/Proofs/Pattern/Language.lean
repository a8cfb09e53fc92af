import Gatekeeper.Proofs.Pattern.Closure
import Mathlib.Computability.Language

/-! The language of a pattern, token by token, and what the live states say about the text that has
been read. The automaton and the language are compared through the partial matches of each state. -/
namespace Gatekeeper.Pattern

open Relation

variable {list : List Token} {state after : State} {token : Token} {text : List Char} {char : Char}

def IsSegments (chars : List Char) : Prop :=
  chars ≠ [] ∧ chars.head? ≠ some '/' ∧ chars.getLast? ≠ some '/' ∧ ¬ ['/', '/'] <:+: chars

def Token.language : Token → Language Char
  | .literal char => {[char]}
  | .segments => {chars | IsSegments chars}
  | .anything => Set.univ
  | .subtree => {chars | chars = [] ∨ ∃ rest, chars = '/' :: rest}

def language (list : List Token) : Language Char :=
  (list.map Token.language).prod

def Token.Begun : Token → Nat → List Char → Prop
  | .literal _, stage, chars => stage = 0 ∧ chars = []
  | .segments, stage, chars =>
    stage = 0 ∧ chars = [] ∨ stage = 1 ∧ IsSegments chars ∨
      stage = 2 ∧ ∃ whole, IsSegments whole ∧ chars = whole ++ ['/']
  | .anything, stage, _ => stage = 0
  | .subtree, stage, chars => stage = 0 ∧ chars = [] ∨ stage = 1 ∧ ∃ rest, chars = '/' :: rest

/-- A state reads a text if the tokens before it match a first part and its own token has begun to
match the rest. Behind the last token nothing is left. -/
def State.Reads (list : List Token) (state : State) (text : List Char) : Prop :=
  ∃ before part, before ++ part = text ∧ before ∈ language (list.take state.index) ∧
    match list[state.index]? with
    | some token => token.Begun state.stage part
    | none => state = ⟨list.length, 0⟩ ∧ part = []

@[simp] theorem mem_language_literal : text ∈ (Token.literal char).language ↔ text = [char] :=
  Iff.rfl

@[simp] theorem mem_language_segments : text ∈ Token.segments.language ↔ IsSegments text :=
  Iff.rfl

@[simp] theorem mem_language_anything : text ∈ Token.anything.language :=
  trivial

@[simp] theorem mem_language_subtree :
    text ∈ Token.subtree.language ↔ text = [] ∨ ∃ rest, text = '/' :: rest :=
  Iff.rfl

def Token.within? (char : Char) : Token → Nat → Option Nat
  | .literal _, _ => none
  | .segments, stage => if char ≠ '/' then some 1 else if stage = 1 then some 2 else none
  | .anything, _ => some 0
  | .subtree, stage => if stage = 1 ∨ char = '/' then some 1 else none

def Token.Leaves : Token → Nat → Prop
  | .literal _, _ => False
  | .segments, stage => stage = 1
  | .anything, stage => stage = 0
  | .subtree, stage => stage = 0 ∨ stage = 1

theorem not_doubled_concat (plain : char ≠ '/') :
    ¬ ['/', '/'] <:+: text ++ [char] ↔ ¬ ['/', '/'] <:+: text := by
  rw [List.infix_concat_iff, not_or, and_iff_right_iff_imp]
  rintro - ⟨front, same⟩
  have last := congrArg List.getLast? same
  simp [plain.symm] at last

theorem isSegments_concat :
    IsSegments (text ++ [char]) ↔
      char ≠ '/' ∧
        (text = [] ∨ IsSegments text ∨ ∃ whole, IsSegments whole ∧ text = whole ++ ['/']) := by
  have ends : (text ++ [char]).getLast? = some char := by simp
  constructor
  · rintro ⟨-, first, last, single⟩
    have plain : char ≠ '/' := by simpa [ends] using last
    refine ⟨plain, ?_⟩
    rw [not_doubled_concat plain] at single
    rcases List.eq_nil_or_concat' text with rfl | ⟨whole, before, rfl⟩
    · exact .inl rfl
    have start : (whole ++ [before]).head? ≠ some '/' := by simpa using first
    by_cases slash : before = '/'
    · subst slash
      have inhabited : whole ≠ [] := by rintro rfl; simp at start
      refine .inr (.inr ⟨whole, ⟨inhabited, ?_, ?_, ?_⟩, rfl⟩)
      · rwa [List.head?_append_of_ne_nil _ inhabited] at start
      · intro doubled
        obtain ⟨front, rfl⟩ := List.getLast?_eq_some_iff.mp doubled
        exact single ⟨front, [], by simp⟩
      · exact fun doubled => single (List.infix_append_of_infix_left doubled)
    · exact .inr (.inl ⟨by simp, start, by simpa using slash, single⟩)
  · rintro ⟨plain, rfl | ⟨inhabited, first, -, single⟩ |
      ⟨whole, ⟨inhabited, first, last, single⟩, rfl⟩⟩
    · refine ⟨by simp, by simpa using plain, by simpa using plain, ?_⟩
      rw [not_doubled_concat plain]
      simp
    · refine ⟨by simp, ?_, by simpa using plain, (not_doubled_concat plain).mpr single⟩
      rwa [List.head?_append_of_ne_nil _ inhabited]
    · refine ⟨by simp, ?_, by simpa using plain, (not_doubled_concat plain).mpr ?_⟩
      · rwa [List.append_assoc, List.head?_append_of_ne_nil _ inhabited]
      · rw [List.infix_concat_iff, not_or]
        refine ⟨?_, single⟩
        rintro ⟨front, same⟩
        have cut : front ++ ['/'] = whole := by
          have := congrArg List.dropLast same
          simpa [List.dropLast_append_of_ne_nil] using this
        exact last (by rw [← cut]; simp)

/-- A token has begun to match a text that is not empty just if it had done so before its last
character and could read that one. -/
theorem begun_concat {stage : Nat} :
    token.Begun stage (text ++ [char]) ↔
      ∃ before, token.Begun before text ∧ token.within? char before = some stage := by
  cases token with
  | literal wanted => simp [Token.Begun, Token.within?]
  | segments =>
    simp only [Token.Begun, Token.within?, isSegments_concat]
    by_cases slash : char = '/'
    · subst slash
      simp [and_comm, eq_comm (a := 2)]
    · simp only [List.append_eq_nil_iff, List.cons_ne_self, and_false, slash, ne_eq,
        not_false_eq_true, true_and, false_or, if_true, Option.some.injEq]
      constructor
      · rintro (⟨rfl, fresh | inside | between⟩ | ⟨-, whole, -, same⟩)
        · exact ⟨0, .inl ⟨rfl, fresh⟩, rfl⟩
        · exact ⟨1, .inr (.inl ⟨rfl, inside⟩), rfl⟩
        · exact ⟨2, .inr (.inr ⟨rfl, between⟩), rfl⟩
        · exact absurd (by simpa using congrArg List.getLast? same) slash
      · rintro ⟨before, ⟨-, fresh⟩ | ⟨-, inside⟩ | ⟨-, between⟩, rfl⟩
        · exact .inl ⟨rfl, .inl fresh⟩
        · exact .inl ⟨rfl, .inr (.inl inside)⟩
        · exact .inl ⟨rfl, .inr (.inr between)⟩
  | anything => simp [Token.Begun, Token.within?, eq_comm]
  | subtree =>
    simp only [Token.Begun, Token.within?, List.append_eq_nil_iff, List.cons_ne_self, and_false,
      false_or, Option.ite_none_right_eq_some, Option.some.injEq]
    constructor
    · rintro ⟨rfl, rest, same⟩
      cases text with
      | nil => exact ⟨0, .inl ⟨rfl, rfl⟩, .inr (List.cons.inj same).1, rfl⟩
      | cons first inner =>
        obtain rfl : first = '/' := (List.cons.inj same).1
        exact ⟨1, .inr ⟨rfl, inner, rfl⟩, .inl rfl, rfl⟩
    · rintro ⟨before, ⟨rfl, rfl⟩ | ⟨-, rest, rfl⟩, reads, rfl⟩
      · exact ⟨rfl, [], by simpa using reads⟩
      · exact ⟨rfl, rest ++ [char], rfl⟩

theorem mem_token_language :
    text ∈ token.language ↔
      (∃ stage, token.Leaves stage ∧ token.Begun stage text) ∨
        ∃ char, token = .literal char ∧ text = [char] := by
  cases token with
  | literal wanted => simp [Token.Leaves]
  | segments => simp [Token.Leaves, Token.Begun]
  | anything => simp [Token.Leaves, Token.Begun]
  | subtree =>
    simp only [mem_language_subtree, Token.Leaves, Token.Begun, reduceCtorEq, false_and,
      exists_false, or_false]
    constructor
    · rintro (rfl | below)
      · exact ⟨0, .inl rfl, .inl ⟨rfl, rfl⟩⟩
      · exact ⟨1, .inr rfl, .inr ⟨rfl, below⟩⟩
    · rintro ⟨stage, -, ⟨-, rfl⟩ | ⟨-, below⟩⟩
      · exact .inl rfl
      · exact .inr below

theorem skip?_eq_some_iff :
    skip? list state = some after ↔
      ∃ token, list[state.index]? = some token ∧ token.Leaves state.stage ∧
        after = ⟨state.index + 1, 0⟩ := by
  obtain ⟨index, stage⟩ := state
  unfold skip?
  cases found : list[index]? with
  | none => simp
  | some token =>
    rcases token with _ | _ | _ | _ <;> rcases stage with _ | _ | _ <;>
      simp [Token.Leaves, eq_comm]

theorem step?_eq_some_iff :
    step? list char state = some after ↔
      ∃ token, list[state.index]? = some token ∧
        (token = .literal char ∧ after = ⟨state.index + 1, 0⟩ ∨
          ∃ stage, token.within? char state.stage = some stage ∧ after = ⟨state.index, stage⟩) := by
  obtain ⟨index, stage⟩ := state
  unfold step?
  cases found : list[index]? with
  | none => simp
  | some token =>
    cases token with
    | literal wanted => simp [Token.within?, eq_comm]
    | segments =>
      by_cases slash : char = '/' <;> by_cases inside : stage = 1 <;>
        simp [Token.within?, slash, inside, eq_comm]
    | anything => simp [Token.within?, eq_comm]
    | subtree =>
      by_cases reads : stage = 1 ∨ char = '/' <;> simp [Token.within?, reads, eq_comm]

inductive Reaches (list : List Token) : List Char → State → Prop
  | start : Reaches list [] ⟨0, 0⟩
  | skip {text : List Char} {state after : State} :
      Reaches list text state → Skips list state after → Reaches list text after
  | read {text : List Char} {state after : State} {char : Char} :
      Reaches list text state → step? list char state = some after →
        Reaches list (text ++ [char]) after

theorem live_concat : live list (text ++ [char]) = next list (live list text) char := by
  simp [live]

theorem live_closed (mem : state ∈ live list text) (skips : Skips list state after) :
    after ∈ live list text := by
  rcases List.eq_nil_or_concat' text with rfl | ⟨front, last, rfl⟩
  · exact closure_closed mem skips
  · rw [live_concat] at mem ⊢
    exact closure_closed mem skips

theorem reaches_of_mem_closure {states : List State}
    (seeds : ∀ seed ∈ states, Reaches list text seed) (mem : state ∈ closure list states) :
    Reaches list text state := by
  obtain ⟨origin, known, path⟩ := mem_closure_iff.mp mem
  induction path with
  | refl => exact seeds origin known
  | tail path skips ih => exact (ih (mem_closure_iff.mpr ⟨origin, known, path⟩)).skip skips

theorem mem_live_iff_reaches : state ∈ live list text ↔ Reaches list text state := by
  constructor
  · intro mem
    induction text using List.reverseRecOn generalizing state with
    | nil => exact reaches_of_mem_closure (by simpa using Reaches.start) mem
    | append_singleton text char ih =>
      rw [live_concat] at mem
      refine reaches_of_mem_closure (fun seed read => ?_) mem
      obtain ⟨before, alive, reads⟩ := List.mem_filterMap.mp read
      exact (ih alive).read reads
  · intro reach
    induction reach with
    | start => exact subset_closure (List.mem_singleton_self _)
    | skip _ skips ih => exact live_closed ih skips
    | read _ reads ih =>
      rw [live_concat]
      exact subset_closure (List.mem_filterMap.mpr ⟨_, ih, reads⟩)

theorem mem_language_take_succ {index : Nat} (found : list[index]? = some token) :
    text ∈ language (list.take (index + 1)) ↔
      ∃ before part, before ++ part = text ∧ before ∈ language (list.take index) ∧
        part ∈ token.language := by
  obtain ⟨bound, same⟩ := List.getElem?_eq_some_iff.mp found
  rw [List.take_succ_eq_append_getElem bound, same]
  simp only [language, List.map_append, List.map_cons, List.map_nil, List.prod_append,
    List.prod_cons, List.prod_nil, mul_one, Language.mem_mul]
  constructor
  · rintro ⟨before, inFront, part, here, rfl⟩
    exact ⟨before, part, rfl, inFront, here⟩
  · rintro ⟨before, part, rfl, inFront, here⟩
    exact ⟨before, inFront, part, here, rfl⟩

theorem begun_nil_iff {stage : Nat} : token.Begun stage [] ↔ stage = 0 := by
  cases token <;> simp [Token.Begun, IsSegments]

theorem reads_of_mem_language {index : Nat} (bound : index ≤ list.length)
    (mem : text ∈ language (list.take index)) : State.Reads list ⟨index, 0⟩ text := by
  refine ⟨text, [], List.append_nil text, mem, ?_⟩
  split
  · exact begun_nil_iff.mpr rfl
  · rename_i missing
    have ends := List.getElem?_eq_none_iff.mp missing
    exact ⟨by rw [Nat.le_antisymm bound ends], rfl⟩

theorem reads_of_reaches (reach : Reaches list text state) : State.Reads list state text := by
  induction reach with
  | start => exact reads_of_mem_language (Nat.zero_le _) rfl
  | skip _ skips ih =>
    obtain ⟨token, found, leaves, rfl⟩ := skip?_eq_some_iff.mp skips
    obtain ⟨before, part, rfl, inFront, begun⟩ := ih
    rw [found] at begun
    have whole : part ∈ token.language := mem_token_language.mpr (.inl ⟨_, leaves, begun⟩)
    refine reads_of_mem_language (List.getElem?_eq_some_iff.mp found).1 ?_
    exact (mem_language_take_succ found).mpr ⟨before, part, rfl, inFront, whole⟩
  | @read text state after char _ reads ih =>
    obtain ⟨token, found, ⟨rfl, rfl⟩ | ⟨stage, within, rfl⟩⟩ := step?_eq_some_iff.mp reads
    · obtain ⟨before, part, rfl, inFront, begun⟩ := ih
      rw [found] at begun
      obtain rfl : part = [] := begun.2
      refine reads_of_mem_language (List.getElem?_eq_some_iff.mp found).1 ?_
      refine (mem_language_take_succ found).mpr ⟨before, [char], ?_, inFront, rfl⟩
      rw [List.append_nil]
    · obtain ⟨before, part, rfl, inFront, begun⟩ := ih
      rw [found] at begun
      refine ⟨before, part ++ [char], (List.append_assoc ..).symm, inFront, ?_⟩
      rw [found]
      exact begun_concat.mpr ⟨_, begun, within⟩

/-- Every text shorter by its last character has been treated already. -/
def Shorter (list : List Token) (text : List Char) : Prop :=
  ∀ front last, text = front ++ [last] →
    ∀ state, State.Reads list state front → Reaches list front state

theorem reaches_of_reads_of_begin {index stage : Nat} (shorter : Shorter list text)
    (begin : text ∈ language (list.take index) → Reaches list text ⟨index, 0⟩)
    (reads : State.Reads list ⟨index, stage⟩ text) : Reaches list text ⟨index, stage⟩ := by
  obtain ⟨before, part, rfl, inFront, begun⟩ := reads
  split at begun
  next token found =>
    rcases List.eq_nil_or_concat' part with rfl | ⟨inner, last, rfl⟩
    · obtain rfl : stage = 0 := begun_nil_iff.mp begun
      rw [List.append_nil] at begin ⊢
      exact begin inFront
    · obtain ⟨earlier, begun, within⟩ := begun_concat.mp begun
      have reach : Reaches list (before ++ inner) ⟨index, earlier⟩ := by
        refine shorter _ last (List.append_assoc ..).symm _ ⟨before, inner, rfl, inFront, ?_⟩
        rw [found]
        exact begun
      rw [← List.append_assoc]
      exact reach.read (step?_eq_some_iff.mpr ⟨token, found, .inr ⟨_, within, rfl⟩⟩)
  next =>
    obtain ⟨same, rfl⟩ := begun
    rw [List.append_nil] at begin ⊢
    rw [(State.mk.inj same).2]
    exact begin inFront

theorem reaches_begin {index : Nat} (shorter : Shorter list text) (bound : index ≤ list.length)
    (mem : text ∈ language (list.take index)) : Reaches list text ⟨index, 0⟩ := by
  induction index with
  | zero =>
    obtain rfl : text = [] := mem
    exact .start
  | succ index ih =>
    have found := List.getElem?_eq_getElem bound
    obtain ⟨before, part, rfl, inFront, here⟩ := (mem_language_take_succ found).mp mem
    rcases mem_token_language.mp here with ⟨stage, leaves, begun⟩ | ⟨char, literal, rfl⟩
    · have reach := reaches_of_reads_of_begin shorter (ih (Nat.le_of_succ_le bound))
        ⟨before, part, rfl, inFront, by rw [found]; exact begun⟩
      exact reach.skip (skip?_eq_some_iff.mpr ⟨_, found, leaves, rfl⟩)
    · have reach := shorter before char rfl ⟨index, 0⟩
        (reads_of_mem_language (Nat.le_of_succ_le bound) inFront)
      exact reach.read (step?_eq_some_iff.mpr ⟨_, found, .inl ⟨literal, rfl⟩⟩)

theorem index_le_of_reads (reads : State.Reads list state text) : state.index ≤ list.length := by
  obtain ⟨_, _, _, _, begun⟩ := reads
  split at begun
  next token found => exact (List.getElem?_eq_some_iff.mp found).1.le
  next => rw [begun.1]

theorem shorter_all (text : List Char) : Shorter list text := by
  induction text using List.reverseRecOn with
  | nil => intro front last same; simp at same
  | append_singleton text char ih =>
    intro front last same state reads
    obtain ⟨rfl, -⟩ := List.append_inj' same rfl
    exact reaches_of_reads_of_begin ih (reaches_begin ih (index_le_of_reads reads)) reads

/-- The meaning of the live states: they are those that read the text so far. -/
theorem mem_live_iff : state ∈ live list text ↔ State.Reads list state text := by
  rw [mem_live_iff_reaches]
  refine ⟨reads_of_reaches, fun reads => ?_⟩
  have begin := reaches_begin (shorter_all text) (index_le_of_reads reads)
  exact reaches_of_reads_of_begin (shorter_all text) begin reads

theorem reads_last_iff : State.Reads list ⟨list.length, 0⟩ text ↔ text ∈ language list := by
  have ends : list[list.length]? = none := by simp
  simp only [State.Reads, ends, List.take_length, true_and]
  constructor
  · rintro ⟨before, part, rfl, whole, rfl⟩
    rwa [List.append_nil]
  · exact fun whole => ⟨text, [], List.append_nil text, whole, rfl⟩

theorem next_nil : next list [] char = [] := by
  simp [next, advance, closure, settle]

theorem foldl_next_nil (path : List Char) : path.foldl (next list) [] = [] := by
  induction path with
  | nil => rfl
  | cons char rest ih => rw [List.foldl_cons, next_nil, ih]

/-- Giving up early changes nothing: from no state none is ever reached. -/
theorem reads_eq_contains (states : List State) (path : List Char) :
    reads list states path = (path.foldl (next list) states).contains ⟨list.length, 0⟩ := by
  induction path generalizing states with
  | nil => rfl
  | cons char rest ih =>
    rw [reads, List.foldl_cons]
    split
    next empty =>
      rw [List.isEmpty_iff.mp empty, foldl_next_nil]
      rfl
    next => exact ih _

theorem reads_start_iff (path : List Char) :
    reads list (start list) path = true ↔ path ∈ language list := by
  rw [reads_eq_contains, List.contains_iff_mem, ← reads_last_iff, ← mem_live_iff]
  rfl

/-- A pattern matches a path just if the path as a whole is in the language of its tokens. -/
theorem accepts_iff_mem_language (pattern path : String) :
    accepts pattern path = true ↔ path.toList ∈ language (compile pattern) :=
  reads_start_iff path.toList

end Gatekeeper.Pattern
