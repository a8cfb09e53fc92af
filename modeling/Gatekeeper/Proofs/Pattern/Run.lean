import Mathlib.Tactic.ByContra

/-! Runs of asterisks in a text, told by their places. A text can be taken apart from the left into whole
runs and other characters, and what holds of every run is then asked of one after the other. -/
namespace Gatekeeper.Pattern

structure Run where
  start : Nat
  length : Nat
deriving DecidableEq

namespace Run

def stop (run : Run) : Nat :=
  run.start + run.length

def shift (distance : Nat) (run : Run) : Run :=
  ⟨distance + run.start, run.length⟩

theorem shift_shift (distance further : Nat) (run : Run) :
    shift distance (shift further run) = shift (distance + further) run := by
  simp only [shift, Nat.add_assoc]

/-- The run is made of asterisks, and there is no further one at either end. -/
structure Maximal (run : Run) (chars : List Char) : Prop where
  inhabited : 0 < run.length
  asterisks : ∀ place, run.start ≤ place → place < run.stop → chars[place]? = some '*'
  before : ∀ place, place + 1 = run.start → chars[place]? ≠ some '*'
  after : chars[run.stop]? ≠ some '*'

variable {run : Run} {front rest chars : List Char} {char : Char} {count : Nat}

theorem not_maximal_of_plain (plain : '*' ∉ chars) : ¬ run.Maximal chars := by
  intro maximal
  have here := maximal.asterisks run.start (by omega)
    (by have := maximal.inhabited; unfold stop; omega)
  exact plain (List.mem_of_getElem? here)

theorem maximal_replicate_iff (inhabited : 0 < count) :
    run.Maximal (List.replicate count '*') ↔ run = ⟨0, count⟩ := by
  have read : ∀ place, (List.replicate count '*')[place]? = some '*' ↔ place < count := by
    intro place
    rw [List.getElem?_replicate]
    split <;> simp_all
  constructor
  · rintro ⟨positive, asterisks, before, after⟩
    obtain ⟨start, length⟩ := run
    simp only [stop, ne_eq, read] at positive asterisks before after
    have first := asterisks start (by omega) (by omega)
    have last := asterisks (start + length - 1) (by omega) (by omega)
    have none : start = 0 := by
      by_contra later
      exact before (start - 1) (by omega) (by omega)
    simp only [mk.injEq]
    omega
  · rintro rfl
    refine ⟨inhabited, ?_, ?_, ?_⟩
    · intro place _ below
      simpa [read, stop] using below
    · intro place impossible
      simp at impossible
    · simp [stop]

def Apart (front rest : List Char) : Prop :=
  front.getLast? ≠ some '*' ∨ rest.head? ≠ some '*'

theorem getElem?_behind (front rest : List Char) (place : Nat) :
    (front ++ rest)[front.length + place]? = rest[place]? := by
  rw [List.getElem?_append_right (by omega)]
  congr 1
  omega

theorem Apart.not_both (apart : Apart front rest) (positive : 0 < front.length)
    (left : (front ++ rest)[front.length - 1]? = some '*')
    (right : (front ++ rest)[front.length]? = some '*') : False := by
  rw [List.getElem?_append_left (by omega), ← List.getLast?_eq_getElem?] at left
  have first := getElem?_behind front rest 0
  rw [Nat.add_zero] at first
  rw [first, ← List.head?_eq_getElem?] at right
  exact apart.elim (· left) (· right)

/-- A run lies on one side of the cut, for else it would have asterisks at both sides of it. -/
theorem Maximal.beside (maximal : run.Maximal (front ++ rest)) (apart : Apart front rest) :
    run.stop ≤ front.length ∨ front.length ≤ run.start := by
  by_contra across
  have left := maximal.asterisks (front.length - 1) (by omega) (by omega)
  have right := maximal.asterisks front.length (by omega) (by omega)
  exact apart.not_both (by omega) left right

theorem Maximal.stop_le (maximal : run.Maximal chars) : run.stop ≤ chars.length := by
  have inhabited := maximal.inhabited
  have last := maximal.asterisks (run.stop - 1) (by unfold stop; omega) (by unfold stop; omega)
  have bound := (List.getElem?_eq_some_iff.mp last).1
  omega

theorem maximal_append_of_stop_le (apart : Apart front rest) (ends : run.stop ≤ front.length) :
    run.Maximal (front ++ rest) ↔ run.Maximal front := by
  have inFront : ∀ {place}, place < front.length → (front ++ rest)[place]? = front[place]? :=
    fun bound => List.getElem?_append_left bound
  have starts : run.start ≤ run.stop := by unfold stop; omega
  constructor
  · rintro ⟨inhabited, asterisks, before, after⟩
    refine ⟨inhabited, ?_, ?_, ?_⟩
    · intro place first last
      rw [← inFront (by omega)]
      exact asterisks place first last
    · intro place next
      rw [← inFront (by omega)]
      exact before place next
    · intro more
      have bound := (List.getElem?_eq_some_iff.mp more).1
      exact after (by rwa [inFront bound])
  · rintro ⟨inhabited, asterisks, before, after⟩
    refine ⟨inhabited, ?_, ?_, ?_⟩
    · intro place first last
      rw [inFront (by omega)]
      exact asterisks place first last
    · intro place next
      rw [inFront (by omega)]
      exact before place next
    · intro more
      have last := asterisks (run.stop - 1) (by unfold stop; omega) (by unfold stop; omega)
      by_cases inside : run.stop < front.length
      · exact after (by rwa [inFront inside] at more)
      · have same : run.stop = front.length := by omega
        rw [same] at last more
        rw [← inFront (by unfold stop at same; omega)] at last
        exact apart.not_both (by unfold stop at same; omega) last more

theorem maximal_append_shift (apart : Apart front rest) :
    (shift front.length run).Maximal (front ++ rest) ↔ run.Maximal rest := by
  have behind := getElem?_behind front rest
  have stops : (shift front.length run).stop = front.length + run.stop := by
    simp only [shift, stop]
    omega
  constructor
  · rintro ⟨inhabited, asterisks, before, after⟩
    rw [stops] at asterisks after
    refine ⟨inhabited, ?_, ?_, ?_⟩
    · intro place first last
      rw [← behind]
      exact asterisks _ (by simp only [shift]; omega) (by omega)
    · intro place next
      rw [← behind]
      exact before _ (by simp only [shift]; omega)
    · rwa [← behind]
  · rintro ⟨inhabited, asterisks, before, after⟩
    refine ⟨inhabited, ?_, ?_, ?_⟩
    · intro place first last
      rw [stops] at last
      simp only [shift] at first
      obtain ⟨inner, rfl⟩ := Nat.exists_eq_add_of_le (show front.length ≤ place by omega)
      rw [behind]
      exact asterisks _ (by omega) (by omega)
    · intro place next left
      simp only [shift] at next
      rcases Nat.lt_or_ge place front.length with early | late
      · have right := asterisks run.start (by omega) (by unfold stop; omega)
        rw [← behind, show front.length + run.start = front.length by omega] at right
        rw [show place = front.length - 1 by omega] at left
        exact apart.not_both (by omega) left right
      · obtain ⟨inner, rfl⟩ := Nat.exists_eq_add_of_le late
        rw [behind] at left
        exact before inner (by omega) left
    · rwa [stops, behind]

theorem maximal_append_iff (apart : Apart front rest) :
    run.Maximal (front ++ rest) ↔
      run.Maximal front ∨ ∃ inner, run = shift front.length inner ∧ inner.Maximal rest := by
  constructor
  · intro maximal
    rcases maximal.beside apart with ends | starts
    · exact .inl ((maximal_append_of_stop_le apart ends).mp maximal)
    · have same : run = shift front.length ⟨run.start - front.length, run.length⟩ := by
        obtain ⟨start, length⟩ := run
        simp only [shift, mk.injEq, and_true]
        simp only at starts
        omega
      rw [same, maximal_append_shift apart] at maximal
      exact .inr ⟨_, same, maximal⟩
  · rintro (maximal | ⟨inner, rfl, maximal⟩)
    · exact (maximal_append_of_stop_le apart maximal.stop_le).mpr maximal
    · exact (maximal_append_shift apart).mpr maximal

theorem maximal_cons_iff (other : char ≠ '*') :
    run.Maximal (char :: rest) ↔ ∃ inner, run = shift 1 inner ∧ inner.Maximal rest := by
  have apart : Apart [char] rest := .inl (by simpa using other)
  have none : ¬ run.Maximal [char] := not_maximal_of_plain (by simpa using other.symm)
  rw [← List.singleton_append, maximal_append_iff apart, or_iff_right none]
  rfl

theorem maximal_replicate_append_iff (inhabited : 0 < count) (stops : rest.head? ≠ some '*') :
    run.Maximal (List.replicate count '*' ++ rest) ↔
      run = ⟨0, count⟩ ∨ ∃ inner, run = shift count inner ∧ inner.Maximal rest := by
  rw [maximal_append_iff (.inr stops), maximal_replicate_iff inhabited, List.length_replicate]

end Run

variable {chars rest : List Char} {char : Char} {count : Nat}

theorem exists_leading_run (rest : List Char) :
    ∃ count after, 0 < count ∧ '*' :: rest = List.replicate count '*' ++ after ∧
      after.head? ≠ some '*' := by
  induction rest with
  | nil => exact ⟨1, [], by omega, rfl, by simp⟩
  | cons next rest ih =>
    by_cases asterisk : next = '*'
    · subst asterisk
      obtain ⟨count, after, inhabited, same, stops⟩ := ih
      exact ⟨count + 1, after, by omega, by rw [same]; rfl, stops⟩
    · exact ⟨1, next :: rest, by omega, rfl, by simpa using asterisk⟩

/-- A text is taken apart from the left: a character that is no asterisk, or a whole run. -/
@[elab_as_elim]
theorem run_induction {motive : List Char → Prop} (nil : motive [])
    (other : ∀ char rest, char ≠ '*' → motive rest → motive (char :: rest))
    (run : ∀ count rest, 0 < count → rest.head? ≠ some '*' → motive rest →
      motive (List.replicate count '*' ++ rest))
    (chars : List Char) : motive chars := by
  induction length : chars.length using Nat.strongRecOn generalizing chars with
  | _ length ih =>
    cases chars with
    | nil => exact nil
    | cons char rest =>
      by_cases asterisk : char = '*'
      · subst asterisk
        obtain ⟨count, after, inhabited, same, stops⟩ := exists_leading_run rest
        rw [same] at length ⊢
        rw [List.length_append, List.length_replicate] at length
        exact run count after inhabited stops (ih after.length (by omega) after rfl)
      · exact other char rest asterisk (ih rest.length (by simp [← length]) rest rfl)

theorem forall_maximal_cons_iff {P : Run → Prop} (other : char ≠ '*') :
    (∀ run : Run, run.Maximal (char :: rest) → P run) ↔
      ∀ run : Run, run.Maximal rest → P (run.shift 1) := by
  simp only [Run.maximal_cons_iff other]
  constructor
  · intro all run maximal
    exact all _ ⟨run, rfl, maximal⟩
  · rintro all _ ⟨inner, rfl, maximal⟩
    exact all inner maximal

theorem forall_maximal_replicate_append_iff {P : Run → Prop} (inhabited : 0 < count)
    (stops : rest.head? ≠ some '*') :
    (∀ run : Run, run.Maximal (List.replicate count '*' ++ rest) → P run) ↔
      P ⟨0, count⟩ ∧ ∀ run : Run, run.Maximal rest → P (run.shift count) := by
  simp only [Run.maximal_replicate_append_iff inhabited stops]
  constructor
  · intro all
    exact ⟨all _ (.inl rfl), fun run maximal => all _ (.inr ⟨run, rfl, maximal⟩)⟩
  · rintro ⟨first, later⟩ _ (rfl | ⟨inner, rfl, maximal⟩)
    · exact first
    · exact later inner maximal

def Run.Bounded (chars : List Char) (run : Run) : Prop :=
  chars[run.stop]? = none ∨ chars[run.stop]? = some '/'

theorem Run.bounded_shift_iff (run : Run) (front rest : List Char) :
    (run.shift front.length).Bounded (front ++ rest) ↔ run.Bounded rest := by
  have stops : (run.shift front.length).stop = front.length + run.stop := by
    simp only [shift, stop]
    omega
  rw [Bounded, stops, getElem?_behind, Bounded]

end Gatekeeper.Pattern
