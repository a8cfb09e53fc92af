import Gatekeeper.Proofs.Pattern.Language
import Mathlib.Data.Finset.Card
import Mathlib.Order.Bounds.Basic

/-! The loop over the pending states ends in every order of them, after as many rounds as there are states
to reach. What it has reached then is the least set with the given states that no skip leads out of, and so
the laws of a closure hold of it. -/
namespace Gatekeeper.Pattern

open Worklist

variable {list : List Token} {states more : List State} {state : State} {within : Set State}
  {given : Finset State} {work later : Worklist} {count : Nat}

def Settled (list : List Token) (within : Set State) : Prop :=
  ∀ state ∈ within, ∀ token, list[state.index]? = some token → token.Leaves state.stage →
    ⟨state.index + 1, 0⟩ ∈ within

theorem settled_iff :
    Settled list within ↔ ∀ state ∈ within, ∀ after, Skips list state after → after ∈ within := by
  constructor
  · intro settled state mem after skips
    obtain ⟨token, found, leaves, rfl⟩ := skip?_eq_some_iff.mp skips
    exact settled state mem token found leaves
  · intro closed state mem token found leaves
    exact closed state mem _ (skip?_eq_some_iff.mpr ⟨token, found, leaves, rfl⟩)

theorem isLeast_closure (list : List Token) (states : List State) :
    IsLeast {within | {state | state ∈ states} ⊆ within ∧ Settled list within}
      {state | state ∈ closure list states} := by
  constructor
  · refine ⟨fun state mem => subset_closure mem, settled_iff.mpr fun state mem after skips => ?_⟩
    exact closure_closed mem skips
  · rintro within ⟨holds, settled⟩ state mem
    obtain ⟨origin, known, path⟩ := mem_closure_iff.mp mem
    induction path with
    | refl => exact holds known
    | tail path skips ih =>
      exact settled_iff.mp settled _ (ih (mem_closure_iff.mpr ⟨origin, known, path⟩)) _ skips

theorem closure_mono (sub : states ⊆ more) : closure list states ⊆ closure list more := by
  intro state mem
  obtain ⟨origin, known, path⟩ := mem_closure_iff.mp mem
  exact mem_closure_iff.mpr ⟨origin, sub known, path⟩

theorem mem_closure_closure_iff :
    state ∈ closure list (closure list states) ↔ state ∈ closure list states := by
  refine ⟨fun mem => ?_, subset_closure⟩
  obtain ⟨between, reached, further⟩ := mem_closure_iff.mp mem
  obtain ⟨origin, known, path⟩ := mem_closure_iff.mp reached
  exact mem_closure_iff.mpr ⟨origin, known, path.trans further⟩

theorem mem_closure_union_iff :
    state ∈ closure list (states ∪ more) ↔ state ∈ closure list states ∨ state ∈ closure list more := by
  simp only [mem_closure_iff, List.mem_union_iff, or_and_right, exists_or]

theorem card_closure_le (list : List Token) (states : List State) :
    (closure list states).toFinset.card ≤ states.toFinset.card + list.length := by
  have sub : (closure list states).toFinset ⊆
      states.toFinset ∪ (Finset.range list.length).image fun index => ⟨index + 1, 0⟩ := by
    intro state mem
    rw [Finset.mem_union, List.mem_toFinset, Finset.mem_image]
    refine (mem_closure_cases (List.mem_toFinset.mp mem)).imp_right ?_
    rintro ⟨index, bound, rfl⟩
    exact ⟨index, Finset.mem_range.mpr bound, rfl⟩
  calc (closure list states).toFinset.card
      ≤ (states.toFinset ∪ (Finset.range list.length).image fun index => ⟨index + 1, 0⟩).card :=
        Finset.card_le_card sub
    _ ≤ states.toFinset.card + ((Finset.range list.length).image fun index => _).card :=
        Finset.card_union_le _ _
    _ ≤ states.toFinset.card + (Finset.range list.length).card :=
        Nat.add_le_add_left Finset.card_image_le _
    _ = states.toFinset.card + list.length := by rw [Finset.card_range]

namespace Worklist

/-- A round leaves one pending state less, but what it adds is reached and pending. -/
theorem Round.card (round : Round list work later) :
    later.pending.card + 1 + work.reached.card = work.pending.card + later.reached.card := by
  cases round with
  | drop waits known => rw [Multiset.card_erase_add_one waits]
  | add waits skips fresh =>
    rw [Multiset.card_cons, Multiset.card_erase_add_one waits, Finset.card_insert_of_notMem fresh]
    omega

theorem Rounds.card (run : Rounds list count work later) :
    count + later.pending.card + work.reached.card = work.pending.card + later.reached.card := by
  induction run with
  | none => omega
  | more first _ ih =>
    have one := first.card
    omega

theorem card_reached (run : Rounds list count (initial given) work) :
    count + work.pending.card = work.reached.card := by
  have rounds := run.card
  have same : (initial given).pending.card = (initial given).reached.card := rfl
  omega

theorem exists_round (waits : state ∈ work.pending) :
    ∃ reached added, Round list work ⟨reached, added + work.pending.erase state⟩ := by
  by_cases fresh : ∃ after, Skips list state after ∧ after ∉ work.reached
  · obtain ⟨after, skips, new⟩ := fresh
    refine ⟨insert after work.reached, {after}, ?_⟩
    rw [Multiset.singleton_add]
    exact .add waits skips new
  · refine ⟨work.reached, 0, ?_⟩
    rw [Multiset.zero_add]
    exact .drop waits fun after skips => not_not.mp fun new => fresh ⟨after, skips, new⟩

theorem Sound.reached_subset (sound : work.Sound list states.toFinset) :
    work.reached ⊆ (closure list states).toFinset := by
  intro state mem
  obtain ⟨origin, known, path⟩ := sound.exists_origin state mem
  exact List.mem_toFinset.mpr (mem_closure_iff.mpr ⟨origin, List.mem_toFinset.mp known, path⟩)

theorem Sound.reached_eq (sound : work.Sound list states.toFinset) (finished : work.pending = 0) :
    work.reached = (closure list states).toFinset := by
  ext state
  rw [sound.mem_reached_iff finished, List.mem_toFinset, mem_closure_iff]
  simp only [List.mem_toFinset]

end Worklist

/-- The loop may take up any pending state next, and none of them is beyond the end of the list unless a
given one is. It takes up every state once, so it ends after as many rounds as states are reached, which are
the given ones and at most one for each token. In every order it reaches the same states as the matcher:
the least set with the given ones that no skip leads out of. Closing it once more adds nothing, more states
have a larger closure, and the closure of a union is the union of the closures. -/
theorem closure_is_least_in_every_order (list : List Token) (states more : List State) :
    let result := (closure list states).toFinset
    (∀ count work, Rounds list count (initial states.toFinset) work →
      (∀ state ∈ work.pending, ∃ reached added,
        Round list work ⟨reached, added + work.pending.erase state⟩) ∧
      ((∀ state ∈ states, state.index ≤ list.length) →
        ∀ state ∈ work.pending, state.index ≤ list.length) ∧
      count + work.pending.card ≤ result.card ∧
      (work.pending = 0 → work.reached = result ∧ count = result.card)) ∧
    Rounds list result.card (initial states.toFinset) ⟨result, 0⟩ ∧
    result.card ≤ states.toFinset.card + list.length ∧
    IsLeast {within | {state | state ∈ states} ⊆ within ∧ Settled list within}
      {state | state ∈ closure list states} ∧
    (closure list (closure list states)).toFinset = result ∧
    (states ⊆ more → closure list states ⊆ closure list more) ∧
    (closure list (states ∪ more)).toFinset = result ∪ (closure list more).toFinset := by
  intro result
  refine ⟨fun count work run => ?_, ?_, card_closure_le list states, isLeast_closure list states, ?_,
    closure_mono, ?_⟩
  · have sound : work.Sound list states.toFinset := run.sound sound_initial
    have rounds : count + work.pending.card = work.reached.card := card_reached run
    refine ⟨fun state => exists_round, ?_, ?_, ?_⟩
    · intro inside state waits
      have reached : state ∈ result := sound.reached_subset (sound.reached_of_pending state waits)
      rcases mem_closure_cases (List.mem_toFinset.mp reached) with known | ⟨index, bound, rfl⟩
      · exact inside state known
      · exact bound
    · rw [rounds]
      exact Finset.card_le_card sound.reached_subset
    · intro finished
      have all : work.reached = result := sound.reached_eq finished
      rw [finished, all] at rounds
      exact ⟨all, rounds⟩
  · obtain ⟨count, run⟩ := exists_rounds_closure list states
    have rounds : count = result.card := card_reached run
    rwa [rounds] at run
  · ext state
    rw [List.mem_toFinset, List.mem_toFinset, mem_closure_closure_iff]
  · ext state
    rw [Finset.mem_union, List.mem_toFinset, List.mem_toFinset, List.mem_toFinset,
      mem_closure_union_iff]

theorem later_wildcard_followed_first :
    let list := [Token.anything, Token.subtree]
    let states : List State := [⟨0, 0⟩, ⟨1, 1⟩]
    let more : List State := [⟨1, 0⟩, ⟨1, 1⟩, ⟨0, 0⟩]
    let last : Worklist := ⟨{⟨1, 0⟩, ⟨2, 0⟩, ⟨0, 0⟩, ⟨1, 1⟩}, 0⟩
    (Rounds list 4 (initial states.toFinset) last ∧ (∀ state ∈ states, state.index ≤ list.length) ∧
      states ⊆ more) ∧
    last.reached = (closure list states).toFinset ∧ closure list states ⊆ closure list more := by
  intro list states more last
  have second : Round list (initial states.toFinset)
      ⟨{⟨2, 0⟩, ⟨0, 0⟩, ⟨1, 1⟩}, {⟨2, 0⟩, ⟨0, 0⟩}⟩ :=
    @Round.add _ _ ⟨1, 1⟩ ⟨2, 0⟩ (by decide) rfl (by decide)
  have behind : Round list ⟨{⟨2, 0⟩, ⟨0, 0⟩, ⟨1, 1⟩}, {⟨2, 0⟩, ⟨0, 0⟩}⟩
      ⟨{⟨2, 0⟩, ⟨0, 0⟩, ⟨1, 1⟩}, {⟨0, 0⟩}⟩ :=
    @Round.drop _ _ ⟨2, 0⟩ (by decide) (by rintro after ⟨⟩)
  have first : Round list ⟨{⟨2, 0⟩, ⟨0, 0⟩, ⟨1, 1⟩}, {⟨0, 0⟩}⟩
      ⟨{⟨1, 0⟩, ⟨2, 0⟩, ⟨0, 0⟩, ⟨1, 1⟩}, {⟨1, 0⟩}⟩ :=
    @Round.add _ _ ⟨0, 0⟩ ⟨1, 0⟩ (by decide) rfl (by decide)
  have known : Round list ⟨{⟨1, 0⟩, ⟨2, 0⟩, ⟨0, 0⟩, ⟨1, 1⟩}, {⟨1, 0⟩}⟩ last :=
    @Round.drop _ _ ⟨1, 0⟩ (by decide) (by rintro after ⟨⟩; decide)
  have run : Rounds list 4 (initial states.toFinset) last :=
    .more second (.more behind (.more first (.more known .none)))
  have sub : states ⊆ more := by decide
  obtain ⟨every, -, -, -, -, mono, -⟩ := closure_is_least_in_every_order list states more
  obtain ⟨-, -, -, ends⟩ := every 4 last run
  exact ⟨⟨run, by decide, sub⟩, (ends rfl).1, mono sub⟩

end Gatekeeper.Pattern
