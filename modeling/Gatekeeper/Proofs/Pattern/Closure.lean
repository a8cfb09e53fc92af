import Gatekeeper.Pattern.Matcher
import Mathlib.Data.Finset.Dedup
import Mathlib.Data.Finset.Insert
import Mathlib.Logic.Relation

/-! What the worklist of the matcher computes: the states that some given state skips to, in any
number of moves. The order in which the pending states are followed is left open. Whatever is taken up
next, the same states are reached in the end, and the matcher has one of these orders. -/
namespace Gatekeeper.Pattern

open Relation

variable {list : List Token} {states reached : List State} {state after : State}
  {given : Finset State} {work later : Worklist} {count : Nat}

def Skips (list : List Token) (state after : State) : Prop :=
  skip? list state = some after

/-- The states that have been reached, and those whose skips are still to be followed. These are a
multiset, as any of them may be next. -/
structure Worklist where
  reached : Finset State
  pending : Multiset State

namespace Worklist

def initial (given : Finset State) : Worklist :=
  ⟨given, given.val⟩

inductive Round (list : List Token) (work : Worklist) : Worklist → Prop
  | drop {state : State} (waits : state ∈ work.pending)
      (known : ∀ after, Skips list state after → after ∈ work.reached) :
      Round list work ⟨work.reached, work.pending.erase state⟩
  | add {state after : State} (waits : state ∈ work.pending) (skips : Skips list state after)
      (fresh : after ∉ work.reached) :
      Round list work ⟨insert after work.reached, after ::ₘ work.pending.erase state⟩

inductive Rounds (list : List Token) : Nat → Worklist → Worklist → Prop
  | none {work : Worklist} : Rounds list 0 work work
  | more {count : Nat} {work between later : Worklist} (first : Round list work between)
      (rest : Rounds list count between later) : Rounds list (count + 1) work later

/-- What holds from round to round: everything that is reached comes from a given state, and only a skip
from a pending one can lead to what is not reached yet. -/
structure Sound (list : List Token) (given : Finset State) (work : Worklist) : Prop where
  holds_given : given ⊆ work.reached
  reached_of_pending : ∀ state ∈ work.pending, state ∈ work.reached
  pending_or_followed : ∀ state ∈ work.reached,
    state ∈ work.pending ∨ ∀ after, Skips list state after → after ∈ work.reached
  exists_origin : ∀ state ∈ work.reached, ∃ origin ∈ given, ReflTransGen (Skips list) origin state

theorem sound_initial : (initial given).Sound list given where
  holds_given := Finset.Subset.refl given
  reached_of_pending _ mem := mem
  pending_or_followed _ mem := .inl mem
  exists_origin state mem := ⟨state, mem, .refl⟩

theorem Round.sound (round : Round list work later) (sound : work.Sound list given) :
    later.Sound list given := by
  cases round with
  | @drop state waits known =>
    refine ⟨sound.holds_given, ?_, ?_, sound.exists_origin⟩
    · intro other mem
      exact sound.reached_of_pending other (Multiset.mem_of_mem_erase mem)
    · intro other mem
      by_cases same : other = state
      · exact .inr (same ▸ known)
      · exact (sound.pending_or_followed other mem).imp_left (Multiset.mem_erase_of_ne same).mpr
  | @add state after waits skips fresh =>
    refine ⟨sound.holds_given.trans (Finset.subset_insert _ _), ?_, ?_, ?_⟩
    · intro other mem
      rcases Multiset.mem_cons.mp mem with rfl | mem
      · exact Finset.mem_insert_self _ _
      · exact Finset.mem_insert_of_mem (sound.reached_of_pending other (Multiset.mem_of_mem_erase mem))
    · intro other mem
      rcases Finset.mem_insert.mp mem with rfl | mem
      · exact .inl (Multiset.mem_cons_self _ _)
      by_cases same : other = state
      · -- A state skips to one state at most, so nothing is left to follow from the one taken out.
        refine .inr fun next moves => ?_
        obtain rfl : after = next := Option.some.inj (skips.symm.trans (same ▸ moves))
        exact Finset.mem_insert_self _ _
      · refine (sound.pending_or_followed other mem).imp (fun waits => ?_) fun followed next moves => ?_
        · exact Multiset.mem_cons_of_mem ((Multiset.mem_erase_of_ne same).mpr waits)
        · exact Finset.mem_insert_of_mem (followed next moves)
    · intro other mem
      rcases Finset.mem_insert.mp mem with rfl | mem
      · obtain ⟨origin, known, path⟩ := sound.exists_origin state (sound.reached_of_pending state waits)
        exact ⟨origin, known, path.tail skips⟩
      · exact sound.exists_origin other mem

theorem Rounds.sound (run : Rounds list count work later) (sound : work.Sound list given) :
    later.Sound list given := by
  induction run with
  | none => exact sound
  | more first _ ih => exact ih (first.sound sound)

theorem Sound.mem_reached_iff (sound : work.Sound list given) (finished : work.pending = 0) :
    state ∈ work.reached ↔ ∃ origin ∈ given, ReflTransGen (Skips list) origin state := by
  refine ⟨sound.exists_origin state, ?_⟩
  rintro ⟨origin, known, path⟩
  induction path with
  | refl => exact sound.holds_given known
  | @tail between state _ skips ih =>
    rcases sound.pending_or_followed between ih with waits | followed
    · rw [finished] at waits
      exact absurd waits (Multiset.notMem_zero between)
    · exact followed state skips

end Worklist

open Worklist

theorem pop_head (state : State) (rest : List State) :
    Multiset.erase (state :: rest : List State) state = (rest : Multiset State) := by
  rw [Multiset.coe_erase, List.erase_cons_head]

theorem drop_head {rest : List State} (known : ∀ after, Skips list state after → after ∈ reached) :
    Round list ⟨reached.toFinset, (state :: rest : List State)⟩ ⟨reached.toFinset, rest⟩ := by
  rw [← pop_head state rest]
  refine .drop (Multiset.mem_coe.mpr List.mem_cons_self) fun after skips => ?_
  exact List.mem_toFinset.mpr (known after skips)

theorem add_head {rest : List State} (skips : Skips list state after) (fresh : after ∉ reached) :
    Round list ⟨reached.toFinset, (state :: rest : List State)⟩
      ⟨(after :: reached).toFinset, (after :: rest : List State)⟩ := by
  rw [List.toFinset_cons, ← Multiset.cons_coe after rest, ← pop_head state rest]
  exact .add (Multiset.mem_coe.mpr List.mem_cons_self) skips (mt List.mem_toFinset.mp fresh)

/-- The matcher takes up first what has been added last. -/
theorem exists_rounds_settle (list : List Token) (reached pending : List State) :
    ∃ count, Rounds list count ⟨reached.toFinset, pending⟩
      ⟨(settle list reached pending).toFinset, 0⟩ := by
  fun_induction settle list reached pending with
  | case1 reached => exact ⟨0, .none⟩
  | case2 reached state rest stuck ih =>
    obtain ⟨count, run⟩ := ih
    refine ⟨count + 1, .more (drop_head fun after skips => ?_) run⟩
    cases stuck.symm.trans skips
  | case3 reached state rest next skipped old ih =>
    obtain ⟨count, run⟩ := ih
    refine ⟨count + 1, .more (drop_head fun after skips => ?_) run⟩
    exact Option.some.inj (skipped.symm.trans skips) ▸ old
  | case4 reached state rest next skipped fresh ih =>
    obtain ⟨count, run⟩ := ih
    exact ⟨count + 1, .more (add_head skipped fresh) run⟩

theorem nodup_eraseDups (states : List State) : states.eraseDups.Nodup := by
  cases states with
  | nil => exact List.nodup_nil
  | cons state rest =>
    rw [List.eraseDups_cons, List.nodup_cons]
    refine ⟨fun again => ?_, nodup_eraseDups _⟩
    simpa using List.of_mem_filter (List.mem_eraseDups.mp again)
termination_by states.length
decreasing_by exact Nat.lt_succ_of_le (List.length_filter_le _ _)

theorem coe_eraseDups (states : List State) :
    (states.eraseDups : Multiset State) = states.toFinset.val := by
  rw [List.toFinset_val, Multiset.coe_eq_coe]
  refine (List.perm_ext_iff_of_nodup (nodup_eraseDups states) (List.nodup_dedup states)).mpr ?_
  intro state
  rw [List.mem_eraseDups, List.mem_dedup]

theorem exists_rounds_closure (list : List Token) (states : List State) :
    ∃ count, Rounds list count (initial states.toFinset) ⟨(closure list states).toFinset, 0⟩ := by
  have run := exists_rounds_settle list states.eraseDups states.eraseDups
  have same : states.eraseDups.toFinset = states.toFinset := by
    ext state
    rw [List.mem_toFinset, List.mem_toFinset, List.mem_eraseDups]
  rwa [same, coe_eraseDups] at run

theorem mem_closure_iff :
    state ∈ closure list states ↔ ∃ origin ∈ states, ReflTransGen (Skips list) origin state := by
  obtain ⟨count, run⟩ := exists_rounds_closure list states
  have sound := run.sound sound_initial
  have reached : state ∈ (closure list states).toFinset ↔ _ := sound.mem_reached_iff rfl
  simpa using reached

theorem subset_closure (mem : state ∈ states) : state ∈ closure list states :=
  mem_closure_iff.mpr ⟨state, mem, .refl⟩

theorem closure_closed (mem : state ∈ closure list states) (skips : Skips list state after) :
    after ∈ closure list states := by
  obtain ⟨origin, known, path⟩ := mem_closure_iff.mp mem
  exact mem_closure_iff.mpr ⟨origin, known, path.tail skips⟩

theorem mem_closure_cases (mem : state ∈ closure list states) :
    state ∈ states ∨ ∃ index < list.length, state = ⟨index + 1, 0⟩ := by
  obtain ⟨origin, known, path⟩ := mem_closure_iff.mp mem
  rcases path.cases_tail with rfl | ⟨before, -, skips⟩
  · exact .inl known
  · exact .inr ⟨before.index, skip?_eq_some skips⟩

end Gatekeeper.Pattern
