import Gatekeeper.Proofs.Pattern.Live
import Mathlib.Algebra.Ring.Nat

/-! How many states are live. Every move leads to a stage of some token or behind the last one, and no
state is kept twice. So there are never more live states than places in the list of tokens, whatever is
read and however long it is. -/
namespace Gatekeeper.Pattern

variable {list : List Token} {token : Token} {states reached pending : List State} {state after : State}
  {char : Char} {index stage before : Nat}

def Token.lastStage : Token → Nat
  | .literal _ | .anything => 0
  | .subtree => 1
  | .segments => 2

structure State.Placed (list : List Token) (state : State) : Prop where
  index_le : state.index ≤ list.length
  stage_le : state.stage ≤ list[state.index]?.elim 0 Token.lastStage

theorem placed_begin (bound : index ≤ list.length) : State.Placed list ⟨index, 0⟩ :=
  ⟨bound, Nat.zero_le _⟩

theorem within?_le (within : token.within? char before = some stage) : stage ≤ token.lastStage := by
  cases token with
  | literal _ => cases within
  | segments =>
    simp only [Token.within?] at within
    split at within
    · cases within
      decide
    · split at within <;> cases within
      decide
  | anything =>
    cases within
    exact Nat.le_refl 0
  | subtree =>
    simp only [Token.within?] at within
    split at within <;> cases within
    decide

theorem placed_of_step? (reads : step? list char state = some after) : after.Placed list := by
  obtain ⟨token, found, ⟨-, rfl⟩ | ⟨stage, within, rfl⟩⟩ := step?_eq_some_iff.mp reads
  · exact placed_begin (List.getElem?_eq_some_iff.mp found).1
  · refine ⟨(List.getElem?_eq_some_iff.mp found).1.le, ?_⟩
    rw [found]
    exact within?_le within

theorem nodup_settle (distinct : reached.Nodup) : (settle list reached pending).Nodup := by
  fun_induction settle list reached pending with
  | case1 => exact distinct
  | case2 _ _ _ _ ih => exact ih distinct
  | case3 _ _ _ _ _ _ ih => exact ih distinct
  | case4 _ _ _ _ _ fresh ih => exact ih (List.nodup_cons.mpr ⟨fresh, distinct⟩)

structure Bounded (list : List Token) (states : List State) : Prop where
  placed : ∀ state ∈ states, state.Placed list
  distinct : states.Nodup

theorem bounded_closure (placed : ∀ state ∈ states, state.Placed list) :
    Bounded list (closure list states) := by
  refine ⟨fun state mem => ?_, nodup_settle (nodup_eraseDups states)⟩
  rcases mem_closure_cases mem with known | ⟨index, bound, rfl⟩
  · exact placed state known
  · exact placed_begin bound

theorem bounded_start : Bounded list (start list) :=
  bounded_closure (by simpa using placed_begin (Nat.zero_le _))

theorem bounded_next (states : List State) (char : Char) : Bounded list (next list states char) := by
  apply bounded_closure
  intro after mem
  obtain ⟨state, -, reads⟩ := List.mem_filterMap.mp mem
  exact placed_of_step? reads

theorem bounded_live (text : List Char) : Bounded list (live list text) := by
  -- No induction: what a character leads to is bounded from whatever states it was read.
  rcases List.eq_nil_or_concat' text with rfl | ⟨front, last, rfl⟩
  · exact bounded_start
  · rw [live_concat]
    exact bounded_next _ last

def places (list : List Token) : List State :=
  list.zipIdx.flatMap (fun (token, index) => (List.range (token.lastStage + 1)).map (State.mk index)) ++
    [⟨list.length, 0⟩]

theorem State.Placed.mem_places (placed : state.Placed list) : state ∈ places list := by
  obtain ⟨index, stage⟩ := state
  obtain ⟨bound, within⟩ := placed
  rw [places, List.mem_append]
  cases found : list[index]? with
  | none =>
    have ends : index = list.length := Nat.le_antisymm bound (List.getElem?_eq_none_iff.mp found)
    have last : stage = 0 := by simpa [found] using within
    exact .inr (by simp [ends, last])
  | some token =>
    have inside : (token, index) ∈ list.zipIdx := List.mem_zipIdx_iff_getElem?.mpr found
    have known : stage ≤ token.lastStage := by simpa [found] using within
    refine .inl (List.mem_flatMap.mpr ⟨_, inside, List.mem_map.mpr ⟨stage, ?_, rfl⟩⟩)
    rw [List.mem_range]
    omega

theorem length_places : (places list).length = (list.map fun token => token.lastStage + 1).sum + 1 := by
  have stages : (fun place : Token × Nat => place.1.lastStage + 1) =
      (fun token => token.lastStage + 1) ∘ Prod.fst := rfl
  simp only [places, List.length_append, List.length_flatMap, List.length_map, List.length_range,
    List.length_singleton]
  rw [stages, ← List.map_map, List.zipIdx_map_fst]

theorem sum_stages_le : (list.map fun token => token.lastStage + 1).sum ≤ 3 * list.length := by
  induction list with
  | nil => exact Nat.le_refl 0
  | cons token rest ih =>
    have three : token.lastStage ≤ 2 := by cases token <;> simp [Token.lastStage]
    rw [List.map_cons, List.sum_cons, List.length_cons]
    omega

theorem Bounded.length_le (bounded : Bounded list states) :
    states.length ≤ (list.map fun token => token.lastStage + 1).sum + 1 := by
  rw [← length_places]
  exact bounded.distinct.length_le_of_subset fun state mem => (bounded.placed state mem).mem_places

theorem length_tokens_le (chars : List Char) : (tokens chars).length ≤ chars.length := by
  fun_induction tokens chars with
  | case1 => exact Nat.le_refl 0
  | case2 => decide
  | case3 rest ih => simp only [List.length_cons]; omega
  | case4 rest _ ih => simp only [List.length_cons]; omega
  | case5 char rest _ _ _ ih => simp only [List.length_cons]; omega

/-- However a path goes on, the states that are live when some of it has been read are placed, each is
held once, and there are not more of them than stages of the tokens, and one. A token has three stages at
most, and a pattern no more tokens than characters. -/
theorem live_states_stay_few (pattern read rest : String) :
    let list := compile pattern
    let states := live list read.toList
    accepts pattern (read ++ rest) = reads list states rest.toList ∧
    (∀ state ∈ states, state.index ≤ list.length ∧
      state.stage ≤ list[state.index]?.elim 0 Token.lastStage) ∧
    states.Nodup ∧
    states.length ≤ (list.map fun token => token.lastStage + 1).sum + 1 ∧
    states.length ≤ 3 * list.length + 1 ∧
    list.length ≤ pattern.length := by
  intro list states
  have bounded : Bounded list states := bounded_live read.toList
  have stages : states.length ≤ _ := bounded.length_le
  have tokens : list.length ≤ pattern.length := by
    rw [← String.length_toList]
    exact length_tokens_le pattern.toList
  refine ⟨accepts_append pattern read rest, fun state mem => ?_, bounded.distinct, stages, ?_, tokens⟩
  · exact ⟨(bounded.placed state mem).index_le, (bounded.placed state mem).stage_le⟩
  · exact stages.trans (Nat.succ_le_succ sum_stages_le)

end Gatekeeper.Pattern
