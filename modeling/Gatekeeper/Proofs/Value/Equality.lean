import Gatekeeper.Value.Basic
import Mathlib.Algebra.Order.Field.Rat
import Mathlib.Tactic.NormNum

/-! How keys are compared. Every value is the same as itself, also a number that is undefined, and
among values that can be keys being the same is symmetric and transitive. -/
namespace Gatekeeper

namespace Number

theorem Quantity.same_finite_iff {a b i j : Int} :
    (Quantity.finite a i).same (.finite b j) = true ↔ (a : ℚ) * 2 ^ i = b * 2 ^ j := by
  have power : ∀ k m : Int, m ≤ k → (2 : ℚ) ^ k = 2 ^ (k - m).toNat * 2 ^ m := by
    intro k m le
    rw [← zpow_natCast, ← zpow_add₀ (by norm_num), Int.toNat_of_nonneg (by omega), Int.sub_add_cancel]
  rw [power i (min i j) (by omega), power j (min i j) (by omega), ← mul_assoc, ← mul_assoc,
    mul_left_inj' (zpow_ne_zero _ (by norm_num)), Quantity.same, beq_iff_eq]
  exact_mod_cast Iff.rfl

theorem Quantity.same_cases {p q : Quantity} (same : p.same q = true) :
    q.same p = true ∧ ∀ r, p.same r = q.same r := by
  cases p with
  | finite a i =>
    cases q with
    | finite b j =>
      have equation := same_finite_iff.mp same
      refine ⟨same_finite_iff.mpr equation.symm, fun r => ?_⟩
      cases r with
      | finite c k => rw [Bool.eq_iff_iff, same_finite_iff, same_finite_iff, equation]
      | _ => rfl
    | _ => cases same
  | infinite a =>
    cases q with
    | infinite b =>
      obtain rfl : a = b := by simpa [Quantity.same] using same
      exact ⟨same, fun _ => rfl⟩
    | _ => cases same
  | undefined a =>
    cases q with
    | undefined b =>
      obtain rfl : a = b := by simpa [Quantity.same] using same
      exact ⟨same, fun _ => rfl⟩
    | _ => cases same

theorem Quantity.same_self (p : Quantity) : p.same p = true := by
  cases p <;> simp [Quantity.same]

theorem Moment.same_self (a : Moment) : a.same a = true := by
  simp [Moment.same]

theorem Moment.same_cases {a b : Moment} (same : a.same b = true) :
    b.same a = true ∧ ∀ c, a.same c = b.same c := by
  unfold Moment.same at *
  simp only [Bool.or_eq_true, Bool.and_eq_true, beq_iff_eq] at same ⊢
  rcases same with rfl | ⟨known, instant⟩
  · exact ⟨.inl rfl, fun _ => rfl⟩
  · refine ⟨.inr ⟨instant ▸ known, instant.symm⟩, fun c => ?_⟩
    rw [Bool.eq_iff_iff]
    simp only [Bool.or_eq_true, Bool.and_eq_true, beq_iff_eq, ← instant]
    constructor
    · rintro (rfl | other)
      · exact .inr ⟨known, rfl⟩
      · exact .inr other
    · rintro (rfl | other)
      · exact .inr ⟨known, instant⟩
      · exact .inr other

end Number

namespace Value

open Number

variable {β : Type} {a b c : Value} {parts : Value → Option β} {rel : β → β → Bool} {x : β}

/-- Values with parts of a kind are compared by these, and none is the same as a value without them. -/
def ComparedBy (parts : Value → Option β) (rel : β → β → Bool) : Prop :=
  ∀ a b x, parts a = some x → a.same b = (parts b).any (rel x)

theorem ComparedBy.cases (compared : ComparedBy parts rel) (left : parts a = some x)
    (same : a.same b = true)
    (alike : ∀ y, rel x y = true → rel y x = true ∧ ∀ z, rel x z = rel y z) :
    b.same a = true ∧ ∀ c, a.same c = b.same c := by
  rw [compared a b x left, Option.any_eq_true] at same
  obtain ⟨y, right, sameParts⟩ := same
  obtain ⟨back, congr⟩ := alike y sameParts
  refine ⟨?_, fun c => ?_⟩
  · rw [compared b a y right, left]
    exact back
  · rw [compared a c x left, compared b c y right, funext congr]

theorem beq_cases [BEq β] [LawfulBEq β] {x y : β} (same : (x == y) = true) :
    (y == x) = true ∧ ∀ z, (x == z) = (y == z) := by
  obtain rfl := eq_of_beq same
  exact ⟨same, fun _ => rfl⟩

def moment? : Value → Option Moment
  | .moment time => some time
  | _ => none

def tuple? : Value → Option (List Value)
  | .tuple items => some items
  | _ => none

/-- What tells an object or a function of the host apart from others of its sort. -/
def object? : Value → Option Nat
  | .object id _ => some id
  | _ => none

def callback? : Value → Option Nat
  | .callback id _ => some id
  | _ => none

def pending? : Value → Option Nat
  | .pending id _ _ => some id
  | _ => none

def rule? : Value → Option (RuleKind × Value × Value × Value)
  | .rule kind pattern requirement target => some (kind, pattern, requirement, target)
  | _ => none

def context? : Value → Option Value
  | .context session => some session
  | _ => none

def hooks? : Value → Option (Value × Value × Value)
  | .hooks role permissions check => some (role, permissions, check)
  | _ => none

theorem comparedBy_quantity : ComparedBy quantity? Quantity.same := by
  rintro a b x left
  cases a <;> cases left <;> cases b <;> simp [Value.same, quantity?]

theorem comparedBy_moment : ComparedBy moment? Moment.same := by
  rintro a b x left
  cases a <;> cases left
  cases b <;> simp [Value.same, quantity?, moment?]

theorem comparedBy_tuple : ComparedBy tuple? sameList := by
  rintro a b x left
  cases a <;> cases left
  cases b <;> simp [Value.same, quantity?, tuple?]

theorem comparedBy_object : ComparedBy object? (· == ·) := by
  rintro a b x left
  cases a <;> cases left
  cases b <;> simp [Value.same, quantity?, object?]

theorem comparedBy_callback : ComparedBy callback? (· == ·) := by
  rintro a b x left
  cases a <;> cases left
  cases b <;> simp [Value.same, quantity?, callback?]

theorem comparedBy_pending : ComparedBy pending? (· == ·) := by
  rintro a b x left
  cases a <;> cases left
  cases b <;> simp [Value.same, quantity?, pending?]

theorem comparedBy_context : ComparedBy context? Value.same := by
  rintro a b x left
  cases a <;> cases left
  cases b <;> simp [Value.same, quantity?, context?]

theorem comparedBy_rule : ComparedBy rule? fun rule other =>
    rule.1 == other.1 && Value.same rule.2.1 other.2.1 && Value.same rule.2.2.1 other.2.2.1 &&
      Value.same rule.2.2.2 other.2.2.2 := by
  rintro a b x left
  cases a <;> cases left
  cases b <;> simp [Value.same, quantity?, rule?]

theorem comparedBy_hooks : ComparedBy hooks? fun hooks other =>
    Value.same hooks.1 other.1 && Value.same hooks.2.1 other.2.1 &&
      Value.same hooks.2.2 other.2.2 := by
  rintro a b x left
  cases a <;> cases left
  cases b <;> simp [Value.same, quantity?, hooks?]

mutual

theorem same_self (a : Value) : a.same a = true := by
  cases a with
  | bool | int | float => simp [Value.same, quantity?, Quantity.same_self]
  | moment => simp [Value.same, Moment.same_self]
  | list items | tuple items | knot items => simp [Value.same, sameList_self items]
  | set items => simp [Value.same, among_of_subset items fun _ mem => mem]
  | table entries | view entries | ownRequest entries =>
    simp [Value.same, within_of_subset entries fun _ mem => mem]
  | rule kind pattern requirement target =>
    simp [Value.same, same_self pattern, same_self requirement, same_self target]
  | context session | scopedRequest session => simp [Value.same, same_self session]
  | hooks role permissions check =>
    simp [Value.same, same_self role, same_self permissions, same_self check]
  | _ => simp [Value.same]

theorem sameList_self (items : List Value) : sameList items items = true := by
  cases items with
  | nil => rw [sameList]
  | cons item rest => rw [sameList, same_self item, sameList_self rest, Bool.and_self]

theorem among_of_subset (items : List Value) {others : List Value} (part : items ⊆ others) :
    among items others = true := by
  cases items with
  | nil => rw [among]
  | cons item rest =>
    obtain ⟨here, more⟩ := List.cons_subset.mp part
    rw [among, Bool.and_eq_true, List.any_eq_true]
    exact ⟨⟨item, here, same_self item⟩, among_of_subset rest more⟩

theorem within_of_subset (entries : List (Value × Value)) {others : List (Value × Value)}
    (part : entries ⊆ others) : within entries others = true := by
  match entries with
  | [] => rw [within]
  | (key, value) :: rest =>
    obtain ⟨here, more⟩ := List.cons_subset.mp part
    rw [within, found, Bool.and_eq_true, List.any_eq_true]
    exact ⟨⟨(key, value), here, by rw [same_self key, same_self value, Bool.and_self]⟩,
      within_of_subset rest more⟩

end

mutual

theorem same_cases {a b : Value} (keyable : a.hashable = true) (same : a.same b = true) :
    b.same a = true ∧ ∀ c, a.same c = b.same c := by
  cases a with
  | bool | int | float => exact comparedBy_quantity.cases rfl same fun _ => Quantity.same_cases
  | moment => exact comparedBy_moment.cases rfl same fun _ => Moment.same_cases
  | object => exact comparedBy_object.cases rfl same fun _ => beq_cases
  | callback => exact comparedBy_callback.cases rfl same fun _ => beq_cases
  | pending => exact comparedBy_pending.cases rfl same fun _ => beq_cases
  | tuple items =>
    simp only [hashable] at keyable
    exact comparedBy_tuple.cases rfl same fun _ => sameList_cases keyable
  | context session =>
    simp only [hashable] at keyable
    exact comparedBy_context.cases rfl same fun _ => same_cases keyable
  | rule kind pattern requirement target =>
    simp only [hashable, Bool.and_eq_true] at keyable
    refine comparedBy_rule.cases rfl same fun other alike => ?_
    simp only [Bool.and_eq_true] at alike ⊢
    obtain ⟨kindBack, kindCongr⟩ := beq_cases alike.1.1.1
    obtain ⟨patternBack, patternCongr⟩ := same_cases keyable.1.1 alike.1.1.2
    obtain ⟨requirementBack, requirementCongr⟩ := same_cases keyable.1.2 alike.1.2
    obtain ⟨targetBack, targetCongr⟩ := same_cases keyable.2 alike.2
    refine ⟨⟨⟨⟨kindBack, patternBack⟩, requirementBack⟩, targetBack⟩, fun more => ?_⟩
    rw [kindCongr, patternCongr, requirementCongr, targetCongr]
  | hooks role permissions check =>
    simp only [hashable, Bool.and_eq_true] at keyable
    refine comparedBy_hooks.cases rfl same fun other alike => ?_
    simp only [Bool.and_eq_true] at alike ⊢
    obtain ⟨roleBack, roleCongr⟩ := same_cases keyable.1.1 alike.1.1
    obtain ⟨permissionsBack, permissionsCongr⟩ := same_cases keyable.1.2 alike.1.2
    obtain ⟨checkBack, checkCongr⟩ := same_cases keyable.2 alike.2
    refine ⟨⟨⟨roleBack, permissionsBack⟩, checkBack⟩, fun more => ?_⟩
    rw [roleCongr, permissionsCongr, checkCongr]
  | list | set | table | view | ownRequest | scopedRequest | knot => simp [hashable] at keyable
  | _ =>
    -- The others are equal only to themselves.
    cases b <;> simp [Value.same, quantity?] at same
    all_goals first | subst same | skip
    all_goals exact ⟨by simp [Value.same], fun _ => rfl⟩

theorem sameList_cases {items others : List Value} (keyable : hashableAll items = true)
    (same : sameList items others = true) :
    sameList others items = true ∧ ∀ more, sameList items more = sameList others more := by
  cases items with
  | nil =>
    cases others with
    | nil => exact ⟨same, fun _ => rfl⟩
    | cons => simp [sameList] at same
  | cons a items =>
    cases others with
    | nil => simp [sameList] at same
    | cons b others =>
      simp only [hashableAll, sameList, Bool.and_eq_true] at keyable same ⊢
      obtain ⟨back, congr⟩ := same_cases keyable.1 same.1
      obtain ⟨backs, congrs⟩ := sameList_cases keyable.2 same.2
      refine ⟨⟨back, backs⟩, fun more => ?_⟩
      cases more with
      | nil => simp [sameList]
      | cons c more => rw [sameList, sameList, congr, congrs]

end

theorem same_symm (keyable : a.hashable = true) (same : a.same b = true) : b.same a = true :=
  (same_cases keyable same).1

theorem same_congr (keyable : a.hashable = true) (same : a.same b = true) (c : Value) :
    a.same c = b.same c :=
  (same_cases keyable same).2 c

theorem same_of_common (keyable : a.hashable = true) (keyableToo : b.hashable = true)
    (same : a.same c = true) (sameToo : b.same c = true) : a.same b = true := by
  rw [same_congr keyable same]
  exact same_symm keyableToo sameToo

end Value

end Gatekeeper
