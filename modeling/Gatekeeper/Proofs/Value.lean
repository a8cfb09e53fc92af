import Gatekeeper.Value.Access

/-! Texts among values, what tells null from the others, and what reading a value can raise. -/
namespace Gatekeeper

variable {α β : Type}

/-- What the library itself may raise while it decides. A redirection is for an application to
raise, afterwards. -/
def Fault.Ordinary : Fault → Prop
  | .redirection _ _ => False
  | _ => True

def Ordinary (outcome : Except Fault α) : Prop :=
  ∀ fault, outcome = .error fault → fault.Ordinary

@[simp] theorem ordinary_ok (value : α) : Ordinary (.ok value : Except Fault α) := by
  rintro _ ⟨⟩

@[simp] theorem ordinary_error_iff {fault : Fault} :
    Ordinary (.error fault : Except Fault α) ↔ fault.Ordinary :=
  ⟨fun ordinary => ordinary fault rfl, by rintro ordinary _ ⟨⟩; exact ordinary⟩

theorem Ordinary.bind {first : Except Fault α} {next : α → Except Fault β} (ordinary : Ordinary first)
    (rest : ∀ value, Ordinary (next value)) : Ordinary (first >>= next) := by
  cases first with
  | error fault => exact ordinary_error_iff.mpr (ordinary fault rfl)
  | ok value => exact rest value

namespace Value

variable {a b value : Value} {items : List Value}

@[simp] theorem isNull_null : Value.null.isNull = true := rfl

@[simp] theorem isNull_eq_false_iff : value.isNull = false ↔ value ≠ .null := by
  rw [← Bool.not_eq_true, isNull_iff]

def IsText (value : Value) : Prop :=
  value.letters?.isSome = true

theorem isText_iff :
    value.IsText ↔ (∃ text, value = .str text) ∨ ∃ letters, value = .torn letters := by
  cases value <;> simp [IsText, letters?]

/-- Among texts, and between null and a text, nothing is equal that differs. -/
theorem same_iff_eq (left : a = .null ∨ a.IsText) (right : b.IsText) :
    a.same b = true ↔ a = b := by
  rcases isText_iff.mp right with ⟨text, rfl⟩ | ⟨letters, rfl⟩ <;>
    rcases left with rfl | left
  · simp [same, quantity?]
  · rcases isText_iff.mp left with ⟨text, rfl⟩ | ⟨letters, rfl⟩ <;> simp [same, quantity?]
  · simp [same, quantity?]
  · rcases isText_iff.mp left with ⟨text, rfl⟩ | ⟨letters, rfl⟩ <;> simp [same, quantity?]

theorem equal_eq_same (measureless : a.quantity? = none) : a.equal b = a.same b := by
  simp [equal, isUndefined, measureless]

theorem equal_iff_eq (left : a = .null ∨ a.IsText) (right : b.IsText) :
    a.equal b = true ↔ a = b := by
  have measureless : a.quantity? = none := by
    rcases left with rfl | isText
    · rfl
    · rcases isText_iff.mp isText with ⟨text, rfl⟩ | ⟨letters, rfl⟩ <;> rfl
  rw [equal_eq_same measureless, same_iff_eq left right]

theorem IsText.hashable (isText : value.IsText) : value.hashable = true := by
  rcases isText_iff.mp isText with ⟨text, rfl⟩ | ⟨letters, rfl⟩ <;> simp [Value.hashable]

theorem memberOf_iff_mem (isText : value.IsText) (texts : ∀ item ∈ items, item.IsText) :
    value.memberOf items = true ↔ value ∈ items := by
  simp only [memberOf, List.any_eq_true]
  constructor
  · rintro ⟨item, member, same⟩
    rwa [(same_iff_eq (.inr isText) (texts item member)).mp same]
  · exact fun member => ⟨value, member, (same_iff_eq (.inr isText) isText).mpr rfl⟩

theorem ordinary_attr (name : String) (value : Value) : Ordinary (value.attr name) := by
  unfold attr
  split <;> simp [Fault.Ordinary]

theorem ordinary_get (value key : Value) : Ordinary (value.get key) := by
  unfold get
  split
  · simp [Fault.Ordinary]
  · split <;> simp [Fault.Ordinary]

theorem ordinary_items (value : Value) : Ordinary value.items := by
  unfold items
  split <;> simp [Fault.Ordinary]

theorem ordinary_contains (container value : Value) : Ordinary (container.contains value) := by
  have byte : ∀ data code, Ordinary (hasByte data code) := by
    intro data code
    unfold hasByte
    split <;> simp [Fault.Ordinary]
  unfold contains
  repeat' split
  all_goals first | exact byte _ _ | simp [Fault.Ordinary]

end Value

end Gatekeeper
