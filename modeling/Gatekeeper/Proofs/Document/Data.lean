import Gatekeeper.Proofs.Config.Accepted

/-! What can be written down. Documents hold numbers, texts and the like, in lists and tables; nothing
in them can be called, and nothing in them is a rule already. -/
namespace Gatekeeper

namespace Value

variable {value : Value} {items cells : List Value} {entries : Table}

def IsScalar : Value → Prop
  | .null | .bool _ | .int _ | .float _ | .str _ | .torn _ | .bytes _ | .moment _ => True
  | _ => False

/-- A value that can be written down, with all that is in it. -/
inductive IsData : Value → Prop
  | scalar {value : Value} (plain : value.IsScalar) : IsData value
  | list {items : List Value} (inside : ∀ item ∈ items, IsData item) : IsData (.list items)
  | tuple {items : List Value} (inside : ∀ item ∈ items, IsData item) : IsData (.tuple items)
  | set {items : List Value} (inside : ∀ item ∈ items, IsData item) : IsData (.set items)
  | table {entries : Table} (keys : ∀ entry ∈ entries, IsData entry.1)
      (values : ∀ entry ∈ entries, IsData entry.2) : IsData (.table entries)
  | knot {cells : List Value} {place : Nat} (inside : ∀ cell ∈ cells, IsData cell) :
      IsData (.knot cells place)

theorem isData_null : Value.null.IsData :=
  .scalar trivial

theorem isData_ofLetters (letters : List Text.Letter) : (ofLetters letters).IsData := by
  unfold ofLetters
  split <;> exact .scalar trivial

theorem tiedAll_eq_map : tiedAll cells items = items.map (tied cells) := by
  induction items with
  | nil => rfl
  | cons item rest ih => rw [tiedAll, ih, List.map_cons]

theorem tiedEntries_eq_map :
    tiedEntries cells entries = entries.map fun entry => (entry.1, tied cells entry.2) := by
  induction entries with
  | nil => rfl
  | cons entry rest ih => rw [tiedEntries, ih, List.map_cons]

theorem isData_tied (data : value.IsData) (inside : ∀ cell ∈ cells, IsData cell) :
    (tied cells value).IsData := by
  induction data with
  | @scalar value plain =>
    have same : Value.tied cells value = value := by cases value <;> first | rfl | cases plain
    rw [same]
    exact .scalar plain
  | list _ ih =>
    rw [Value.tied, tiedAll_eq_map]
    exact .list (List.forall_mem_map.mpr ih)
  | tuple _ ih =>
    rw [Value.tied, tiedAll_eq_map]
    exact .tuple (List.forall_mem_map.mpr ih)
  | set items => exact .set items
  | table keys _ _ ih =>
    rw [Value.tied, tiedEntries_eq_map]
    exact .table (List.forall_mem_map.mpr keys) (List.forall_mem_map.mpr ih)
  | @knot others place within =>
    cases others with
    | nil => exact .knot inside
    | cons => exact .knot within

theorem isData_opened (data : value.IsData) : value.opened.IsData := by
  cases data with
  | scalar plain =>
    have same : value.opened = value := by cases value <;> first | rfl | cases plain
    rw [same]
    exact .scalar plain
  | list inside => exact .list inside
  | tuple inside => exact .tuple inside
  | set inside => exact .set inside
  | table keys values => exact .table keys values
  | @knot cells place inside =>
    show ((cells[place]?.map (tied cells)).getD .null).IsData
    cases found : cells[place]? with
    | none => exact isData_null
    | some cell => exact isData_tied (inside cell (List.mem_of_getElem? found)) inside

theorem isData_of_items (data : value.IsData) (listed : value.items = .ok items) :
    ∀ item ∈ items, item.IsData := by
  have seen := isData_opened data
  unfold Value.items at listed
  generalize value.opened = shown at seen listed
  cases seen with
  | scalar plain =>
    cases shown with
    | str text => cases listed; exact List.forall_mem_map.mpr fun _ _ => .scalar trivial
    | torn letters => cases listed; exact List.forall_mem_map.mpr fun _ _ => isData_ofLetters _
    | bytes data => cases listed; exact List.forall_mem_map.mpr fun _ _ => .scalar trivial
    | _ => first | (cases listed; done) | cases plain
  | list inside => cases listed; exact inside
  | tuple inside => cases listed; exact inside
  | set inside => cases listed; exact inside
  | table keys _ => cases listed; exact List.forall_mem_map.mpr keys
  | knot => cases listed

theorem IsData.ofRuleValue?_eq_none (data : value.IsData) : Rule.ofRuleValue? value = none := by
  cases data with
  | scalar plain => cases value <;> first | rfl | cases plain
  | _ => rfl

theorem IsData.not_callable (data : value.IsData) : Rule.isCallable value = false := by
  cases data with
  | scalar plain => cases value <;> first | rfl | cases plain
  | _ => rfl

end Value

namespace Table

open Value

variable {entries changes : Table} {key value : Value}

def IsData (entries : Table) : Prop :=
  ∀ entry ∈ entries, entry.1.IsData ∧ entry.2.IsData

theorem isData_nil : IsData [] := by
  simp [IsData]

theorem IsData.cons (keyData : key.IsData) (valueData : value.IsData) (data : IsData entries) :
    IsData ((key, value) :: entries) :=
  List.forall_mem_cons.mpr ⟨⟨keyData, valueData⟩, data⟩

theorem isData_table_iff : (Value.table entries).IsData ↔ IsData entries := by
  constructor
  · intro data
    cases data with
    | scalar plain => cases plain
    | table keys values => exact fun entry mem => ⟨keys entry mem, values entry mem⟩
  · exact fun data => .table (fun entry mem => (data entry mem).1) fun entry mem => (data entry mem).2

theorem IsData.find (data : IsData entries) (found : Table.find entries key = some value) :
    value.IsData := by
  obtain ⟨entry, there, rfl⟩ := Option.map_eq_some_iff.mp found
  exact (data entry (List.mem_of_find?_eq_some there)).2

theorem IsData.put (data : IsData entries) (keyData : key.IsData) (valueData : value.IsData) :
    IsData (Table.put key value entries) := by
  induction entries with
  | nil => exact isData_nil.cons keyData valueData
  | cons entry rest ih =>
    obtain ⟨first, others⟩ := List.forall_mem_cons.mp data
    unfold Table.put
    split
    · exact .cons first.1 valueData others
    · exact .cons first.1 first.2 (ih others)

theorem IsData.merge (data : IsData entries) (changesData : IsData changes) :
    IsData (Table.merge entries changes) := by
  induction changes generalizing entries with
  | nil => exact data
  | cons change rest ih =>
    obtain ⟨first, others⟩ := List.forall_mem_cons.mp changesData
    exact ih (data.put first.1 first.2) others

end Table

/-- Whatever it comes to, unless it is a fault. -/
def Gives {α : Type} (holds : α → Prop) (outcome : Except Fault α) : Prop :=
  ∀ value, outcome = .ok value → holds value

section Gives

variable {α β : Type} {holds : α → Prop} {holdsToo : β → Prop} {items : List β}

@[simp] theorem gives_ok_iff {value : α} : Gives holds (.ok value) ↔ holds value :=
  ⟨fun gives => gives value rfl, by rintro there _ ⟨⟩; exact there⟩

@[simp] theorem gives_pure_iff {value : α} : Gives holds (pure value) ↔ holds value :=
  gives_ok_iff

@[simp] theorem gives_error {fault : Fault} : Gives holds (.error fault) := by
  rintro _ ⟨⟩

@[simp] theorem gives_throw {fault : Fault} : Gives holds (throw fault) :=
  gives_error

theorem Gives.bind {outcome : Except Fault α} {next : α → Except Fault β}
    (gives : Gives holds outcome) (rest : ∀ value, holds value → Gives holdsToo (next value)) :
    Gives holdsToo (outcome >>= next) := by
  cases outcome with
  | error fault => exact gives_error
  | ok value => exact rest value (gives value rfl)

theorem gives_true {outcome : Except Fault α} : Gives (fun _ => True) outcome :=
  fun _ _ => trivial

theorem gives_ite {condition : Prop} [Decidable condition] {one other : Except Fault α}
    (gives : Gives holds one) (givesToo : Gives holds other) :
    Gives holds (if condition then one else other) := by
  split
  · exact gives
  · exact givesToo

theorem gives_foldlM {step : α → β → Except Fault α} (kept : ∀ item ∈ items, ∀ value,
    holds value → Gives holds (step value item)) {first : α} (start : holds first) :
    Gives holds (items.foldlM step first) := by
  induction items generalizing first with
  | nil => exact gives_ok_iff.mpr start
  | cons item rest ih =>
    rw [List.foldlM_cons]
    exact (kept item (by simp) first start).bind
      fun value there => ih (fun other mem => kept other (by simp [mem])) there

end Gives

end Gatekeeper
