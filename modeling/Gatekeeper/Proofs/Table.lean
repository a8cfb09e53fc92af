import Gatekeeper.Session.Carrier

/-! Finding entries in tables that were changed. A text is equal only to itself, so the entry under a
text key stands apart from all others. -/
namespace Gatekeeper

variable {entries changes : Table} {key value other : Value} {name : String}

theorem Value.str_same_iff : (Value.str name).same value = true ↔ value = .str name := by
  cases value with
  | str text => simp [Value.same, eq_comm (a := text)]
  | _ => simp [Value.same, Value.quantity?]

theorem Value.same_str_iff : value.same (.str name) = true ↔ value = .str name := by
  cases value <;> simp [Value.same, Value.quantity?]

namespace Table

@[simp] theorem find_nil : Table.find [] other = none := rfl

theorem find_cons_of_same (here : other.same key = true) :
    Table.find ((key, value) :: entries) other = some value := by
  simp [Table.find, here]

@[simp] theorem find_cons_self :
    Table.find ((.str name, value) :: entries) (.str name) = some value :=
  find_cons_of_same (Value.str_same_iff.mpr rfl)

theorem find_cons_of_not_same (apart : ¬ other.same key = true) :
    Table.find ((key, value) :: entries) other = Table.find entries other := by
  simp [Table.find, apart]

theorem field_cons {text : String} :
    Table.field ((.str text, value) :: entries) name =
      if text = name then some value else Table.field entries name := by
  by_cases same : text = name
  · rw [if_pos same, same, Table.field, find_cons_self]
  · rw [if_neg same, Table.field, Table.field, find_cons_of_not_same fun here => same ?_]
    simpa using Value.str_same_iff.mp here

@[simp] theorem field_nil : Table.field [] name = none := rfl

theorem find_put_self :
    Table.find (Table.put (.str name) value entries) (.str name) = some value := by
  induction entries with
  | nil => exact find_cons_self
  | cons entry rest ih =>
    unfold Table.put
    split
    · exact find_cons_of_same ‹_›
    · rw [find_cons_of_not_same ‹_›, ih]

/-- An entry under one key is not found under another one, if either is a text. -/
theorem find_put_of_ne (different : key ≠ other)
    (text : (∃ name, key = .str name) ∨ ∃ name, other = .str name) :
    Table.find (Table.put key value entries) other = Table.find entries other := by
  have apart : ∀ found : Value, key.same found = true → ¬ other.same found = true := by
    intro found same sameToo
    obtain ⟨name, rfl⟩ | ⟨name, rfl⟩ := text
    · rw [Value.str_same_iff.mp same] at sameToo
      exact different (Value.same_str_iff.mp sameToo).symm
    · rw [Value.str_same_iff.mp sameToo] at same
      exact different (Value.same_str_iff.mp same)
  induction entries with
  | nil =>
    have differs : ¬ other.same key = true := by
      obtain ⟨name, rfl⟩ | ⟨name, rfl⟩ := text
      · exact fun same => different (Value.same_str_iff.mp same).symm
      · exact fun same => different (Value.str_same_iff.mp same)
    exact find_cons_of_not_same differs
  | cons entry rest ih =>
    unfold Table.put
    split
    · rw [find_cons_of_not_same (apart _ ‹_›), find_cons_of_not_same (apart _ ‹_›)]
    · by_cases here : other.same entry.1 = true
      · rw [find_cons_of_same here, find_cons_of_same here]
      · rw [find_cons_of_not_same here, find_cons_of_not_same here, ih]

theorem find_remove_self : Table.find (Table.remove (.str name) entries) (.str name) = none := by
  rw [Table.find, Option.map_eq_none_iff, List.find?_eq_none]
  intro entry mem
  simpa using (List.mem_filter.mp mem).2

theorem find_remove_of_ne (different : other ≠ .str name) :
    Table.find (Table.remove (.str name) entries) other = Table.find entries other := by
  unfold Table.find Table.remove
  rw [List.find?_filter]
  congr 2
  funext entry
  by_cases here : (Value.str name).same entry.1 = true
  · have apart : other.same entry.1 = false := by
      rw [Value.str_same_iff.mp here, ← Bool.not_eq_true, Value.same_str_iff]
      exact different
    simp [here, apart]
  · simp [here]

theorem field_merge :
    Table.field (Table.merge entries changes) name =
      (Table.field changes.reverse name).or (Table.field entries name) := by
  have appended : ∀ first second : Table,
      Table.field (first ++ second) name = (Table.field first name).or (Table.field second name) := by
    intro first second
    simp only [Table.field, Table.find, List.find?_append]
    cases first.find? fun entry => (Value.str name).same entry.1 <;> rfl
  induction changes generalizing entries with
  | nil => rfl
  | cons change rest ih =>
    have merged : Table.merge entries (change :: rest) =
        Table.merge (Table.put change.1 change.2 entries) rest := rfl
    rw [merged, ih, List.reverse_cons, appended, Option.or_assoc]
    congr 1
    by_cases same : change.1 = .str name
    · rw [Table.field, same, find_put_self, Table.field,
        find_cons_of_same (same ▸ Value.str_same_iff.mpr rfl), Option.some_or]
    · rw [Table.field, find_put_of_ne same (.inr ⟨name, rfl⟩), Table.field,
        find_cons_of_not_same fun here => same (Value.str_same_iff.mp here), find_nil,
        Option.none_or, Table.field]

theorem find_change_self (edit : Value → Value) :
    Table.find (Session.change name edit entries) (.str name) =
      (Table.find entries (.str name)).map edit := by
  induction entries with
  | nil => rfl
  | cons entry rest ih =>
    obtain ⟨found, stored⟩ := entry
    unfold Session.change at ih ⊢
    rw [List.map_cons]
    by_cases here : (Value.str name).same found = true
    · rw [if_pos here, find_cons_of_same here, find_cons_of_same here, Option.map_some]
    · rw [if_neg here, find_cons_of_not_same here, find_cons_of_not_same here, ih]

theorem find_change_of_ne (edit : Value → Value) (different : other ≠ .str name) :
    Table.find (Session.change name edit entries) other = Table.find entries other := by
  induction entries with
  | nil => rfl
  | cons entry rest ih =>
    obtain ⟨found, stored⟩ := entry
    unfold Session.change at ih ⊢
    rw [List.map_cons]
    by_cases changed : (Value.str name).same found = true
    · have apart : ¬ other.same found = true := by
        rw [Value.str_same_iff.mp changed, Value.same_str_iff]
        exact different
      rw [if_pos changed, find_cons_of_not_same apart, find_cons_of_not_same apart, ih]
    · rw [if_neg changed]
      by_cases here : other.same found = true
      · rw [find_cons_of_same here, find_cons_of_same here]
      · rw [find_cons_of_not_same here, find_cons_of_not_same here, ih]

end Table

namespace Session

variable {attributes : List (String × Value)} {chosen : String}

theorem lookup_changeAttr_self (edit : Value → Value) :
    (changeAttr name edit attributes).lookup name = (attributes.lookup name).map edit := by
  induction attributes with
  | nil => rfl
  | cons entry rest ih =>
    obtain ⟨found, stored⟩ := entry
    unfold changeAttr at ih ⊢
    rw [List.map_cons]
    by_cases here : found = name
    · rw [if_pos here, here, List.lookup_cons_self, List.lookup_cons_self, Option.map_some]
    · have apart : (name == found) = false := by simpa using Ne.symm here
      rw [if_neg here, List.lookup_cons, List.lookup_cons, apart, ih]

theorem lookup_changeAttr_of_ne (edit : Value → Value) (different : chosen ≠ name) :
    (changeAttr name edit attributes).lookup chosen = attributes.lookup chosen := by
  induction attributes with
  | nil => rfl
  | cons entry rest ih =>
    obtain ⟨found, stored⟩ := entry
    unfold changeAttr at ih ⊢
    rw [List.map_cons]
    by_cases changed : found = name
    · have apart : (chosen == found) = false := by simpa [changed] using different
      rw [if_pos changed, List.lookup_cons, List.lookup_cons, apart, ih]
    · rw [if_neg changed, List.lookup_cons, List.lookup_cons, ih]

end Session

end Gatekeeper
