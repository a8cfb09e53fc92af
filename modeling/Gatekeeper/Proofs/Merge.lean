import Gatekeeper.Proofs.Value.Equality

/-! Merging tables one after another. Keys keep the place and the form in which they came first, so
changes may be merged before they are merged into a table, and merging them again changes nothing. -/
namespace Gatekeeper.Table

variable {entries changes one two : Table} {key other value new : Value}

/-- A table as it can be built: its keys can be hashed, and no two of them are the same. -/
structure Keyed (entries : Table) : Prop where
  hashable : ∀ entry ∈ entries, entry.1.hashable = true
  apart : entries.Pairwise fun first second => first.1.same second.1 = false

def Has (entries : Table) (key : Value) : Prop :=
  ∃ entry ∈ entries, key.same entry.1 = true

theorem put_cons_of_same {entry : Value × Value} (here : key.same entry.1 = true) :
    Table.put key value (entry :: entries) = (entry.1, value) :: entries :=
  if_pos here

theorem put_cons_of_not_same {entry : Value × Value} (elsewhere : ¬ key.same entry.1 = true) :
    Table.put key value (entry :: entries) = entry :: Table.put key value entries :=
  if_neg elsewhere

theorem merge_cons {change : Value × Value} :
    Table.merge entries (change :: changes) = Table.merge (Table.put change.1 change.2 entries) changes :=
  rfl

theorem mem_put {entry : Value × Value} (mem : entry ∈ Table.put key value entries) :
    (∃ kept ∈ entries, kept.1 = entry.1) ∨ entry.1 = key := by
  induction entries with
  | nil =>
    obtain rfl := List.mem_singleton.mp mem
    exact .inr rfl
  | cons first rest ih =>
    unfold Table.put at mem
    split at mem
    · rcases List.mem_cons.mp mem with rfl | mem
      · exact .inl ⟨first, List.mem_cons_self, rfl⟩
      · exact .inl ⟨entry, List.mem_cons_of_mem _ mem, rfl⟩
    · rcases List.mem_cons.mp mem with rfl | mem
      · exact .inl ⟨entry, List.mem_cons_self, rfl⟩
      · obtain ⟨kept, memKept, same⟩ | new := ih mem
        · exact .inl ⟨kept, List.mem_cons_of_mem _ memKept, same⟩
        · exact .inr new

theorem Keyed.put (keyed : entries.Keyed) (keyable : key.hashable = true) :
    (Table.put key value entries).Keyed := by
  refine ⟨fun entry mem => ?_, ?_⟩
  · obtain ⟨kept, memKept, same⟩ | rfl := mem_put mem
    · exact same ▸ keyed.hashable kept memKept
    · exact keyable
  · obtain ⟨hashable, apart⟩ := keyed
    induction entries with
    | nil => exact List.pairwise_singleton ..
    | cons entry rest ih =>
      obtain ⟨keyableToo, hashable⟩ := List.forall_mem_cons.mp hashable
      obtain ⟨differs, apart⟩ := List.pairwise_cons.mp apart
      unfold Table.put
      split
      next => exact List.pairwise_cons.mpr ⟨differs, apart⟩
      next elsewhere =>
        refine List.pairwise_cons.mpr ⟨fun later mem => ?_, ih hashable apart⟩
        obtain ⟨kept, memKept, same⟩ | new := mem_put mem
        · exact same ▸ differs kept memKept
        · rw [new, ← Bool.not_eq_true]
          exact fun same => elsewhere (Value.same_symm keyableToo same)

/-- A key that is written twice keeps its first form and its last value. -/
theorem put_put_of_same (keyable : other.hashable = true) (same : other.same key = true) :
    Table.put other new (Table.put key value entries) = Table.put key new entries := by
  induction entries with
  | nil => exact put_cons_of_same same
  | cons entry rest ih =>
    have alike := Value.same_congr keyable same entry.1
    by_cases here : key.same entry.1 = true
    · rw [put_cons_of_same here, put_cons_of_same here]
      exact put_cons_of_same (alike.trans here)
    · rw [put_cons_of_not_same here, put_cons_of_not_same here,
        put_cons_of_not_same (by rwa [alike]), ih]

theorem has_cons_iff {entry : Value × Value} :
    Has (entry :: entries) key ↔ key.same entry.1 = true ∨ Has entries key := by
  simp [Has]

theorem has_put_of_same (keyable : other.hashable = true) (same : other.same key = true) :
    Has (Table.put key value entries) other := by
  induction entries with
  | nil => exact has_cons_iff.mpr (.inl same)
  | cons entry rest ih =>
    by_cases here : key.same entry.1 = true
    · rw [put_cons_of_same here, has_cons_iff, Value.same_congr keyable same]
      exact .inl here
    · rw [put_cons_of_not_same here, has_cons_iff]
      exact .inr ih

theorem Has.put (present : Has entries key) : Has (Table.put other new entries) key := by
  induction entries with
  | nil => obtain ⟨_, ⟨⟩, -⟩ := present
  | cons entry rest ih =>
    rw [has_cons_iff] at present
    unfold Table.put
    split
    · exact has_cons_iff.mpr present
    · exact has_cons_iff.mpr (present.imp_right ih)

theorem put_comm (present : Has entries key)
    (apart : ∀ found : Value, key.same found = true → ¬ other.same found = true) :
    Table.put key value (Table.put other new entries) =
      Table.put other new (Table.put key value entries) := by
  induction entries with
  | nil => obtain ⟨_, ⟨⟩, -⟩ := present
  | cons entry rest ih =>
    by_cases here : key.same entry.1 = true
    · rw [put_cons_of_not_same (apart _ here), put_cons_of_same here, put_cons_of_same here,
        put_cons_of_not_same]
      exact apart _ here
    have later : Has rest key := (has_cons_iff.mp present).resolve_left here
    by_cases hereToo : other.same entry.1 = true
    · rw [put_cons_of_same hereToo, put_cons_of_not_same here, put_cons_of_same hereToo]
      exact put_cons_of_not_same here
    · rw [put_cons_of_not_same hereToo, put_cons_of_not_same here, put_cons_of_not_same here,
        put_cons_of_not_same hereToo, ih later]

theorem put_merge_of_has (present : Has entries key) (keyable : key.hashable = true)
    (hashable : ∀ change ∈ changes, change.1.hashable = true)
    (apart : ∀ change ∈ changes, key.same change.1 = false) :
    Table.put key value (Table.merge entries changes) =
      Table.merge (Table.put key value entries) changes := by
  induction changes generalizing entries with
  | nil => rfl
  | cons change rest ih =>
    obtain ⟨keyableToo, hashable⟩ := List.forall_mem_cons.mp hashable
    obtain ⟨differs, apart⟩ := List.forall_mem_cons.mp apart
    have noCommon : ∀ found : Value, key.same found = true → ¬ change.1.same found = true := by
      intro found same sameToo
      rw [Value.same_of_common keyable keyableToo same sameToo] at differs
      cases differs
    rw [merge_cons, merge_cons, ih present.put hashable apart, put_comm present noCommon]

theorem put_merge (keyable : key.hashable = true) (keyed : changes.Keyed) :
    Table.put key value (Table.merge entries changes) =
      Table.merge entries (Table.put key value changes) := by
  obtain ⟨hashable, apart⟩ := keyed
  induction changes generalizing entries with
  | nil => rfl
  | cons change rest ih =>
    obtain ⟨keyableToo, hashable⟩ := List.forall_mem_cons.mp hashable
    obtain ⟨differs, apart⟩ := List.pairwise_cons.mp apart
    by_cases here : key.same change.1 = true
    · have elsewhere : ∀ later ∈ rest, key.same later.1 = false := fun later mem =>
        (Value.same_congr keyable here later.1).trans (differs later mem)
      rw [put_cons_of_same here, merge_cons, merge_cons,
        put_merge_of_has (has_put_of_same keyable here) keyable hashable elsewhere,
        put_put_of_same keyable here]
    · rw [put_cons_of_not_same here, merge_cons, merge_cons, ih hashable apart]

/-- Changes may be merged before they are merged into a table. -/
theorem merge_merge (keyed : one.Keyed) (hashable : ∀ change ∈ two, change.1.hashable = true) :
    Table.merge (Table.merge entries one) two = Table.merge entries (Table.merge one two) := by
  induction two generalizing one with
  | nil => rfl
  | cons change rest ih =>
    obtain ⟨keyable, hashable⟩ := List.forall_mem_cons.mp hashable
    rw [merge_cons, merge_cons, put_merge keyable keyed, ih (keyed.put keyable) hashable]

theorem put_of_mem (keyed : entries.Keyed) {entry : Value × Value} (mem : entry ∈ entries) :
    Table.put entry.1 entry.2 entries = entries := by
  obtain ⟨hashable, apart⟩ := keyed
  induction entries with
  | nil => cases mem
  | cons first rest ih =>
    obtain ⟨differs, apart⟩ := List.pairwise_cons.mp apart
    rcases List.mem_cons.mp mem with rfl | later
    · exact put_cons_of_same (Value.same_self _)
    · have elsewhere : ¬ entry.1.same first.1 = true := by
        intro here
        have back := Value.same_symm (hashable entry mem) here
        rw [differs entry later] at back
        cases back
      rw [put_cons_of_not_same elsewhere,
        ih later (fun other memToo => hashable other (List.mem_cons_of_mem _ memToo)) apart]

theorem merge_of_subset (keyed : entries.Keyed) (part : changes ⊆ entries) :
    Table.merge entries changes = entries := by
  induction changes with
  | nil => rfl
  | cons change rest ih =>
    rw [merge_cons, put_of_mem keyed (part List.mem_cons_self)]
    exact ih fun _ mem => part (List.mem_cons_of_mem _ mem)

theorem merge_idem (keyed : changes.Keyed) :
    Table.merge (Table.merge entries changes) changes = Table.merge entries changes := by
  rw [merge_merge keyed keyed.hashable, merge_of_subset keyed (List.Subset.refl _)]

end Gatekeeper.Table
