import Gatekeeper.Proofs.Config.Accepted
import Mathlib.Data.List.Nodup

/-! Which rule a value stands for. A rule stands for itself; a table stands for one if it has a pattern
and says in exactly one way what is asked for. -/
namespace Gatekeeper

variable {entries : Table} {kind : RuleKind} {value : Value} {rule other : Rule}

/-- Of the fields in which rules of the several kinds hold what they ask for, the table has the one of
this kind and no other. -/
def Table.Names (entries : Table) (kind : RuleKind) : Prop :=
  kind ∈ RuleKind.all ∧
    ∀ other ∈ RuleKind.all, (Table.field entries other.field).isSome = true ↔ other = kind

theorem filter_eq_singleton_iff {α : Type} [DecidableEq α] {list : List α} {p : α → Bool} {a : α}
    (nodup : list.Nodup) : list.filter p = [a] ↔ a ∈ list ∧ ∀ b ∈ list, p b = true ↔ b = a := by
  constructor
  · intro same
    have mem : ∀ b, b ∈ list ∧ p b = true ↔ b = a := by
      intro b
      rw [← List.mem_filter, same, List.mem_singleton]
    refine ⟨((mem a).mpr rfl).1, fun b known => ⟨fun holds => (mem b).mp ⟨known, holds⟩, ?_⟩⟩
    rintro rfl
    exact ((mem b).mpr rfl).2
  · rintro ⟨known, only⟩
    have agree : ∀ b ∈ list, p b = (b == a) := by
      intro b known
      rw [Bool.eq_iff_iff, only b known, beq_iff_eq]
    rw [List.filter_congr agree, List.filter_beq, List.count_eq_one_of_mem nodup known,
      List.replicate_one]

theorem Table.names_iff : Table.Names entries kind ↔
    RuleKind.all.filter (fun kind => (Table.field entries kind.field).isSome) = [kind] :=
  (filter_eq_singleton_iff (by decide)).symm

theorem Table.Names.exists_requirement (names : Table.Names entries kind) :
    ∃ requirement, Table.field entries kind.field = some requirement :=
  Option.isSome_iff_exists.mp ((names.2 kind names.1).mpr rfl)

namespace Rule

inductive StandsFor : Value → Rule → Prop
  | itself (rule : Rule) : StandsFor rule.toValue rule
  | table {value : Value} {entries : Table} {kind : RuleKind} {pattern requirement : Value} :
      value.opened = .table entries → Table.Names entries kind →
      Table.field entries "pattern" = some pattern →
      Table.field entries kind.field = some requirement →
      StandsFor value
        (make kind pattern requirement ((Table.field entries "redirect_to").getD .null))

def read (value : Value) : Except Fault Rule :=
  match ofRuleValue? value with
  | some rule => .ok rule
  | none => ofValue value

theorem ofTable_of_names {pattern requirement : Value} (names : Table.Names entries kind)
    (route : Table.field entries "pattern" = some pattern)
    (asked : Table.field entries kind.field = some requirement) :
    ofTable entries =
      .ok (make kind pattern requirement ((Table.field entries "redirect_to").getD .null)) := by
  unfold ofTable
  simp only [Table.names_iff.mp names, route, asked]

theorem ofTable_of_no_pattern (names : Table.Names entries kind)
    (missing : Table.field entries "pattern" = none) :
    ofTable entries = .error (.config .missingPattern) := by
  unfold ofTable
  simp only [Table.names_iff.mp names, missing]

theorem ofTable_of_not_names (ambiguous : ∀ kind, ¬ Table.Names entries kind) :
    ofTable entries = .error (.config (.ambiguous ((Table.field entries "pattern").getD .null)
      (RuleKind.all.filter fun kind => (Table.field entries kind.field).isSome))) := by
  unfold ofTable
  dsimp only
  split
  next kind present => exact absurd (Table.names_iff.mpr present) (ambiguous kind)
  next => rfl

theorem names_of_ofTable (found : ofTable entries = .ok rule) :
    ∃ kind pattern requirement, Table.Names entries kind ∧
      Table.field entries "pattern" = some pattern ∧
      Table.field entries kind.field = some requirement ∧
      rule = make kind pattern requirement ((Table.field entries "redirect_to").getD .null) := by
  by_cases named : ∃ kind, Table.Names entries kind
  · obtain ⟨kind, names⟩ := named
    obtain ⟨requirement, asked⟩ := names.exists_requirement
    cases route : Table.field entries "pattern" with
    | none =>
      rw [ofTable_of_no_pattern names route] at found
      cases found
    | some pattern =>
      rw [ofTable_of_names names route asked] at found
      cases found
      exact ⟨kind, pattern, requirement, names, rfl, asked, rfl⟩
  · rw [ofTable_of_not_names (not_exists.mp named)] at found
    cases found

theorem ofValue_of_opened (table : value.opened = .table entries) :
    ofValue value = ofTable entries := by
  unfold ofValue
  rw [table]

theorem ofValue_of_not_table (notTable : ∀ entries, value.opened ≠ .table entries) :
    ofValue value = .error (.config (.notTable value)) := by
  unfold ofValue
  split
  next entries same => exact absurd same (notTable entries)
  next => rfl

theorem read_of_opened (table : value.opened = .table entries) : read value = ofTable entries := by
  rw [← ofValue_of_opened table]
  cases value with
  | rule => cases table
  | _ => rfl

/-- What a value stands for is what it is read as, so it stands for no more than one rule. -/
theorem read_eq_ok_iff : read value = .ok rule ↔ StandsFor value rule := by
  constructor
  · intro found
    by_cases table : ∃ entries, value.opened = .table entries
    · obtain ⟨entries, table⟩ := table
      rw [read_of_opened table] at found
      obtain ⟨kind, pattern, requirement, names, route, asked, rfl⟩ := names_of_ofTable found
      exact .table table names route asked
    · have refused := ofValue_of_not_table (not_exists.mp table)
      cases value with
      | rule kind pattern requirement target =>
        cases found
        exact .itself ⟨kind, pattern, requirement, target⟩
      | _ => cases refused.symm.trans found
  · intro stands
    cases stands with
    | itself => rfl
    | table table names route asked => rw [read_of_opened table, ofTable_of_names names route asked]

theorem StandsFor.unique (stands : StandsFor value rule) (standsToo : StandsFor value other) :
    rule = other := by
  have same := (read_eq_ok_iff.mpr stands).symm.trans (read_eq_ok_iff.mpr standsToo)
  exact Except.ok.inj same

end Rule

theorem Settings.resolveRule_eq (value : Value) :
    Settings.resolveRule value =
      Rule.read value >>= fun rule => rule.validate >>= fun _ => .ok rule := by
  unfold Settings.resolveRule Rule.read
  cases Rule.ofRuleValue? value <;> rfl

theorem Settings.resolveRule_of_read (found : Rule.read value = .ok rule) (valid : rule.Valid) :
    Settings.resolveRule value = .ok rule := by
  rw [Settings.resolveRule_eq, bind_eq_ok_iff]
  exact ⟨rule, found, bind_eq_ok_iff.mpr ⟨(), Rule.validate_eq_ok_iff.mpr valid, rfl⟩⟩

end Gatekeeper
