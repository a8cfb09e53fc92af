import Gatekeeper.Config.Store
import Gatekeeper.Proofs.Context
import Gatekeeper.Proofs.Document.Json

/-! Configurations from files. A file holds data, and data cannot be called; so a rule that is read from
a file asks for roles or permissions, and nothing in the file has a part in how they are told. -/
namespace Gatekeeper

variable {value : Value} {entries : Table} {items : List Value} {config : Config} {rule : Rule}

namespace Document

variable {yaml : Stream → Except Fault Value} (data : ∀ stream, Gives Value.IsData (yaml stream))

include data in
theorem gives_documentRead (format : Format) (stream : Stream) :
    Gives Value.IsData (read yaml format stream) := by
  cases format with
  | yaml => exact data stream
  | json =>
    simp only [read]
    split
    · exact Json.gives_read _
    · exact gives_error

include data in
/-- If the reader of YAML finds nothing but data, the table that is loaded from a file holds nothing
else, whatever is in the file. -/
theorem gives_load (name : String) (entry : Entry) : Gives Table.IsData (load yaml name entry) := by
  cases entry with
  | missing => exact gives_error
  | directory => exact gives_error
  | file content =>
    unfold load
    dsimp only
    split
    · refine (gives_documentRead data _ _).bind fun value data => ?_
      have seen := Value.isData_opened data
      split
      · exact gives_pure_iff.mpr Table.isData_nil
      next same => exact gives_pure_iff.mpr (Table.isData_table_iff.mp (same ▸ seen))
      · exact gives_throw
    · exact gives_throw

theorem load_of_read {name : String} {content : List UInt8} {entries : Table} (format : Format)
    (known : format? (Text.lower (extension name)) = some format)
    (found : read yaml format (stream content) = .ok (.table entries)) :
    load yaml name (.file content) = .ok entries := by
  unfold load
  dsimp only
  rw [known]
  dsimp only
  rw [found]
  rfl

theorem read_json {text : List Char} {entries : Table}
    (fed : text.foldlM Json.Reading.feed {} = .ok ⟨.between, ⟨[], .complete (.table entries)⟩⟩) :
    Json.read (String.ofList text) = .ok (.table entries) := by
  simp only [Json.read, String.toList_ofList, fed]
  rfl

end Document

def RuleKind.builtIn : List RuleKind :=
  [.role, .roles, .permission, .permissions]

/-- Roles and permissions are told in the usual way, and every rule asks for nothing else. -/
structure Config.BuiltIn (config : Config) : Prop where
  access : config.access = defaultHooks
  rules : ∀ rule ∈ config.protect, rule.kind ∈ RuleKind.builtIn

namespace Rule

theorem ofTable_data (data : Table.IsData entries) (read : ofTable entries = .ok rule) :
    rule.kind ∈ RuleKind.all ∧ (rule.kind = .allow → rule.requirement.IsData) := by
  unfold ofTable at read
  dsimp only at read
  split at read
  next kind present =>
    have known : kind ∈ RuleKind.all := by
      have mem : kind ∈ RuleKind.all.filter fun kind => (Table.field entries kind.field).isSome := by
        rw [present]
        simp
      exact (List.mem_filter.mp mem).1
    split at read
    next pattern requirement _ found =>
      cases read
      have requirementData := data.find found
      unfold make
      split
      · exact ⟨known, by rintro ⟨⟩⟩
      · exact ⟨known, by rintro ⟨⟩⟩
      · exact ⟨known, fun _ => requirementData⟩
    · cases read
  · cases read

end Rule

namespace Settings

theorem builtIn_of_resolveRule (data : value.IsData) (resolved : resolveRule value = .ok rule) :
    rule.kind ∈ RuleKind.builtIn := by
  have valid := valid_of_resolveRule resolved
  have reads : resolveRule value =
      Rule.ofValue value >>= fun rule => rule.validate >>= fun _ => pure rule := by
    rw [resolveRule, data.ofRuleValue?_eq_none]
  rw [reads] at resolved
  obtain ⟨read, described, checked⟩ := bind_eq_ok_iff.mp resolved
  obtain ⟨⟨⟩, -, same⟩ := bind_eq_ok_iff.mp checked
  cases same
  unfold Rule.ofValue at described
  have seen := Value.isData_opened data
  split at described
  next same =>
    obtain ⟨known, requirementData⟩ := Rule.ofTable_data (Table.isData_table_iff.mp (same ▸ seen)) described
    have requirement := valid.requirement
    cases kind : rule.kind with
    | allow =>
      rw [kind] at requirement
      exact absurd requirement (by simp [Rule.admits, (requirementData kind).not_callable])
    | unrestricted =>
      rw [kind] at known
      exact absurd known (by decide)
    | _ => decide
  · cases described

theorem isData_of_rulesOf {given protect : Value} (data : given.IsData)
    (listed : rulesOf given = .ok protect) :
    ∃ items, protect = .list items ∧ ∀ item ∈ items, item.IsData := by
  have either : (given.orElse (.list [])).IsData := by
    unfold Value.orElse
    split
    · exact data
    · exact .list (by simp)
  unfold rulesOf at listed
  cases items : (given.orElse (.list [])).items with
  | error fault =>
    rw [items] at listed
    cases listed
  | ok found =>
    rw [items] at listed
    cases listed
    exact ⟨found, rfl, Value.isData_of_items either items⟩

theorem builtIn_of_data {settings : Settings} (data : Table.IsData entries)
    (read : ofFileTable entries = .ok settings) (resolved : settings.resolve = .ok config) :
    config.BuiltIn ∧ config.Plain := by
  have given : ((Table.field entries "protect").getD .null).IsData := by
    cases found : Table.field entries "protect" with
    | none => exact Value.isData_null
    | some protect => exact data.find found
  obtain ⟨protect, listed, same⟩ := bind_eq_ok_iff.mp read
  cases same
  obtain ⟨items, rfl, inside⟩ := isData_of_rulesOf given listed
  unfold resolve at resolved
  dsimp only at resolved
  split at resolved
  · cases resolved
  obtain ⟨_, ⟨⟩, more⟩ := bind_eq_ok_iff.mp resolved
  obtain ⟨rules, traversed, rest⟩ := bind_eq_ok_iff.mp more
  cases rest
  refine ⟨⟨rfl, fun rule mem => ?_⟩, rfl, rfl, rfl⟩
  obtain ⟨item, there, same⟩ := exists_of_mem_mapM traversed rule mem
  exact builtIn_of_resolveRule (inside item there) same

/-- Whatever a file contains, a configuration that is accepted from it is of this kind. -/
theorem builtIn_of_file {host : Host} {name : String} {entry : Document.Entry} {settings : Settings}
    (data : ∀ stream, Gives Value.IsData (host.yaml stream))
    (read : ofFile host name entry = .ok settings) (resolved : settings.resolve = .ok config) :
    config.BuiltIn ∧ config.Plain := by
  obtain ⟨entries, loaded, described⟩ := bind_eq_ok_iff.mp read
  exact builtIn_of_data (Document.gives_load data name entry entries loaded) described resolved

end Settings

end Gatekeeper
