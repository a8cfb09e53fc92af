import Gatekeeper.Proofs.Config.File
import Gatekeeper.Proofs.Config.Resolving
import Gatekeeper.Proofs.Config.Update
import Gatekeeper.Proofs.Process.Watched
import Gatekeeper.Proofs.Table

/-! Where settings come from. A table of settings and the same settings by keyword are read into
settings with the same rules, if not the same list of them, and only the rules count from then on. A
file is read as a table in which nothing else stands than a login path and rules. -/
namespace Gatekeeper

open Process

variable {host : Host} {config : Config} {entries : Table} {settings other : Settings}
  {given : Value} {items : List Value} {name : String} {names : List String}

def Table.only (names : List String) (entries : Table) : Table :=
  entries.filter fun entry =>
    match entry.1 with
    | .str name => names.contains name
    | _ => false

theorem Table.field_only :
    Table.field (entries.only names) name = if name ∈ names then Table.field entries name else none := by
  unfold Table.field Table.find Table.only
  rw [List.find?_filter]
  split
  next known =>
    congr 2
    funext entry
    by_cases here : (Value.str name).same entry.1 = true
    · simp [Value.str_same_iff.mp here, known]
    · simp [here]
  next unknown =>
    rw [Option.map_eq_none_iff, List.find?_eq_none]
    intro entry _ found
    obtain ⟨kept, here⟩ : _ ∧ _ := by simpa using found
    rw [Value.str_same_iff.mp here] at kept
    exact unknown (by simpa using kept)

namespace Settings

/-- A table in which only settings are named, with a list as its rules and access functions as such, if
they are given. -/
structure Named (entries : Table) : Prop where
  keys : ∀ entry ∈ entries, ∃ name ∈ fields, entry.1 = .str name
  protect : ∀ given, Table.field entries "protect" = some given → ∃ items, given.opened = .list items
  access : ∀ given, Table.field entries "access" = some given →
    ∃ getRole getPermissions check, given = .hooks getRole getPermissions check

theorem resolve_congr {protect : Value} (same : protect.items = settings.protect.items) :
    { settings with protect := protect }.resolve = settings.resolve := by
  unfold resolve
  simp only [same]

theorem rulesOf_list (listed : given.opened = .list items) : rulesOf given = .ok (.list items) := by
  have either : (given.orElse (.list [])).items = .ok items := by
    unfold Value.orElse
    -- An empty list gives way to another empty one.
    split
    · simp [Value.items, listed]
    next empty =>
      cases given with
      | list found =>
        cases listed
        have nothing : items = [] := by simpa [Value.truthy] using empty
        rw [nothing]
        rfl
      | knot cells place => exact absurd rfl empty
      | _ => cases listed
  rw [rulesOf, either]
  rfl

theorem ofKeywords_of_named (named : Named entries) :
    ∃ settings, ofKeywords entries = .ok settings ∧
      ∃ protect, ofTable entries = .ok { settings with protect := protect } ∧
        protect.items = settings.protect.items := by
  have keys : (entries.all fun entry =>
      match entry.1 with
      | .str name => fields.contains name
      | _ => false) = true := by
    refine List.all_eq_true.mpr fun entry mem => ?_
    obtain ⟨name, known, same⟩ := named.keys entry mem
    simpa [same] using known
  have access : accessOf ((Table.field entries "access").getD .null) =
      .ok ((Table.field entries "access").getD defaultHooks) := by
    cases found : Table.field entries "access" with
    | none => rfl
    | some given =>
      obtain ⟨getRole, getPermissions, check, rfl⟩ := named.access given found
      rfl
  obtain ⟨items, rules, listed⟩ : ∃ items,
      rulesOf ((Table.field entries "protect").getD .null) = .ok (.list items) ∧
        ((Table.field entries "protect").getD (.list [])).items = .ok items := by
    cases found : Table.field entries "protect" with
    | none => exact ⟨[], rfl, rfl⟩
    | some given =>
      obtain ⟨items, listed⟩ := named.protect given found
      exact ⟨items, rulesOf_list listed, by simp [Value.items, listed]⟩
  refine ⟨_, if_pos keys, .list items, ?_, listed.symm⟩
  rw [ofTable, access, rules]
  rfl

theorem ofFileTable_eq (entries : Table) :
    ofFileTable entries = ofTable (entries.only ["login_path", "protect"]) := by
  simp [ofFileTable, ofTable, Table.field_only]
  rfl

end Settings

namespace Config

theorem install_table (entries : Table) :
    install host (.raw (.table entries)) =
      (ofExcept (Settings.ofTable entries)).bind fun settings => install host (.ready settings) := by
  rw [install_eq (by simp)]
  cases read : Settings.ofTable entries with
  | error fault =>
    simp [Source.resolve, Source.settings?, Value.opened, read]
    rfl
  | ok settings => simp [Source.resolve, Source.settings?, Value.opened, read, install_eq]

theorem install_ready_congr (same : settings.resolve = other.resolve) :
    install host (.ready settings) = install host (.ready other) := by
  rw [install_eq (by simp), install_eq (by simp)]
  change (ofExcept settings.resolve).bind _ = (ofExcept other.resolve).bind _
  rw [same]

theorem install_table_eq_configure (named : Settings.Named entries) :
    install host (.raw (.table entries)) = configure host entries := by
  obtain ⟨settings, byKeyword, protect, asTable, same⟩ := Settings.ofKeywords_of_named named
  have alike : install host (.ready { settings with protect := protect }) =
      install host (.ready settings) := install_ready_congr (Settings.resolve_congr same)
  rw [install_table, asTable, configure, byKeyword]
  exact alike

theorem install_file {file : Document.Entry}
    (loaded : Document.load host.yaml name file = .ok entries) :
    ((ofExcept (Settings.ofFile host name file)).bind fun settings =>
        install host (.ready settings)) =
      install host (.raw (.table (entries.only ["login_path", "protect"]))) := by
  rw [install_table, ← Settings.ofFileTable_eq, Settings.ofFile, loaded]
  rfl

theorem run_install {source : Source} (told : ∀ id attributes, source ≠ .raw (.object id attributes))
    (s : Surroundings) :
    (install host source).run s = match source.resolve with
      | .ok config => (.ok config, ⟨{ s.world with config := some config }, s.context⟩)
      | .error fault => (.error fault, s) := by
  rw [install_eq told]
  cases source.resolve <;> rfl

theorem run_install_ready (host : Host) (accepted : settings.resolve = .ok config)
    (s : Surroundings) :
    (install host (.ready settings)).run s =
      (.ok config, ⟨{ s.world with config := some config }, s.context⟩) := by
  have resolved : Source.resolve (.ready settings) = .ok config := accepted
  rw [run_install (by simp), resolved]

/-- Settings that are given by keyword and the same settings in one table come to the same, whatever
their values are: to one configuration, to one fault, and to the same log. A file comes to what its table
does with nothing in it but the login path and the rules, whatever table the reader finds in it. A table
comes to a configuration that is then in force, or to a fault, and then nothing has changed. -/
theorem sources_agree (host : Host) :
    (∀ entries : Table, Settings.Named entries →
      install host (.raw (.table entries)) = configure host entries) ∧
    (∀ (name : String) (file : Document.Entry) (entries : Table),
      Document.load host.yaml name file = .ok entries →
      ((ofExcept (Settings.ofFile host name file)).bind fun settings =>
          install host (.ready settings)) =
        install host (.raw (.table (entries.only ["login_path", "protect"])))) ∧
    ∀ (entries : Table) (s : Surroundings),
      let called := (install host (.raw (.table entries))).run s
      (∃ config, called = (.ok config, ⟨{ s.world with config := some config }, s.context⟩)) ∨
        ∃ fault, called = (.error fault, s) := by
  refine ⟨fun entries named => install_table_eq_configure named, fun name file entries loaded =>
    install_file loaded, fun entries s => ?_⟩
  intro called
  have comes : called = _ := run_install (by simp) s
  rw [comes]
  split
  next config _ => exact .inl ⟨config, rfl⟩
  next fault _ => exact .inr ⟨fault, rfl⟩

def siteText : List Char :=
  "\x7b\"access\": 3, \"login_path\": \"/in\"\x7d".toList

def siteFile : Document.Entry :=
  .file (siteText.map fun char => char.toNat.toUInt8)

def siteTable : Table :=
  [(.str "access", .int 3), (.str "login_path", .str "/in")]

theorem load_site (yaml : Document.Stream → Except Fault Value) :
    Document.load yaml "site.json" siteFile = .ok siteTable := by
  have merged : Table.merge [] siteTable = siteTable := by
    simp [siteTable, Table.merge, Table.put, Value.same]
  have fed : (Document.unixLines siteText).foldlM Document.Json.Reading.feed {} =
      .ok ⟨.between, ⟨[], .complete (.table (Table.merge [] siteTable))⟩⟩ := rfl
  rw [merged] at fed
  exact Document.load_of_read .json (by decide +kernel) (Document.read_json fed)

/-- A rule with a function to tell roles, by keyword and in a table; and a file, which leaves no trace of
its access functions, though the same table with all that is in it would. -/
theorem club_and_site_agree :
    let host : Host := .answering .null
    let rule : Rule := ⟨.role, .str "/club", .str "member", .null⟩
    let rank : Value := .hooks (.callback 1 "rank") .defaultPermissions .null
    let club : Table := [(.str "protect", .list [rule.toValue]), (.str "access", rank)]
    let installed := fun config : Config =>
      ((.ok config, ⟨{ config := some config }, .null⟩) : Except Fault Config × Surroundings)
    (Settings.Named club ∧
      (configure host club).run {} = installed { protect := [rule], access := rank } ∧
      (install host (.raw (.table club))).run {} = installed { protect := [rule], access := rank }) ∧
    Document.load host.yaml "site.json" siteFile = .ok siteTable ∧
      ((Process.ofExcept (Settings.ofFile host "site.json" siteFile)).bind
        fun settings => install host (.ready settings)).run {} = installed { loginPath := .str "/in" } ∧
      (install host (.raw (.table siteTable))).run {} =
        installed { loginPath := .str "/in", access := .int 3 } := by
  intro host rule rank club installed
  obtain ⟨tables, files, -⟩ := sources_agree host
  have named : Settings.Named club := by
    refine ⟨by simp [club, Settings.fields], fun given found => ?_, fun given found => ?_⟩
    · have same : Value.list [rule.toValue] = given := by simpa [club, Table.field_cons] using found
      exact ⟨[rule.toValue], by rw [← same]; rfl⟩
    · have same : rank = given := by simpa [club, Table.field_cons] using found
      exact ⟨_, _, _, same.symm⟩
  have valid : rule.Valid := ⟨by cbv, .inl rfl, by decide⟩
  have listed : [rule.toValue].mapM Settings.resolveRule = .ok [rule] :=
    mapM_cons_eq_ok_iff.mpr ⟨Settings.resolveRule_toValue valid, rfl⟩
  have accepted : Settings.resolve { protect := .list [rule.toValue], access := rank } =
      .ok { protect := [rule], access := rank } :=
    (Settings.resolve_eq_ok_iff rfl).mpr ⟨by decide, rfl, [rule], listed, rfl⟩
  have byKeyword : Settings.ofKeywords club = .ok { protect := .list [rule.toValue], access := rank } := by
    simp [Settings.ofKeywords, club, Settings.fields, Table.field_cons]
  have configured : (configure host club).run {} = installed { protect := [rule], access := rank } := by
    rw [configure, byKeyword]
    exact run_install_ready host accepted {}
  have allRead : Settings.ofTable siteTable = .ok { loginPath := .str "/in", access := .int 3 } := by
    simp [Settings.ofTable, siteTable, Table.field_cons]
    rfl
  have restrictedRead : Settings.ofTable (siteTable.only ["login_path", "protect"]) =
      .ok { loginPath := .str "/in" } := by
    simp [Settings.ofTable, Table.field_only, siteTable, Table.field_cons]
    rfl
  have login : Redirect.isValid (.str "/in") = true := by decide
  have resolved : ∀ access : Value, Settings.resolve { loginPath := .str "/in", access := access } =
      .ok { loginPath := .str "/in", access := access.orElse defaultHooks } :=
    fun _ => (Settings.resolve_eq_ok_iff rfl).mpr ⟨login, rfl, [], rfl, rfl⟩
  refine ⟨⟨named, configured, ?_⟩, load_site _, ?_, ?_⟩
  · rw [tables club named]
    exact configured
  · rw [files "site.json" siteFile siteTable (load_site _), install_table, restrictedRead]
    exact run_install_ready host (resolved _) {}
  · rw [install_table, allRead]
    exact run_install_ready host (resolved _) {}

end Config

end Gatekeeper
