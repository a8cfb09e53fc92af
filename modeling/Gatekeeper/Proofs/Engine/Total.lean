import Gatekeeper.Proofs.Config.File
import Gatekeeper.Proofs.Config.Update
import Gatekeeper.Proofs.Engine.BuiltIn
import Gatekeeper.Scenario.Run

/-! Decisions that cannot fail. What is asked of a configuration before it is accepted, and of a session
before it counts, is enough for rules without functions of their own to come to an answer. -/
namespace Gatekeeper

open Process

variable {α β : Type} {host : Host} {config : Config} {s t : Surroundings} {trace : List Op}
  {session : Value} {path : String}

namespace Process

def Fails (process : Process α) : Prop :=
  ∀ s trace value t, ¬ Runs s process trace (.ok value) t

theorem fails_fail (fault : Fault) : Fails (.fail fault : Process α) := by
  intro s trace value t runs
  cases (runs_fail_iff.mp runs).2.1

theorem Fails.bind {process : Process α} {next : α → Process β} (fails : ∀ value, Fails (next value)) :
    Fails (process.bind next) := by
  intro s trace value t runs
  rcases runs_bind_iff.mp runs with ⟨_, _, found, _, -, -, more⟩ | ⟨_, same, -⟩
  · exact fails found _ _ _ _ more
  · cases same

end Process

namespace Config

theorem fails_displace (given : Value) : Fails (displace host given) :=
  .bind fun _ => .bind fun _ => .bind fun _ => .bind fun _ => .bind fun _ => fails_fail _

theorem install_eq_of_resolve {settings : Settings} (resolved : settings.resolve = .ok config) :
    install host (.ready settings) = (request (.setConfig (some config))).bind fun _ =>
      (announce config.loginPath config.protect.length).bind fun _ => .done config := by
  have accepted : Source.resolve (.ready settings) = .ok config := resolved
  rw [install_eq (by simp), accepted]
  rfl

theorem resolve_of_runs_install {source : Source}
    (installed : Runs s (install host source) trace (.ok config) t) :
    source.resolve = .ok config ∧ t.world.config = some config := by
  by_cases told : ∀ id attributes, source ≠ .raw (.object id attributes)
  · rw [install_eq told] at installed
    cases resolved : source.resolve with
    | error fault =>
      rw [resolved] at installed
      cases (runs_fail_iff.mp installed).2.1
    | ok accepted =>
      rw [resolved] at installed
      obtain ⟨_, -, replaced⟩ := (runs_request_bind_iff (by simp)).mp installed
      obtain ⟨_, -, announced⟩ := (runs_request_bind_iff (by simp)).mp replaced
      obtain ⟨-, same, rfl⟩ := runs_done_iff.mp announced
      cases same
      exact ⟨rfl, rfl⟩
  · push Not at told
    obtain ⟨id, attributes, rfl⟩ := told
    exact absurd installed (fails_displace _ _ _ _ _)

end Config

theorem Config.BuiltIn.ne_allow {rule : Rule} (builtIn : config.BuiltIn) (mem : rule ∈ config.protect) :
    rule.kind ≠ .allow := by
  intro custom
  have known := builtIn.rules rule mem
  rw [custom] at known
  exact absurd known (by decide)

namespace Engine

theorem settles_announce (decision : Decision) : Settles s (announce path decision) decision :=
  fun _ _ _ runs => (runs_announce_iff.mp runs).2.1

theorem exists_decision (host : Host) (valid : ∀ rule ∈ config.protect, rule.Valid)
    (builtIn : config.BuiltIn) (usable : Session.Usable session) (path : String) :
    ∃ decision, ∀ s given, Settles s (given.elim (Context.session host) .done) session →
      Settles s (decide host (.done config) path given) decision := by
  have texts : ∀ rule ∈ config.protect, rule.pattern.IsText :=
    fun rule mem => Pattern.isText_of_isValid (valid rule mem).pattern
  by_cases covered : ∃ rule ∈ config.protect, rule.Covers path
  · obtain ⟨rule, governs⟩ := exists_governs covered
    have unset : config.access.attr "check" = .ok .null := by rw [builtIn.access]; rfl
    obtain ⟨admitted, checked, -⟩ := check_eq_of_usable host (valid rule governs.mem).wellTyped
      (builtIn.ne_allow governs.mem) usable
    -- The decision is named before the surroundings, so none of them has a part in it.
    refine ⟨conclusion config .null rule session admitted, fun s given asked => ?_⟩
    rw [decide_eq_of_findRule (findRule_of_governs texts governs) unset]
    refine asked.bind fun mid => ?_
    rw [builtIn.access, checked, done_bind]
    exact settles_announce _
  · obtain ⟨decision, same⟩ := decide_eq_done host texts (by simpa using covered)
    exact ⟨decision, fun s given _ => same given ▸ settles_done_iff.mpr rfl⟩

/-- What has been accepted decides every request. With rules for roles and permissions, told in the
usual way, a configuration that has passed its checks comes to a decision about every path and every
session that has passed its own, or none, whether the session is given or that of the current request.
And every configuration that is accepted from a file is of this kind, whatever the file contains, as
long as the reader of YAML finds nothing but data in it. -/
theorem accepted_configuration_decides (host : Host) :
    (∀ (source : Source) (config : Config) (s t : Surroundings) (trace : List Op),
      Runs s (Config.install host source) trace (.ok config) t → config.BuiltIn →
      ∀ (path : String) (session : Value), Session.Usable session →
        ∃ decision,
          (∀ s provider, Settles s provider config →
            Settles s (decide host provider path (some session)) decision) ∧
          ∀ s, s.world.config = some config → Settles s (Context.session host) session →
            Settles s (decide host .config path none) decision) ∧
    ((∀ stream, Gives Value.IsData (host.yaml stream)) →
      ∀ (name : String) (entry : Document.Entry) (s t : Surroundings) (trace : List Op)
      (answer : Scenario.Answer),
      Runs s ((Scenario.Step.installFile name entry).run host) trace (.ok answer) t →
        ∃ config, answer = .config config ∧ t.world.config = some config ∧
          config.BuiltIn ∧ config.Plain) := by
  constructor
  · intro source config s t trace installed builtIn path session usable
    have valid := Source.valid_of_resolve (Config.resolve_of_runs_install installed).1
    obtain ⟨decision, decides⟩ := exists_decision host valid builtIn usable path
    refine ⟨decision, fun s provider provides => ?_, fun s inForce current => ?_⟩
    · exact provides.bind fun mid => decides mid (some session) (settles_done_iff.mpr rfl)
    · intro trace result t runs
      rw [decide_config_eq, runs_config_bind_iff inForce] at runs
      obtain ⟨rest, -, more⟩ := runs
      exact decides s none current rest result t more
  · intro data name entry s t trace answer runs
    rw [Scenario.Step.run] at runs
    cases read : Settings.ofFile host name entry with
    | error fault =>
      rw [read] at runs
      cases (runs_fail_iff.mp runs).2.1
    | ok settings =>
      rw [read] at runs
      obtain ⟨outcome, installed, same⟩ := runs_map_iff.mp runs
      cases outcome with
      | error fault => cases same
      | ok config =>
        cases same
        obtain ⟨resolved, inForce⟩ := Config.resolve_of_runs_install installed
        exact ⟨config, rfl, inForce, Settings.builtIn_of_file data read resolved⟩

def membersRule : Rule :=
  ⟨.role, .str "/club", .str "member", .null⟩

def membersTable : Value :=
  .table [(.str "pattern", .str "/club"), (.str "role", .str "member")]

def membersText : List Char :=
  "\x7b\"protect\": [\x7b\"pattern\": \"/club\", \"role\": \"member\"\x7d]\x7d".toList

def membersFile : Document.Entry :=
  .file (membersText.map fun char => char.toNat.toUInt8)

/-- A host whose reader of YAML knows only what YAML has in common with JSON. -/
def plainReader : Host :=
  { Host.answering .null with yaml := fun stream => Document.Json.read (String.ofList stream.chars) }

theorem load_members :
    Document.load plainReader.yaml "rules.yaml" membersFile =
      .ok [(.str "protect", .list [membersTable])] := by
  have merged : Table.merge [] [(.str "pattern", .str "/club"), (.str "role", .str "member")] =
      [(.str "pattern", .str "/club"), (.str "role", .str "member")] := by
    simp [Table.merge, Table.put, Value.same]
  have fed : (Document.unixLines membersText).foldlM Document.Json.Reading.feed {} =
      .ok ⟨.between, ⟨[], .complete (.table (Table.merge [] [(.str "protect",
        .list [.table (Table.merge [] [(.str "pattern", .str "/club"),
          (.str "role", .str "member")])])]))⟩⟩ := rfl
  rw [merged] at fed
  exact Document.load_of_read .yaml (by decide +kernel) (Document.read_json fed)

theorem ofFile_members :
    Settings.ofFile plainReader "rules.yaml" membersFile =
      .ok { protect := .list [membersTable] } := by
  refine bind_eq_ok_iff.mpr ⟨_, load_members, ?_⟩
  simp [Settings.ofFileTable, Table.field_cons, Settings.rulesOf, Value.orElse, Value.truthy,
    Value.items, Value.opened]
  rfl

theorem resolve_members :
    Settings.resolve { protect := .list [membersTable] } = .ok { protect := [membersRule] } := by
  have read : Rule.ofValue membersTable = .ok membersRule := by
    simp [Rule.ofValue, membersTable, Value.opened, Rule.ofTable, RuleKind.all, RuleKind.field,
      Table.field_cons]
    rfl
  have valid : membersRule.Valid := ⟨by cbv, .inl rfl, by decide⟩
  have accepted : Settings.resolveRule membersTable = .ok membersRule :=
    bind_eq_ok_iff.mpr ⟨membersRule, read,
      bind_eq_ok_iff.mpr ⟨(), Rule.validate_eq_ok_iff.mpr valid, rfl⟩⟩
  refine Settings.resolve_of_mapM ?_
  rw [List.mapM_cons, accepted]
  rfl

theorem members_file_decides :
    let host : Host := plainReader
    let config : Config := { protect := [membersRule] }
    let s : Surroundings := ⟨{}, .null⟩
    let t : Surroundings := ⟨{ config := some config }, .null⟩
    ((Scenario.Step.installFile "rules.yaml" membersFile).run host).run s =
        (.ok (.config config), t) ∧
      Settles t (Context.session host) .null ∧
      ∃ decision, Settles t (decide host .config "/club" none) decision := by
  intro host config s t
  have installs : (Config.install host (.ready { protect := .list [membersTable] })).run s =
      (.ok config, t) := by
    rw [Config.install_eq_of_resolve resolve_members]
    rfl
  have files : ((Scenario.Step.installFile "rules.yaml" membersFile).run host).run s =
      (.ok (.config config), t) := by
    rw [Scenario.Step.run, ofFile_members]
    simp only [ofExcept_ok, bind_eq, done_bind, Config.install_eq_of_resolve resolve_members]
    rfl
  have anonymous : Settles t (Context.session host) .null := fun _ _ _ runs =>
    ((Context.runs_session_iff rfl rfl).mp runs).2.1
  obtain ⟨steps, installed⟩ := runs_run s
    (Config.install host (.ready { protect := .list [membersTable] }))
  obtain ⟨stepsToo, filed⟩ := runs_run s
    ((Scenario.Step.installFile "rules.yaml" membersFile).run host)
  rw [installs] at installed
  rw [files] at filed
  obtain ⟨decides, sameKind⟩ := accepted_configuration_decides host
  obtain ⟨found, same, -, builtIn, -⟩ :=
    sameKind (fun _ => Document.Json.gives_read _) _ _ _ _ _ _ filed
  cases same
  obtain ⟨decision, -, settles⟩ := decides _ _ _ _ _ installed builtIn "/club" .null (.inl rfl)
  exact ⟨files, anonymous, decision, settles t rfl anonymous⟩

end Engine

end Gatekeeper
