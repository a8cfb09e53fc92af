import Gatekeeper.Config.Store
import Gatekeeper.Proofs.Config.Accepted
import Gatekeeper.Proofs.Process.Cohort

/-! Calls that change the configuration in force. Each comes to one outcome that the configuration
before it has no part in: either another configuration, which is then in force as a whole, or a fault,
and then nothing has happened. -/
namespace Gatekeeper

open Process

variable {host : Host} {config : Config} {s : Surroundings}

/-- All checks come before the configuration is replaced, and nothing that can fail comes after. -/
theorem Config.install_eq {source : Source}
    (told : ∀ id attributes, source ≠ .raw (.object id attributes)) :
    Config.install host source = (ofExcept source.resolve).bind fun config =>
      (request (.setConfig (some config))).bind fun _ =>
        (Config.announce config.loginPath config.protect.length).bind fun _ => .done config := by
  unfold Config.install
  split
  · exact absurd rfl (told _ _)
  · rfl

inductive Update where
  | standard
  | table (entries : Table)
  | ready (settings : Settings)
  | keywords (entries : Table)
  | reset

namespace Update

def call (host : Host) : Update → Process Unit
  | .standard => (Config.install host (.raw .null)).bind fun _ => .done ()
  | .table entries => (Config.install host (.raw (.table entries))).bind fun _ => .done ()
  | .ready settings => (Config.install host (.ready settings)).bind fun _ => .done ()
  | .keywords entries => (Config.configure host entries).bind fun _ => .done ()
  | .reset => Config.reset

def resolved : Update → Except Fault Config
  | .standard => Source.resolve (.raw .null)
  | .table entries => Source.resolve (.raw (.table entries))
  | .ready settings => Source.resolve (.ready settings)
  | .keywords entries => do Source.resolve (.ready (← Settings.ofKeywords entries))
  | .reset => .ok {}

def tell : Update → Config → Process Unit
  | .reset, _ => .done ()
  | _, config => Config.announce config.loginPath config.protect.length

theorem call_eq (update : Update) :
    update.call host = (ofExcept update.resolved).bind fun config =>
      (request (.setConfig (some config))).bind fun _ => update.tell config := by
  have installed : ∀ source : Source,
      (∀ id attributes, source ≠ .raw (.object id attributes)) →
      ((Config.install host source).bind fun _ => .done ()) =
        (ofExcept source.resolve).bind fun config =>
          (request (.setConfig (some config))).bind fun _ =>
            Config.announce config.loginPath config.protect.length := by
    intro source told
    rw [Config.install_eq told]
    cases source.resolve <;> rfl
  cases update with
  | standard => exact installed _ (by simp)
  | table entries => exact installed _ (by simp)
  | ready settings => exact installed _ (by simp)
  | keywords entries =>
    simp only [call, resolved, Config.configure]
    cases Settings.ofKeywords entries with
    | error fault => rfl
    | ok settings => exact installed (.ready settings) (by simp)
  | reset => rfl

theorem run_call (update : Update) (s : Surroundings) :
    (update.call host).run s = match update.resolved with
      | .ok config => (.ok (), ⟨{ s.world with config := some config }, s.context⟩)
      | .error fault => (.error fault, s) := by
  rw [call_eq]
  cases update.resolved with
  | error fault => rfl
  | ok config => cases update <;> rfl

theorem sound_of_resolved {update : Update} (asked : update.resolved = .ok config) :
    config.Sound := by
  cases update with
  | standard => exact Source.sound_of_resolve asked
  | table entries => exact Source.sound_of_resolve asked
  | ready settings => exact Source.sound_of_resolve asked
  | keywords entries =>
    obtain ⟨settings, -, accepted⟩ := bind_eq_ok_iff.mp asked
    exact Source.sound_of_resolve accepted
  | reset =>
    cases asked
    exact Settings.sound_of_resolve Settings.resolve_default

theorem sound_call (update : Update) (sound : s.world.InForce Config.Sound) :
    ((update.call host).run s).2.world.InForce Config.Sound := by
  rw [run_call]
  cases asked : update.resolved with
  | ok config => exact ⟨config, rfl, sound_of_resolved asked⟩
  | error fault => exact sound

def leave (host : Host) (s : Surroundings) (updates : List Update) : Surroundings :=
  updates.foldl (fun s update => ((update.call host).run s).2) s

theorem sound_leave (updates : List Update) (sound : s.world.InForce Config.Sound) :
    (leave host s updates).world.InForce Config.Sound := by
  induction updates generalizing s with
  | nil => exact sound
  | cons update rest ih => exact ih (sound_call update sound)

/-- After every call of a sequence, each with whatever the host gives, a sound configuration is in
force. It is the one that the call asked for, and a call that fails leaves all as it was. -/
theorem configuration_stays_sound (host : Host) (world : World) (context : Value)
    (earlier : List Update) (update : Update) :
    let before := leave host ⟨{ world with config := some {} }, context⟩ earlier
    let called := (update.call host).run before
    called.2.world.InForce Config.Sound ∧
      match called.1 with
      | .ok () => ∃ config, update.resolved = .ok config ∧
          called.2 = ⟨{ before.world with config := some config }, before.context⟩
      | .error fault => update.resolved = .error fault ∧ called.2 = before := by
  intro before called
  have sound : before.world.InForce Config.Sound :=
    sound_leave earlier ⟨{}, rfl, Settings.sound_of_resolve Settings.resolve_default⟩
  refine ⟨sound_call update sound, ?_⟩
  have does : called = _ := run_call update before
  cases asked : update.resolved with
  | ok config =>
    rw [asked] at does
    rw [does]
    exact ⟨config, rfl, rfl⟩
  | error fault =>
    rw [asked] at does
    rw [does]
    exact ⟨rfl, rfl⟩

end Update

def Config.Granted (config : Config) : Prop :=
  ∃ update : Update, update.resolved = .ok config

theorem Config.Granted.sound (granted : config.Granted) : config.Sound := by
  obtain ⟨update, asked⟩ := granted
  exact Update.sound_of_resolved asked

theorem Config.granted_default : Config.Granted {} :=
  ⟨.reset, rfl⟩

theorem Update.asks_call (update : Update) :
    (update.call host).Asks (Op.Puts Config.Granted) := by
  rw [call_eq]
  cases asked : update.resolved with
  | error fault => trivial
  | ok config =>
    refine (asks_request ⟨config, rfl, update, asked⟩).bind fun _ => ?_
    cases update with
    | reset => trivial
    | _ => exact asks_request trivial

end Gatekeeper
