import Gatekeeper.Proofs.Config.Update
import Gatekeeper.Proofs.Engine.Consulting
import Gatekeeper.Proofs.Redirect
import Gatekeeper.Proofs.Session.Entry

/-! Where guarded requests are sent. A target is taken from the configuration in force when the request
came, and each one that was ever in force has been checked. -/
namespace Gatekeeper.Engine

open Process

variable {α β : Type} {host : Host} {config : Config} {rule : Rule} {path : String}
  {allowed : Config → Prop} {context session last : Value} {exchanges : List Exchange}
  {decision : Decision}

theorem isValid_target (sound : config.Sound) (mem : rule ∈ config.protect) :
    Redirect.isValid (rule.redirectTo.orElse config.loginPath) = true := by
  have valid := sound.rules rule mem
  rw [valid.orElse_eq]
  split
  · exact sound.loginPath
  next present => exact valid.redirectTo.resolve_left (by simpa using present)

theorem isValid_of_ends_judge (sound : config.Sound) (mem : rule ∈ config.protect)
    (ends : Ends allowed context (judge host config path rule session) exchanges (.ok decision) last)
    (denied : decision.allowed = false) : Redirect.isValid decision.redirectTo = true := by
  rcases ends_bind_iff.mp ends with ⟨_, _, admitted, _, -, -, more⟩ | ⟨_, ⟨⟩, -⟩
  rcases ends_bind_iff.mp more with ⟨_, _, check, _, -, -, logged⟩ | ⟨_, ⟨⟩, -⟩
  obtain ⟨_, _, _, -, -, done⟩ := ends_ask_iff.mp logged
  obtain ⟨-, same, -⟩ := ends_done_iff.mp done
  cases same
  cases admitted with
  | true => cases denied
  | false => exact isValid_target sound mem

theorem isValid_of_ends_decide (sound : ∀ config, allowed config → config.Sound)
    (ends : Ends allowed context (decide host .config path none) exchanges (.ok decision) last)
    (denied : decision.allowed = false) : Redirect.isValid decision.redirectTo = true := by
  -- The configuration is read once, so the rule and the fallback are of the same one.
  rw [decide_config_eq] at ends
  obtain ⟨config, rest, may, -, decided⟩ := ends_config_bind_iff.mp ends
  rcases decide_cases host config path with ⟨outcome, -, admits, same⟩ | ⟨rule, mem, same⟩
  · rw [same] at decided
    obtain ⟨-, outcome, -⟩ := ends_ofExcept_iff.mp decided
    rw [admits decision outcome.symm] at denied
    cases denied
  · rw [same] at decided
    rcases ends_bind_iff.mp decided with ⟨_, _, session, _, -, -, judged⟩ | ⟨_, ⟨⟩, -⟩
    exact isValid_of_ends_judge (sound config may) mem judged denied

def proceed (next : Process β) (redirect : Value → Process β) (after : Except Fault β → Process α) :
    Except Fault Decision → Process α
  | .ok decision =>
    (if decision.allowed then next else redirect decision.redirectTo).attempt.bind after
  | .error fault => after (.error fault)

theorem guard_attempt_bind {next : Process β} {redirect : Value → Process β}
    {after : Except Fault β → Process α} :
    (guard host path next redirect).attempt.bind after =
      (decide host .config path none).attempt.bind (proceed next redirect after) := by
  simp only [guard, bind_eq, attempt_bind, bind_assoc]
  congr 1
  funext outcome
  cases outcome <;> rfl

/-- How far a task has come that was at a guarded request: the request is still being decided, or it
has been and what follows upon the decision is under way. A target that it is sent to is on the
site. -/
def Handles (host : Host) (path : String) (next : Process β) (redirect : Value → Process β)
    (after : Except Fault β → Process α) (member later : Member α) : Prop :=
  ∃ exchanges, later.past = member.past ++ exchanges ∧
    ((∃ op further, Leads Config.Granted member.context (decide host .config path none) exchanges
          (.ask op further) later.context ∧
        later.process = (Process.ask op further).attempt.bind (proceed next redirect after)) ∨
      ∃ first second outcome mid, exchanges = first ++ second ∧
        Ends Config.Granted member.context (decide host .config path none) first outcome mid ∧
        Leads Config.Granted mid (proceed next redirect after outcome) second later.process
          later.context ∧
        ∀ decision, outcome = .ok decision → decision.allowed = false →
          Redirect.Local decision.redirectTo)

def opening (world : World) (roots : List (Process α × Value)) : Cohort α :=
  .begin { world with config := some {} } roots

/-- No request is redirected off the site. Tasks may change the configuration by the calls for it, in
any order and beside one another, while requests are guarded: every target that a guard hands over
is on the site, as a browser reads it. Nor is more refused than need be: a short text that begins
with one slash and has no backslash or control character in it is a valid target. -/
theorem redirects_stay_on_site (host : Host) (launch : Call → Option (Process α)) (world : World)
    (roots : List (Process α × Value)) :
    (∀ update : Update, (update.call host).Asks (Op.Puts Config.Granted)) ∧
    ((∀ root ∈ roots, root.1.Asks (Op.Puts Config.Granted)) →
      (∀ call process, launch call = some process → process.Asks (Op.Puts Config.Granted)) →
      ∀ (before schedule : List Nat) (place : Nat) (member : Member α) (path : String)
        (next : Process β) (redirect : Value → Process β) (after : Except Fault β → Process α),
      ((opening world roots).play launch before).members[place]? = some member →
      member.process = (guard host path next redirect).attempt.bind after →
      ∃ later, ((opening world roots).play launch (before ++ schedule)).members[place]? =
          some later ∧
        Handles host path next redirect after member later) ∧
    ∀ (target : Value) (text : String), target.outline? = some text →
      text.toList[0]? = some '/' → text.toList[1]? ≠ some '/' → text.toList.length ≤ 500 →
      (∀ char ∈ text.toList, char ≠ '\\' ∧ 0x1F < char.toNat ∧ char.toNat ≠ 0x7F) →
      Redirect.isValid target = true := by
  refine ⟨Update.asks_call, ?_, ?_⟩
  · intro rooted launched before schedule place member path next redirect after found about
    have start : (opening world roots).Orderly Config.Granted launch :=
      Cohort.orderly_begin ⟨{}, rfl, Config.granted_default⟩ rooted launched
    obtain ⟨later, reached, exchanges, past, leads⟩ :=
      Cohort.since_of_play found ((start.play before).throughout schedule)
    rw [about, guard_attempt_bind] at leads
    refine ⟨later, by rw [Cohort.play_append, reached], exchanges, past, ?_⟩
    rcases leads_attempt_bind leads with deciding |
      ⟨first, second, outcome, mid, rfl, decided, proceeds⟩
    · exact .inl deciding
    · refine .inr ⟨first, second, outcome, mid, rfl, decided, proceeds, ?_⟩
      rintro decision rfl denied
      exact Redirect.local_of_isValid
        (isValid_of_ends_decide (fun _ granted => granted.sound) decided denied)
  · intro target text outline slash single short safe
    exact Redirect.isValid_iff.mpr ⟨text, outline,
      Redirect.isValidText_iff.mpr ⟨slash, single, short, safe⟩⟩

def tightening : Update :=
  .ready { protect := .list [staffRule.toValue] }

def guarded : Process Value :=
  (guard (.answering .null) "/admin/users" (.done .null) .done).attempt.bind ofExcept

def tasks : List (Process Value × Value) :=
  [((tightening.call (.answering .null)).bind fun _ => .done .null, .null), (guarded, .null)]

theorem tasks_denied :
    (((opening {} tasks).play (fun _ => none) ([0] ++ [1, 1, 1, 1])).members[1]?).map
      (·.process) = some (.done (.str "/login")) := by
  have changes : tightening.call (.answering .null) = _ := Update.call_eq tightening
  have resolved : tightening.resolved = .ok Session.staffOnly := Session.staffOnly_accepted
  have isText : staffRule.pattern.IsText := rfl
  have found : findRule Session.staffOnly.protect "/admin/users" = .ok (some staffRule) :=
    findRule_of_governs (by simp [Session.staffOnly, isText]) staffRule_governs
  have decides : decide (.answering .null) (.done Session.staffOnly) "/admin/users" none = _ :=
    decide_eq_of_findRule found rfl
  rw [resolved] at changes
  simp only [tasks, guarded, changes, guard_attempt_bind, decide_config_eq]
  simp [Cohort.play, Cohort.take, opening, Cohort.begin, Member.fresh, Member.step, Member.child?,
    request, Process.config, attempt, Surroundings.answer, decides, Member.started?]
  rfl

theorem tasks_ask : ∀ root ∈ tasks, root.1.Asks (Op.Puts Config.Granted) := by
  have polite : (Host.answering .null).Within (Asks (Op.Puts Config.Granted)) :=
    ⟨fun _ _ => trivial, fun _ _ => trivial⟩
  intro root mem
  rcases List.mem_pair.mp mem with rfl | rfl
  · exact (Update.asks_call _).bind fun _ => trivial
  · have guards : (guard (.answering .null) "/admin/users" (.done .null) .done).Asks
        (Op.Puts Config.Granted) := asks_guard polite trivial fun _ => trivial
    exact guards.attempt.bind asks_ofExcept

theorem denied_request_stays_on_site :
    ∃ later, ((opening {} tasks).play (fun _ => none) ([0] ++ [1, 1, 1, 1])).members[1]? =
        some later ∧
      later.process = .done (.str "/login") ∧
      Handles (.answering .null) "/admin/users" (.done .null) .done ofExcept
        (.fresh [1] guarded .null) later := by
  obtain ⟨-, guards, -⟩ := redirects_stay_on_site (.answering .null) (fun _ => none) {} tasks
  obtain ⟨later, reached, handles⟩ := guards tasks_ask (by simp) [0] [1, 1, 1, 1] 1
    (.fresh [1] guarded .null) "/admin/users" (.done .null) .done ofExcept rfl rfl
  have denied := tasks_denied
  rw [reached] at denied
  exact ⟨later, reached, Option.some.inj denied, handles⟩

end Gatekeeper.Engine
