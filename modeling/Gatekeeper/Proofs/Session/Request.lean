import Gatekeeper.Config.Store
import Gatekeeper.Proofs.Engine.Consulting
import Gatekeeper.Proofs.Engine.Snapshot
import Gatekeeper.Proofs.Process.Cohort
import Gatekeeper.Proofs.Session.Entry

/-! The session of a request, from the store to the handler. It is read once, kept in a context of its
own while a predicate may be waited for, and both the guard and the handler find it there, whatever
other tasks do in the meantime. -/
namespace Gatekeeper

open Process

variable {α β : Type} {host : Host} {config : Config} {path : String} {allowed : Config → Prop}
  {context session last : Value} {exchanges : List Exchange}

namespace Context

theorem ends_session_bind_iff {next : Value → Process α} {result : Except Fault α} :
    Ends Config.Plain (.context session) ((Context.session host).bind next) exchanges result last ↔
      ∃ config rest, config.Plain ∧
        exchanges = ⟨.context session, .config, some config⟩ ::
          ⟨.context session, .context, .context session⟩ :: rest ∧
        Ends Config.Plain (.context session) (next session) rest result last := by
  simp only [Context.session, bind_eq, bind_assoc, ends_current_bind_iff]
  rfl

end Context

namespace Session

variable {store : Value}

theorem keeps_get (plain : ∀ id attributes, store ≠ .object id attributes) :
    Keeps allowed (host.get store key) := by
  unfold Host.get
  split
  · exact absurd rfl (plain _ _)
  · exact (closed_keeps _).ofExcept (Value.ordinary_get _ _)

theorem closed_read {holds : {α : Type} → Process α → Prop} (closed : Closed holds)
    (gets : holds (host.get store key)) (warns : holds warning) : holds (read host store) := by
  unfold read
  split
  · exact closed.done _
  · refine closed.bind gets fun stored => ?_
    split
    · exact closed.done _
    · split
      · exact closed.done _
      · exact warns

theorem asks_warning {may : Op → Prop} (environment : ∀ name, may (.environment name))
    (log : ∀ entry, may (.log entry)) : warning.Asks may := by
  refine Asks.bind ((asks_request (environment _)).bind fun _ => trivial) fun production => ?_
  cases production with
  | true => trivial
  | false => exact (asks_request (log _)).bind fun _ => trivial

theorem keeps_read (gets : Keeps allowed (host.get store key)) : Keeps allowed (read host store) :=
  closed_read (closed_keeps _) gets (keeps_of_asks (asks_warning (fun _ => trivial) fun _ => trivial))

theorem asks_enter {next : Process β} (polite : host.Within (Asks (Op.Puts allowed)))
    (runs : ∀ function context, (host.runner function context next).Asks (Op.Puts allowed))
    (goes : next.Asks (Op.Puts allowed)) : (enter host store next).Asks (Op.Puts allowed) := by
  have closed := closed_asks (Op.Puts allowed)
  refine Asks.bind (closed_read closed (polite.get closed _ _)
    (asks_warning (fun _ => trivial) fun _ => trivial)) fun session => ?_
  refine (asks_config trivial).bind fun config => ?_
  split
  · unfold Host.runWith
    split
    · exact runs _ _
    · trivial
  · split
    · exact (Context.asks_set polite).bind fun _ => goes.bind fun _ => trivial
    · exact (Context.asks_within goes).bind fun _ => trivial

/-- What a guard does in the context of a session is to decide by just that session: it reads a
configuration and, if a rule has the say, the session, and goes on as if it had been given it. -/
def Evaluates (host : Host) (path : String) (session : Value) (deciding : List Exchange)
    (outcome : Except Fault Decision) : Prop :=
  ∃ config reading rest, config.Plain ∧
    deciding = ⟨.context session, .config, some config⟩ :: (reading ++ rest) ∧
    (∀ exchange ∈ reading, exchange.op = .config ∨ exchange.op = .context) ∧
    Ends Config.Plain (.context session) (Engine.decide host (.done config) path (some session)) rest
      outcome (.context session)

theorem evaluates_of_ends_decide {outcome : Except Fault Decision}
    (predicates : ∀ rule session access, Keeps Config.Plain (Engine.check host rule session access))
    (ends : Ends Config.Plain (.context session) (Engine.decide host .config path none) exchanges
      outcome last) :
    Evaluates host path session exchanges outcome ∧ last = .context session := by
  rw [Engine.decide_config_eq] at ends
  obtain ⟨config, rest, plain, rfl, decided⟩ := ends_config_bind_iff.mp ends
  rcases Engine.decide_cases host config path with ⟨_, -, -, same⟩ | ⟨rule, -, same⟩
  · rw [same] at decided
    obtain ⟨rfl, rfl, rfl⟩ := ends_ofExcept_iff.mp decided
    refine ⟨⟨config, [], [], plain, rfl, by simp, ?_⟩, rfl⟩
    rw [same]
    exact ends_ofExcept_iff.mpr ⟨rfl, rfl, rfl⟩
  · -- The session is read by way of a configuration that may be another one by now.
    rw [same] at decided
    obtain ⟨again, rest, -, rfl, judged⟩ := Context.ends_session_bind_iff.mp decided
    have kept : Keeps Config.Plain (Engine.judge host config path rule session) :=
      Engine.closed_judge (closed_keeps _) (fun _ => keeps_of_asks (asks_request trivial))
        (predicates _ _ _)
    obtain rfl := kept _ _ _ _ judged
    refine ⟨⟨config, [⟨.context session, .config, some again⟩,
      ⟨.context session, .context, .context session⟩], rest, plain, rfl, by simp, ?_⟩, rfl⟩
    rw [same]
    exact judged

def visit (config : Config) (session entry : Value) (inside : List Exchange) (last : Value) :
    List Exchange :=
  ⟨entry, .config, some config⟩ :: ⟨entry, .context, entry⟩ ::
    ⟨entry, .setContext (.context session), ()⟩ :: (inside ++ [⟨last, .setContext entry, ()⟩])

/-- A request is served: `Serves host store path next redirect context exchanges outcome left` tells
how it may go from a context on, and in which context it leaves the task. -/
inductive Serves (host : Host) (store : Value) (path : String) (next : Process β)
    (redirect : Value → Process β) (context : Value) :
    List Exchange → Except Fault (Value ⊕ β) → Value → Prop
  | unread {reading : List Exchange} {fault : Fault} {entry : Value}
      (reads : Ends Config.Plain context (read host store) reading (.error fault) entry) :
      Serves host store path next redirect context reading (.error fault) entry
  | undecided {reading deciding : List Exchange} {session entry : Value} {config : Config}
      {fault : Fault} (reads : Ends Config.Plain context (read host store) reading (.ok session) entry)
      (evaluates : Evaluates host path session deciding (.error fault)) :
      Serves host store path next redirect context
        (reading ++ visit config session entry deciding (.context session)) (.error fault) entry
  /-- What comes next after the decision begins in the context of the session, and may leave the
  scope in another one. -/
  | decided {reading deciding acting : List Exchange} {session entry final : Value}
      {config : Config} {decision : Decision} {answer : Except Fault β}
      (reads : Ends Config.Plain context (read host store) reading (.ok session) entry)
      (evaluates : Evaluates host path session deciding (.ok decision))
      (acts : Ends Config.Plain (.context session)
        (if decision.allowed then next else redirect decision.redirectTo) acting answer final) :
      Serves host store path next redirect context
        (reading ++ visit config session entry (deciding ++ acting) final) (answer.map .inr) entry

theorem Serves.left_eq {next : Process β} {redirect : Value → Process β} {left : Value}
    {outcome : Except Fault (Value ⊕ β)}
    (serves : Serves host store path next redirect context exchanges outcome left)
    (gets : Keeps Config.Plain (host.get store key)) : left = context := by
  have kept := keeps_read gets
  cases serves with
  | unread reads => exact kept _ _ _ _ reads
  | undecided reads => exact kept _ _ _ _ reads
  | decided reads => exact kept _ _ _ _ reads

theorem of_ends_enter {next : Process β} {outcome : Except Fault (Value ⊕ β)}
    (ends : Ends Config.Plain context (enter host store next) exchanges outcome last) :
    (∃ fault, outcome = .error fault ∧
      Ends Config.Plain context (read host store) exchanges (.error fault) last) ∨
    ∃ reading session config inside answer mid,
      Ends Config.Plain context (read host store) reading (.ok session) last ∧
      Ends Config.Plain (.context session) next inside answer mid ∧
      exchanges = reading ++ visit config session last inside mid ∧ outcome = answer.map .inr := by
  rcases ends_bind_iff.mp ends with ⟨reading, rest, session, entry, rfl, reads, more⟩ | ⟨fault, rfl, failed⟩
  · obtain ⟨config, rest, plain, rfl, entered⟩ := ends_config_bind_iff.mp more
    simp only [plain.runner, plain.setContext, Value.isNull_null] at entered
    obtain ⟨answer, inner, rfl⟩ := ends_map_iff.mp entered
    obtain ⟨inside, mid, runs, rfl, rfl⟩ := Context.ends_within_iff.mp inner
    exact .inr ⟨reading, session, config, inside, answer, mid, reads, runs, rfl, rfl⟩
  · exact .inl ⟨fault, rfl, failed⟩

theorem serves_of_ends_enter {next : Process β} {redirect : Value → Process β}
    {outcome : Except Fault (Value ⊕ β)}
    (predicates : ∀ rule session access, Keeps Config.Plain (Engine.check host rule session access))
    (ends : Ends Config.Plain context (enter host store (Engine.guard host path next redirect))
      exchanges outcome last) :
    Serves host store path next redirect context exchanges outcome last := by
  rcases of_ends_enter ends with ⟨fault, rfl, failed⟩ |
    ⟨reading, session, config, inside, answer, mid, reads, guards, rfl, rfl⟩
  · exact .unread failed
  rcases ends_bind_iff.mp guards with
    ⟨deciding, acting, decision, between, rfl, decides, acts⟩ | ⟨fault, rfl, failed⟩
  · obtain ⟨evaluates, rfl⟩ := evaluates_of_ends_decide predicates decides
    exact .decided reads evaluates acts
  · obtain ⟨evaluates, rfl⟩ := evaluates_of_ends_decide predicates failed
    exact .undecided reads evaluates

/-- However a task goes on that was at a request, it serves the request first, and goes on from the
context in which it was, unless reading the store has changed it. -/
def Finishes (host : Host) (store : Value) (path : String) (next : Process β)
    (redirect : Value → Process β) (after : Except Fault (Value ⊕ β) → Process α)
    (member later : Member α) : Prop :=
  ∃ exchanges, later.past = member.past ++ exchanges ∧
    (∃ rest result last, Ends Config.Plain later.context later.process rest result last) ∧
    ∀ rest result last, Ends Config.Plain later.context later.process rest result last →
      ∃ request continued outcome left, exchanges ++ rest = request ++ continued ∧
        Serves host store path next redirect member.context request outcome left ∧
        ((∀ id attributes, store ≠ .object id attributes) ∨
          Keeps Config.Plain (host.get store key) → left = member.context) ∧
        Ends Config.Plain left (after outcome) continued result last

/-- The session that is checked is the session that is used. Beside any other tasks, and while no
configuration in force has functions of its own for contexts, a request is decided by the session that
was read from its store when it began. What comes next then begins in the context of that session,
where whoever asks for the session is given the same one; and when the request has ended, in whatever
way, the context from before is back. -/
theorem session_checked_is_session_used (host : Host) (store : Value) (path : String)
    (next : Process β) (redirect : Value → Process β)
    (after : Except Fault (Value ⊕ β) → Process α) (launch : Call → Option (Process α))
    (cohort : Cohort α) (schedule : List Nat) (place : Nat) (member : Member α)
    (plain : cohort.Throughout launch (World.InForce Config.Plain) schedule)
    (predicates : ∀ rule session access, Keeps Config.Plain (Engine.check host rule session access))
    (found : cohort.members[place]? = some member)
    (about : member.process =
      (enter host store (Engine.guard host path next redirect)).attempt.bind after) :
    (∃ later, (cohort.play launch schedule).members[place]? = some later ∧
      Finishes host store path next redirect after member later) ∧
    ∀ session asked given last,
      Ends Config.Plain (.context session) (Context.session host) asked given last →
      given = .ok session ∧ last = .context session := by
  constructor
  · obtain ⟨later, reached, exchanges, past, leads⟩ := Cohort.since_of_play found plain
    refine ⟨later, reached, exchanges, past,
      exists_ends ⟨{}, rfl, rfl, rfl⟩ later.context later.process, fun rest result last ends => ?_⟩
    have whole : Ends Config.Plain member.context member.process (exchanges ++ rest) result last :=
      leads.trans ends
    rw [about] at whole
    obtain ⟨request, continued, outcome, left, split, serves, goes⟩ :=
      ends_attempt_bind_iff.mp whole
    have served := serves_of_ends_enter predicates serves
    refine ⟨request, continued, outcome, left, split, served, fun quiet => ?_, goes⟩
    exact served.left_eq (quiet.elim keeps_get id)
  · intro session asked given last ends
    rw [← bind_done (Context.session host), Context.ends_session_bind_iff] at ends
    obtain ⟨_, _, -, -, told⟩ := ends
    exact (ends_done_iff.mp told).2

def lenient : Host :=
  Engine.lateHost (.bool true)

def inner : Process (Value ⊕ Value) :=
  (enter lenient (.table []) (Engine.guard lenient "/admin/users" (Context.session lenient)
    .done)).attempt.bind ofExcept

def resetting : Process (Value ⊕ Value) :=
  Config.reset.bind fun _ => .done (.inl .null)

def crossed : Cohort (Value ⊕ Value) :=
  .begin { config := some Engine.checkedConfig }
    [(inner, .context staffSession), (resetting, .null)]

def between (config : Config) (decided : Process Decision) (past : List Exchange)
    (other : Member (Value ⊕ Value)) : Cohort (Value ⊕ Value) :=
  ⟨{ config := some config }, [⟨[0], inner, .context staffSession,
    (((decided.bind fun decision => if decision.allowed then Context.session lenient
        else .done decision.redirectTo).attempt.bind fun result =>
      (request (.setContext (.context staffSession))).bind fun _ => ofExcept result).bind fun answer =>
      .done (.inr answer)).attempt.bind ofExcept, .context .null, past⟩, other]⟩

/-- The configuration is reset while the predicate is waited for. -/
def interrupted : List Nat :=
  [0, 0, 0, 0] ++ ([0, 0, 0, 1] ++ [0, 0, 0, 0])

theorem crossed_ends :
    ((crossed.play (fun _ => none) interrupted).members[0]?).map
      (fun member => (member.process, member.context)) =
        some (.done (.inr .null), .context staffSession) := by
  have entered : ∃ past, crossed.play (fun _ => none) [0, 0, 0, 0] =
      between Engine.checkedConfig (Engine.decide lenient (.done Engine.checkedConfig)
        "/admin/users" none) past (.fresh [1] resetting .null) := ⟨_, rfl⟩
  have answered : ∀ past, ∃ grown other, (between Engine.checkedConfig (Engine.decide lenient
      (.done Engine.checkedConfig) "/admin/users" none) past (.fresh [1] resetting .null)).play
        (fun _ => none) [0, 0, 0, 1] =
      between {} (Engine.announce "/admin/users" (Engine.conclusion Engine.checkedConfig
        (.callback 0 "check") staffRule .null true)) grown other := by
    intro past
    rw [Engine.decide_eq_of_findRule Engine.checkedConfig_found rfl]
    exact ⟨_, _, rfl⟩
  obtain ⟨past, entered⟩ := entered
  obtain ⟨grown, other, answered⟩ := answered past
  rw [interrupted, Cohort.play_append, entered, Cohort.play_append, answered]
  rfl

theorem crossed_plain (schedule : List Nat) :
    crossed.Throughout (fun _ => none) (World.InForce Config.Plain) schedule := by
  have polite : lenient.Within (Asks (Op.Puts Config.Plain)) :=
    ⟨fun _ _ => trivial, fun _ _ => ⟨trivial, fun _ => trivial⟩⟩
  refine (Cohort.orderly_begin ⟨Engine.checkedConfig, rfl, rfl, rfl, rfl⟩ ?_ (by simp)).throughout _
  intro root mem
  rcases List.mem_pair.mp mem with rfl | rfl
  · refine Asks.bind (Asks.attempt ?_) asks_ofExcept
    exact asks_enter polite (fun _ _ => trivial)
      (Engine.asks_guard polite (Context.asks_session polite) fun _ => trivial)
  · exact (asks_request ⟨{}, rfl, rfl, rfl, rfl⟩).bind fun _ => trivial

theorem inner_request_finds_none :
    ∃ later, (crossed.play (fun _ => none) interrupted).members[0]? = some later ∧
      (later.process = .done (.inr .null) ∧ later.context = .context staffSession) ∧
      Finishes lenient (.table []) "/admin/users" (Context.session lenient) .done ofExcept
        (.fresh [0] inner (.context staffSession)) later := by
  have calm : lenient.Within (Keeps Config.Plain) :=
    ⟨fun _ _ => keeps_done, fun _ _ => keeps_of_asks ⟨trivial, fun _ => trivial⟩⟩
  obtain ⟨⟨later, reached, finishes⟩, -⟩ := session_checked_is_session_used lenient (.table [])
    "/admin/users" (Context.session lenient) .done ofExcept (fun _ => none) crossed interrupted 0
    (.fresh [0] inner (.context staffSession)) (crossed_plain _)
    (fun _ _ _ => calm.check (closed_keeps _)) rfl rfl
  have ends := crossed_ends
  rw [reached] at ends
  exact ⟨later, reached, by simpa using ends, finishes⟩

end Session

end Gatekeeper
