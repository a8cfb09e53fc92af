import Gatekeeper.Context
import Gatekeeper.Proofs.Host
import Gatekeeper.Proofs.Value

/-! What a program sees as its context, and which session is in it. -/
namespace Gatekeeper.Context

open Process

variable {α : Type} {host : Host} {config : Config} {s t : Surroundings} {trace : List Op}

theorem runs_restore_iff {context : Value} {outcome result : Except Fault α} :
    Runs s ((request (.setContext context)).bind fun _ => .ofExcept outcome) trace result t ↔
      trace = [.setContext context] ∧ result = outcome ∧ t = ⟨s.world, context⟩ := by
  rw [runs_request_bind_iff (by simp)]
  simp only [Surroundings.answer, runs_ofExcept_iff]
  constructor
  · rintro ⟨_, rfl, rfl, rfl, rfl⟩
    exact ⟨rfl, rfl, rfl⟩
  · rintro ⟨rfl, rfl, rfl⟩
    exact ⟨[], rfl, rfl, rfl, rfl⟩

/-- A body within a context runs in it, and the one before is back however the body ends. -/
theorem runs_within_iff {context : Value} {body : Process α} {result : Except Fault α} :
    Runs s (within context body) trace result t ↔
      ∃ inner mid, Runs ⟨s.world, context⟩ body inner result mid ∧
        trace = .context :: .setContext context :: (inner ++ [.setContext s.context]) ∧
        t = ⟨mid.world, s.context⟩ := by
  have inside : ∀ rest, Runs ⟨s.world, context⟩ (body.attempt.bind fun result =>
      (request (.setContext s.context)).bind fun _ => .ofExcept result) rest result t ↔
        ∃ inner mid, Runs ⟨s.world, context⟩ body inner result mid ∧
          rest = inner ++ [.setContext s.context] ∧ t = ⟨mid.world, s.context⟩ := by
    intro rest
    rw [runs_bind_iff]
    simp only [runs_attempt_iff]
    constructor
    · rintro (⟨inner, last, _, mid, rfl, ⟨outcome, ⟨⟩, runs⟩, restored⟩ | ⟨_, -, _, ⟨⟩, -⟩)
      obtain ⟨rfl, rfl, rfl⟩ := runs_restore_iff.mp restored
      exact ⟨inner, mid, runs, rfl, rfl⟩
    · rintro ⟨inner, mid, runs, rfl, rfl⟩
      exact .inl ⟨inner, _, result, mid, rfl, ⟨result, rfl, runs⟩,
        runs_restore_iff.mpr ⟨rfl, rfl, rfl⟩⟩
  simp only [within, bind_eq]
  rw [runs_request_bind_iff (by simp)]
  constructor
  · rintro ⟨rest, rfl, entered⟩
    obtain ⟨more, rfl, attempted⟩ := (runs_request_bind_iff (by simp)).mp entered
    obtain ⟨inner, mid, runs, rfl, rfl⟩ := (inside more).mp attempted
    exact ⟨inner, mid, runs, rfl, rfl⟩
  · rintro ⟨inner, mid, runs, rfl, rfl⟩
    exact ⟨_, rfl, (runs_request_bind_iff (by simp)).mpr
      ⟨_, rfl, (inside _).mpr ⟨inner, mid, runs, rfl, rfl⟩⟩⟩

def sessionIn (context : Value) : Except Fault Value :=
  if context.isNull then .ok .null else context.attr "session"

theorem runs_session_iff (inForce : s.world.config = some config)
    (own : config.getContext = .null) {result : Except Fault Value} :
    Runs s (Context.session host) trace result t ↔
      trace = [.config, .context] ∧ result = sessionIn s.context ∧ t = s := by
  have reads : ∀ rest, Runs s (if s.context.isNull then .done .null
      else .ofExcept (s.context.attr "session")) rest result t ↔
        rest = [] ∧ result = sessionIn s.context ∧ t = s := by
    intro rest
    unfold sessionIn
    split
    · exact runs_done_iff
    · exact runs_ofExcept_iff
  simp only [Context.session, current, bind_eq, bind_assoc, runs_config_bind_iff inForce, own,
    Value.isNull_null, if_true, pure_eq]
  constructor
  · rintro ⟨rest, rfl, asked⟩
    obtain ⟨more, rfl, read⟩ := (runs_request_bind_iff (by simp)).mp asked
    obtain ⟨rfl, rfl, rfl⟩ := (reads more).mp read
    exact ⟨rfl, rfl, rfl⟩
  · rintro ⟨rfl, rfl, rfl⟩
    exact ⟨_, rfl, (runs_request_bind_iff (by simp)).mpr ⟨_, rfl, (reads []).mpr ⟨rfl, rfl, rfl⟩⟩⟩

end Gatekeeper.Context

namespace Gatekeeper.Host

open Process

variable {holds : {α : Type} → Process α → Prop} {host : Host}

theorem Within.current (within : host.Within holds) (closed : Closed holds)
    (config : holds Process.config) (context : holds (request .context)) :
    holds (Context.current host) := by
  refine closed.bind config fun config => ?_
  split
  · exact context
  · exact within.invoke closed _ _

theorem Within.session (within : host.Within holds) (closed : Closed holds)
    (config : holds Process.config) (context : holds (request .context)) :
    holds (Context.session host) := by
  refine closed.bind (within.current closed config context) fun context => ?_
  split
  · exact closed.done _
  · exact closed.ofExcept (Value.ordinary_attr _ _)

end Gatekeeper.Host

/-- No function of the host keeps contexts or runs requests in them. -/
structure Gatekeeper.Config.Plain (config : Gatekeeper.Config) : Prop where
  runner : config.runner = .null
  getContext : config.getContext = .null
  setContext : config.setContext = .null

namespace Gatekeeper.Context

open Process

variable {α : Type} {host : Host} {context inner last : Value} {exchanges : List Exchange}
  {result : Except Fault α} {next : Value → Process α}

theorem ends_within_iff {allowed : Config → Prop} {body : Process α} :
    Ends allowed context (within inner body) exchanges result last ↔
      ∃ during mid, Ends allowed inner body during result mid ∧
        exchanges = ⟨context, .context, context⟩ :: ⟨context, .setContext inner, ()⟩ ::
          (during ++ [⟨mid, .setContext context, ()⟩]) ∧
        last = context := by
  have restored : ∀ (outcome : Except Fault α) mid exchanges,
      Ends allowed mid ((request (.setContext context)).bind fun _ => .ofExcept outcome) exchanges
        result last ↔
      exchanges = [⟨mid, .setContext context, ()⟩] ∧ result = outcome ∧ last = context := by
    intro outcome mid exchanges
    simp only [request, ask_bind, done_bind, ends_ask_setContext_iff, ends_ofExcept_iff]
    constructor
    · rintro ⟨_, rfl, rfl, rfl, rfl⟩
      exact ⟨rfl, rfl, rfl⟩
    · rintro ⟨rfl, rfl, rfl⟩
      exact ⟨[], rfl, rfl, rfl, rfl⟩
  simp only [within, bind_eq, request, ask_bind, done_bind, ends_ask_context_iff,
    ends_ask_setContext_iff, ends_attempt_bind_iff] at restored ⊢
  simp only [restored]
  constructor
  · rintro ⟨_, rfl, _, rfl, during, _, _, mid, rfl, ends, rfl, rfl, rfl⟩
    exact ⟨during, mid, ends, rfl, rfl⟩
  · rintro ⟨during, mid, ends, rfl, rfl⟩
    exact ⟨_, rfl, _, rfl, during, _, result, mid, rfl, ends, rfl, rfl, rfl⟩

theorem ends_current_bind_iff :
    Ends Config.Plain context ((current host).bind next) exchanges result last ↔
      ∃ config rest, config.Plain ∧
        exchanges = ⟨context, .config, some config⟩ :: ⟨context, .context, context⟩ :: rest ∧
        Ends Config.Plain context (next context) rest result last := by
  simp only [current, bind_eq, bind_assoc, ends_config_bind_iff]
  constructor
  · rintro ⟨config, _, plain, rfl, ends⟩
    simp only [plain.getContext, Value.isNull_null, if_true, request, ask_bind, done_bind,
      ends_ask_context_iff] at ends
    obtain ⟨rest, rfl, ends⟩ := ends
    exact ⟨config, rest, plain, rfl, ends⟩
  · rintro ⟨config, rest, plain, rfl, ends⟩
    refine ⟨config, _, plain, rfl, ?_⟩
    simp only [plain.getContext, Value.isNull_null, if_true, request, ask_bind, done_bind,
      ends_ask_context_iff]
    exact ⟨rest, rfl, ends⟩

theorem ends_set_bind_iff {next : Unit → Process α} :
    Ends Config.Plain context ((Context.set host inner).bind next) exchanges result last ↔
      ∃ config rest, config.Plain ∧
        exchanges = ⟨context, .config, some config⟩ :: ⟨context, .setContext inner, ()⟩ :: rest ∧
        Ends Config.Plain inner (next ()) rest result last := by
  simp only [Context.set, bind_eq, bind_assoc, ends_config_bind_iff]
  constructor
  · rintro ⟨config, _, plain, rfl, ends⟩
    simp only [plain.setContext, Value.isNull_null, if_true, request, ask_bind, done_bind,
      ends_ask_setContext_iff] at ends
    obtain ⟨rest, rfl, ends⟩ := ends
    exact ⟨config, rest, plain, rfl, ends⟩
  · rintro ⟨config, rest, plain, rfl, ends⟩
    refine ⟨config, _, plain, rfl, ?_⟩
    simp only [plain.setContext, Value.isNull_null, if_true, request, ask_bind, done_bind,
      ends_ask_setContext_iff]
    exact ⟨rest, rfl, ends⟩

variable {allowed : Config → Prop}

theorem asks_within {body : Process α} (asks : body.Asks (Op.Puts allowed)) :
    (within inner body).Asks (Op.Puts allowed) := by
  refine (asks_request trivial).bind fun before => (asks_request trivial).bind fun _ => ?_
  exact asks.attempt.bind fun outcome => (asks_request trivial).bind fun _ => asks_ofExcept outcome

theorem asks_current (polite : host.Within (Asks (Op.Puts allowed))) :
    (current host).Asks (Op.Puts allowed) :=
  polite.current (closed_asks _) (asks_config trivial) (asks_request trivial)

theorem asks_session (polite : host.Within (Asks (Op.Puts allowed))) :
    (Context.session host).Asks (Op.Puts allowed) :=
  polite.session (closed_asks _) (asks_config trivial) (asks_request trivial)

theorem asks_set (polite : host.Within (Asks (Op.Puts allowed))) :
    (Context.set host inner).Asks (Op.Puts allowed) := by
  refine (asks_config trivial).bind fun config => ?_
  split
  · exact asks_request trivial
  · exact (polite.invoke (closed_asks _) _ _).bind fun _ => trivial

end Gatekeeper.Context
