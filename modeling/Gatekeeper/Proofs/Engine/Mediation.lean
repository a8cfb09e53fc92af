import Gatekeeper.Proofs.Engine.Consulting
import Gatekeeper.Proofs.Process.Watched

/-! Whether anything gets around a guard. The events of a request are noted as they happen: which
functions of the host are called, what they raise, and which of its two ways the request goes. -/
namespace Gatekeeper

variable {α β : Type}

inductive Event where
  | called (function : Value) (arguments : List Value)
  | raised (fault : Fault)
  | handled
  | redirected (target : Value)

namespace Event

def IsCall : Event → Prop
  | .called _ _ => True
  | _ => False

/-- What consulting the host can come to. A function that raises is the last one to be called, and
what it raised is the outcome. -/
inductive Account : List Event → Except Fault α → Prop
  | quiet {events : List Event} {outcome : Except Fault α}
      (calls : ∀ event ∈ events, event.IsCall) : Account events outcome
  | stopped {events : List Event} {fault : Fault} (calls : ∀ event ∈ events, event.IsCall) :
      Account (events ++ [.raised fault]) (.error fault)

variable {events more : List Event} {fault : Fault} {value : α} {outcome : Except Fault β}

theorem Account.isCall (account : Account events (.ok value)) : ∀ event ∈ events, event.IsCall := by
  cases account with
  | quiet calls => exact calls

theorem Account.append (calls : ∀ event ∈ events, event.IsCall) (account : Account more outcome) :
    Account (events ++ more) outcome := by
  cases account with
  | quiet rest => exact .quiet (by simpa [or_imp, forall_and] using ⟨calls, rest⟩)
  | stopped rest =>
    rw [← List.append_assoc]
    exact .stopped (by simpa [or_imp, forall_and] using ⟨calls, rest⟩)

theorem Account.error (account : Account events (.error fault : Except Fault α)) :
    Account events (.error fault : Except Fault β) := by
  cases account with
  | quiet calls => exact .quiet calls
  | stopped calls => exact .stopped calls

def ofDecision (decision : Decision) : Event :=
  if decision.allowed then .handled else .redirected decision.redirectTo

end Event

namespace Process

variable {s t : Surroundings} {trace : List Op} {tell : Event → Call}

def heralded (tell : Event → Call) (event : Event) (process : Process α) : Process α := do
  request (.note (tell event))
  process.unnoted

def confessing (tell : Event → Call) (process : Process α) : Process α := do
  match ← process.attempt with
  | .ok value => return value
  | .error fault =>
    request (.note (tell (.raised fault)))
    .fail fault

theorem runs_heralded_iff {event : Event} {process : Process α} {result : Except Fault α} :
    Runs s (heralded tell event process) trace result t ↔
      ∃ rest, trace = .note (tell event) :: rest ∧ Runs s process.unnoted rest result t :=
  runs_request_bind_iff (by simp)

/-- Every run of the program has an account, in which nothing that was noted is left out. -/
def Accounted (tell : Event → Call) (process : Process α) : Prop :=
  ∀ s trace outcome t, Runs s process trace outcome t →
    ∃ events, callsOf trace = events.map tell ∧ Event.Account events outcome

theorem closed_accounted (tell : Event → Call) : Closed (Accounted tell) where
  done value s trace outcome t runs := by
    obtain ⟨rfl, -⟩ := runs_done_iff.mp runs
    exact ⟨[], rfl, .quiet (by simp)⟩
  fail fault _ s trace outcome t runs := by
    obtain ⟨rfl, -⟩ := runs_fail_iff.mp runs
    exact ⟨[], rfl, .quiet (by simp)⟩
  bind := by
    intro _ _ process next before after s trace outcome t runs
    rcases runs_bind_iff.mp runs with ⟨first, rest, value, mid, rfl, ran, more⟩ | ⟨fault, rfl, ran⟩
    · obtain ⟨events, told, account⟩ := before _ _ _ _ ran
      obtain ⟨others, toldToo, accountToo⟩ := after value _ _ _ _ more
      exact ⟨events ++ others, by simp [told, toldToo], .append account.isCall accountToo⟩
    · obtain ⟨events, told, account⟩ := before _ _ _ _ ran
      exact ⟨events, told, account.error⟩

theorem accounted_of_callsOf {process : Process α}
    (silent : ∀ s trace outcome t, Runs s process trace outcome t → callsOf trace = []) :
    Accounted tell process :=
  fun _ _ _ _ runs => ⟨[], silent _ _ _ _ runs, .quiet (by simp)⟩

theorem accounted_request {op : Op} (silent : ∀ call, op ≠ .note call) :
    Accounted tell (request op) := by
  refine accounted_of_callsOf fun s trace outcome t runs => ?_
  obtain ⟨mid, rest, -, rfl, more⟩ := runs_ask_iff.mp runs
  obtain ⟨rfl, -⟩ := runs_done_iff.mp more
  cases op <;> first | rfl | exact absurd rfl (silent _)

theorem accounted_config : Accounted tell Process.config := by
  refine accounted_of_callsOf fun s trace outcome t runs => ?_
  obtain ⟨mid, rest, -, rfl, more⟩ := runs_ask_iff.mp runs
  split at more
  · obtain ⟨rfl, -⟩ := runs_done_iff.mp more
    rfl
  · obtain ⟨rfl, -⟩ := runs_fail_iff.mp more
    rfl

theorem accounted_call {function : Value} {arguments : List Value} {process : Process α} :
    Accounted tell ((request (.note (tell (.called function arguments)))).bind fun _ =>
      confessing tell process.unnoted) := by
  intro s trace outcome t runs
  obtain ⟨rest, rfl, more⟩ := (runs_request_bind_iff (by simp)).mp runs
  simp only [confessing, bind_eq, runs_bind_iff, runs_attempt_iff] at more
  rcases more with ⟨first, last, came, mid, rfl, ⟨_, ⟨⟩, ran⟩, ends⟩ | ⟨_, -, _, ⟨⟩, -⟩
  have silent := callsOf_unnoted ran
  cases came with
  | ok value =>
    obtain ⟨rfl, rfl, rfl⟩ := runs_done_iff.mp ends
    exact ⟨[.called function arguments], by simp [callsOf] at silent ⊢; exact silent,
      .quiet (by simp [Event.IsCall])⟩
  | error fault =>
    obtain ⟨_, rfl, failed⟩ := (runs_request_bind_iff (by simp)).mp ends
    obtain ⟨rfl, rfl, rfl⟩ := runs_fail_iff.mp failed
    exact ⟨[.called function arguments] ++ [.raised fault],
      by simp [callsOf] at silent ⊢; exact silent, .stopped (by simp [Event.IsCall])⟩

end Process

namespace Host

open Process

def observed (host : Host) (tell : Event → Call) : Host where
  call function arguments := do
    request (.note (tell (.called function arguments)))
    confessing tell (host.call function arguments).unnoted
  resume function arguments := do
    request (.note (tell (.called function arguments)))
    confessing tell (host.resume function arguments).unnoted
  runner := host.runner
  yaml := host.yaml

theorem within_observed (host : Host) (tell : Event → Call) :
    (host.observed tell).Within (Accounted tell) where
  call _ _ := accounted_call
  resume _ _ := accounted_call

end Host

namespace Engine

open Process

variable {host : Host} {tell : Event → Call} {path : String} {s t : Surroundings}
  {trace : List Op}

theorem accounted_decide {given : Option Value} :
    Accounted tell (decide (host.observed tell) .config path given) :=
  within_decide (host.within_observed tell) (closed_accounted tell) accounted_config
    (accounted_request (by simp)) (fun _ => accounted_request (by simp)) given

/-- Nothing gets around a guard. In every run of it the request is decided first. If that comes to a
decision, no function of the host raised; then one of the two ways, the one that is decided on, is
gone exactly once, and the rest is what lies there. If not, neither is gone, and a function that
raised was the last one called, with its own fault as the outcome. -/
theorem guard_mediates_completely (host : Host) (tell : Event → Call) (path : String)
    (handler : Process α) (redirect : Value → Process α) (s t : Surroundings) (trace : List Op)
    (result : Except Fault α) :
    Runs s (guard (host.observed tell) path (heralded tell .handled handler) fun target =>
        heralded tell (.redirected target) (redirect target)) trace result t ↔
      (∃ deciding decision mid acting, ∃ calls : List Event,
        Runs s (decide (host.observed tell) .config path none) deciding (.ok decision) mid ∧
        callsOf deciding = calls.map tell ∧ (∀ event ∈ calls, event.IsCall) ∧
        trace = deciding ++ .note (tell (.ofDecision decision)) :: acting ∧ callsOf acting = [] ∧
        Runs mid (if decision.allowed then handler else redirect decision.redirectTo).unnoted
          acting result t) ∨
      ∃ fault, ∃ events : List Event,
        Runs s (decide (host.observed tell) .config path none) trace (.error fault) t ∧
        callsOf trace = events.map tell ∧ Event.Account events result ∧ result = .error fault := by
  have acts : ∀ (decision : Decision) mid rest,
      Runs mid (if decision.allowed then heralded tell .handled handler else
        heralded tell (.redirected decision.redirectTo) (redirect decision.redirectTo)) rest
        result t ↔
      ∃ acting, rest = .note (tell (.ofDecision decision)) :: acting ∧
        Runs mid (if decision.allowed then handler else redirect decision.redirectTo).unnoted
          acting result t := by
    intro decision mid rest
    unfold Event.ofDecision
    split <;> exact runs_heralded_iff
  simp only [guard, bind_eq, runs_bind_iff, acts]
  constructor
  · rintro (⟨deciding, _, decision, mid, rfl, decided, acting, rfl, acted⟩ | ⟨fault, rfl, failed⟩)
    · obtain ⟨calls, told, account⟩ := accounted_decide _ _ _ _ decided
      exact .inl ⟨deciding, decision, mid, acting, calls, decided, told, account.isCall, rfl,
        callsOf_unnoted acted, acted⟩
    · obtain ⟨events, told, account⟩ := accounted_decide _ _ _ _ failed
      exact .inr ⟨fault, events, failed, told, account.error, rfl⟩
  · rintro (⟨deciding, decision, mid, acting, calls, decided, -, -, rfl, -, acted⟩ |
      ⟨fault, events, failed, -, -, rfl⟩)
    · exact .inl ⟨deciding, _, decision, mid, rfl, decided, acting, rfl, acted⟩
    · exact .inr ⟨fault, rfl, failed⟩

end Engine

end Gatekeeper
