import Gatekeeper.Proofs.Context
import Gatekeeper.Proofs.Engine.Decision

/-! What deciding has in common with the functions of the host that are consulted for it. Of its own
it only reads and writes to the log. -/
namespace Gatekeeper.Host

open Process

variable {α : Type} {holds : {α : Type} → Process α → Prop} {host : Host} {rule : Rule}
  {session access : Value}

theorem Within.satisfies (within : host.Within holds) (closed : Closed holds) :
    holds (Engine.satisfies host rule session access) := by
  have asked : ∀ name (next : Value → Process Bool), (∀ told, holds (next told)) →
      holds ((ofExcept (access.attr name)).bind fun function =>
        (host.invoke function [session]).bind next) := fun name next rest =>
    closed.bind (closed.ofExcept (Value.ordinary_attr _ _)) fun _ =>
      closed.bind (within.invoke closed _ _) rest
  unfold Engine.satisfies
  split
  · exact asked _ _ fun _ => closed.done _
  · refine asked _ _ fun role => ?_
    split
    · exact closed.done _
    · exact closed.ofExcept (Value.ordinary_contains _ _)
  · exact asked _ _ fun _ => closed.ofExcept (Value.ordinary_contains _ _)
  · refine asked _ _ fun granted => closed.bind (closed.ofExcept (Value.ordinary_items _)) fun _ => ?_
    split
    · exact closed.fail _ trivial
    · exact closed.ofExcept ((Value.ordinary_items _).bind ordinary_allGranted)
  · exact closed.done _
  · exact closed.done _

theorem Within.check (within : host.Within holds) (closed : Closed holds) :
    holds (Engine.check host rule session access) := by
  refine closed.bind (closed.ofExcept (Value.ordinary_attr _ _)) fun override => ?_
  split
  · unfold Engine.evaluate
    split
    · exact closed.bind (within.consult closed _ _) fun _ => closed.done _
    · split
      · exact closed.done _
      · exact within.satisfies closed
  · exact closed.bind (within.consult closed _ _) fun _ => closed.done _

end Gatekeeper.Host

namespace Gatekeeper.Engine

open Process

variable {α : Type} {holds : {α : Type} → Process α → Prop} {host : Host} {config : Config}
  {rule : Rule} {path : String} {session : Value} {allowed : Config → Prop}

theorem closed_judge (closed : Closed holds) (logs : ∀ entry, holds (request (.log entry)))
    (checks : holds (Engine.check host rule session config.access)) :
    holds (judge host config path rule session) := by
  refine closed.bind checks fun admitted =>
    closed.bind (closed.ofExcept (Value.ordinary_attr _ _)) fun check => ?_
  exact closed.bind (logs _) fun _ => closed.done _

theorem within_decide (within : host.Within holds) (closed : Closed holds)
    (reads : holds Process.config) (context : holds (request .context))
    (logs : ∀ entry, holds (request (.log entry))) (given : Option Value) :
    holds (decide host .config path given) := by
  rw [decide_config_eq]
  refine closed.bind reads fun config => ?_
  rcases decide_cases host config path with ⟨outcome, ordinary, -, same⟩ | ⟨rule, -, same⟩
  · rw [same]
    exact closed.ofExcept ordinary
  · rw [same]
    refine closed.bind ?_ fun session => closed_judge closed logs (within.check closed)
    cases given with
    | some session => exact closed.done session
    | none => exact within.session closed reads context

theorem asks_decide (polite : host.Within (Asks (Op.Puts allowed))) (given : Option Value) :
    (decide host .config path given).Asks (Op.Puts allowed) :=
  within_decide polite (closed_asks _) (asks_config trivial) (asks_request trivial)
    (fun _ => asks_request trivial) given

theorem asks_guard (polite : host.Within (Asks (Op.Puts allowed))) {next : Process α}
    {redirect : Value → Process α} (goes : next.Asks (Op.Puts allowed))
    (leaves : ∀ target, (redirect target).Asks (Op.Puts allowed)) :
    (guard host path next redirect).Asks (Op.Puts allowed) := by
  refine (asks_decide polite none).bind fun decision => ?_
  split
  · exact goes
  · exact leaves _

end Gatekeeper.Engine
