import Gatekeeper.Host
import Gatekeeper.Proofs.Process.Exchange
import Gatekeeper.Proofs.Value

/-! What the library's ways of calling the host have in common with the functions of the host. -/
namespace Gatekeeper

open Process

/-- A class of processes with which everything belongs to it that is put together from them. -/
structure Process.Closed (holds : {α : Type} → Process α → Prop) : Prop where
  done : ∀ {α : Type} (value : α), holds (.done value)
  fail : ∀ {α : Type} (fault : Fault), fault.Ordinary → holds (.fail fault : Process α)
  bind : ∀ {α β : Type} {process : Process α} {next : α → Process β},
    holds process → (∀ value, holds (next value)) → holds (process.bind next)

variable {holds : {α : Type} → Process α → Prop}

theorem Process.Closed.ofExcept (closed : Closed holds) {α : Type} {outcome : Except Fault α}
    (ordinary : Ordinary outcome) : holds (ofExcept outcome) := by
  cases outcome with
  | error fault => exact closed.fail fault (ordinary fault rfl)
  | ok value => exact closed.done value

theorem Process.closed_asks (may : Op → Prop) : Closed (Asks may) where
  done _ := trivial
  fail _ _ := trivial
  bind := Asks.bind

theorem Process.closed_keeps (allowed : Config → Prop) : Closed (Keeps allowed) where
  done _ := keeps_done
  fail _ _ := keeps_fail
  bind := Keeps.bind

namespace Host

structure Within (holds : {α : Type} → Process α → Prop) (host : Host) : Prop where
  call : ∀ function arguments, holds (host.call function arguments)
  resume : ∀ function arguments, holds (host.resume function arguments)

variable {host : Host}

theorem Within.apply (within : host.Within holds) (closed : Closed holds) (function : Value)
    (arguments : List Value) : holds (host.apply function arguments) := by
  unfold Host.apply
  split
  · exact within.call _ _
  · exact closed.fail _ trivial

theorem Within.get (within : host.Within holds) (closed : Closed holds) (value key : Value) :
    holds (host.get value key) := by
  unfold Host.get
  split
  · exact closed.bind (closed.ofExcept (Value.ordinary_attr _ _)) fun _ => within.apply closed _ _
  · exact closed.ofExcept (Value.ordinary_get _ _)

theorem Within.entries (within : host.Within holds) (closed : Closed holds) (value : Value) :
    holds (host.entries value) := by
  unfold Host.entries
  split
  · exact closed.done _
  · exact closed.fail _ trivial
  · refine closed.bind (within.apply closed _ _) fun listed => ?_
    refine closed.bind (closed.ofExcept (Value.ordinary_items _)) fun keys => ?_
    split
    · exact closed.done _
    · exact closed.fail _ trivial

theorem Within.role (within : host.Within holds) (closed : Closed holds) (session : Value) :
    holds (host.role session) := by
  unfold Host.role
  split
  · exact within.get closed _ _
  · exact closed.done _

theorem Within.permissions (within : host.Within holds) (closed : Closed holds) (session : Value) :
    holds (host.permissions session) := by
  unfold Host.permissions
  split
  · refine closed.bind (within.get closed _ _) fun granted => ?_
    exact closed.bind (closed.ofExcept (Value.ordinary_items _)) fun _ => closed.done _
  · exact closed.done _

theorem Within.invoke (within : host.Within holds) (closed : Closed holds) (function : Value)
    (arguments : List Value) : holds (host.invoke function arguments) := by
  unfold Host.invoke
  split
  · exact within.role closed _
  · exact within.permissions closed _
  · exact within.apply closed _ _

theorem Within.consult (within : host.Within holds) (closed : Closed holds) (function : Value)
    (arguments : List Value) : holds (host.consult function arguments) := by
  refine closed.bind (within.invoke closed _ _) fun value => ?_
  unfold Host.settle
  split
  · exact within.resume _ _
  · exact closed.done _

end Host

end Gatekeeper
