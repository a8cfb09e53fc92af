import Gatekeeper.Host
import Gatekeeper.Session.Carrier

/-! Saving sessions while requests run. Carriers are shared by their names. Every call makes one write
at most, as the last thing that it does, so one that fails has written nothing. -/
namespace Gatekeeper.Session

def unsaved : String :=
  "set_session: carrier has no session store, nothing written"

def carrier (name : String) : Process Value := do
  match ← Process.request (.stored name) with
  | some carrier => return carrier
  | none => .fail .noKey

/-- Stores a valid session. Without a store nothing is written, which is logged. -/
def save (name : String) (session : Value) : Process Unit := do
  if !isValid session then .fail .invalidSession
  else
    let carrier ← carrier name
    match locate carrier with
    | some (place, store) => Process.request (.store name (reslot place store carrier session))
    | none => Process.log .debug .server unsaved

def clear (name : String) : Process Unit := do
  let carrier ← carrier name
  match locate carrier with
  | some (place, store) => Process.request (.store name (unslot place store carrier))
  | none => return ()

def revise (name : String) (carrier : Value) (place : Place) (store : Value)
    (session changes : Table) : Process Value := do
  let merged := Value.table (Table.merge session changes)
  if !isValid merged then .fail .invalidUpdate
  else
    Process.request (.store name (reslot place store carrier merged))
    return merged

def update (host : Host) (name : String) (changes : Value) : Process Value := do
  let carrier ← carrier name
  match stored? carrier with
  | none => .fail .noSession
  | some (place, store, session) =>
    revise name carrier place store (← host.entries session) (← host.entries changes)

end Gatekeeper.Session
