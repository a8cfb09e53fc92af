import Gatekeeper.Session.Structure

/-! Carriers of sessions. A carrier is a session store itself, or an object that holds one in its
scope or as its `session`; a store keeps the session under one key. -/
namespace Gatekeeper.Session

def key : Value := .str "__session__"

inductive Place where
  | itself
  | scope
  | attr
deriving DecidableEq, Repr

def keep (place : Place) (value : Value) : Option (Place × Value) :=
  if value.writable?.isSome then some (place, value) else none

/-- The store of a carrier and its place. An object whose scope can be written to has its store
there or none. -/
def locate (carrier : Value) : Option (Place × Value) :=
  if carrier.writable?.isSome then some (.itself, carrier)
  else
    match carrier with
    | .scopedRequest session => keep .scope session
    | _ =>
      match (carrier.attr? "scope").bind Value.writable? with
      | some scope => keep .scope ((Table.field scope "session").getD .null)
      | none => keep .attr ((carrier.attr? "session").getD .null)

def store (carrier : Value) : Value :=
  ((locate carrier).map (·.2)).getD .null

def entriesOf (store : Value) : Table :=
  store.writable?.getD []

def refill (entries : Table) (store : Value) : Value :=
  match store.opened with
  | .table _ => .table entries
  | .ownRequest _ => .ownRequest entries
  | _ => store

def change (name : String) (edit : Value → Value) (entries : Table) : Table :=
  entries.map fun entry => if (Value.str name).same entry.1 then (entry.1, edit entry.2) else entry

def changeAttr (name : String) (edit : Value → Value) (attributes : List (String × Value)) :
    List (String × Value) :=
  attributes.map fun attr => if attr.1 = name then (attr.1, edit attr.2) else attr

def rescope (edit : Value → Value) (scope : Value) : Value :=
  match scope.opened with
  | .table inner => .table (change "session" edit inner)
  | .ownRequest inner => .ownRequest (change "session" edit inner)
  | _ => scope

def restock (place : Place) (entries : Table) (carrier : Value) : Value :=
  match place, carrier with
  | .itself, _ => refill entries carrier
  | .scope, .scopedRequest session => .scopedRequest (refill entries session)
  | .scope, .object id attributes =>
    .object id (changeAttr "scope" (rescope (refill entries)) attributes)
  | .attr, .object id attributes => .object id (changeAttr "session" (refill entries) attributes)
  | .attr, .context session => .context (refill entries session)
  | _, _ => carrier

def reslot (place : Place) (store carrier session : Value) : Value :=
  restock place (Table.put key session (entriesOf store)) carrier

def unslot (place : Place) (store carrier : Value) : Value :=
  restock place (Table.remove key (entriesOf store)) carrier

def stored? (carrier : Value) : Option (Place × Value × Value) := do
  let (place, store) ← locate carrier
  let session ← Table.find (entriesOf store) key
  if session.truthy then some (place, store, session) else none

end Gatekeeper.Session
