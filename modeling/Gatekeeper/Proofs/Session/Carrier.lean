import Gatekeeper.Proofs.Session.Structure
import Gatekeeper.Proofs.Session.Entry
import Gatekeeper.Proofs.Table

/-! The slot of a carrier: where in it a session is kept. A write reaches the slot and nothing else
that can be reached from the carrier. -/
namespace Gatekeeper

inductive Access where
  | attr (name : String)
  | key (key : Value)

def Value.reach : Value → List Access → Option Value
  | value, [] => some value
  | value, .attr name :: rest => (value.attr? name).bind fun inner => inner.reach rest
  | value, .key key :: rest =>
    (value.table?.bind fun entries => Table.find entries key).bind fun inner => inner.reach rest

theorem Value.reach_table {entries : Table} {key : Value} {rest : List Access} :
    (Value.table entries).reach (.key key :: rest) =
      (Table.find entries key).bind fun inner => inner.reach rest :=
  rfl

/-- Whatever lies aside of a path, neither on it nor beyond its end, is the same in two values. -/
def SameAside (path : List Access) (before after : Value) : Prop :=
  ∀ other, ¬ other <+: path → ¬ path <+: other → after.reach other = before.reach other

namespace SameAside

variable {path : List Access} {before after inner outer : Value} {name : String} {entries more : Table}

theorem refl (path : List Access) (value : Value) : SameAside path value value :=
  fun _ _ _ => rfl

theorem attr (within : SameAside path inner outer) (here : before.attr? name = some inner)
    (hereToo : after.attr? name = some outer)
    (aside : ∀ other, other ≠ name → after.attr? other = before.attr? other)
    (tables : after.table? = before.table?) : SameAside (.attr name :: path) before after := by
  intro other short long
  cases other with
  | nil => exact absurd List.nil_prefix short
  | cons access rest =>
    cases access with
    | key key => simp only [Value.reach, tables]
    | attr chosen =>
      by_cases same : chosen = name
      · subst same
        simp only [Value.reach, here, hereToo, Option.bind_some]
        exact within rest (fun isPrefix => short (List.cons_prefix_cons.mpr ⟨rfl, isPrefix⟩))
          fun isPrefix => long (List.cons_prefix_cons.mpr ⟨rfl, isPrefix⟩)
      · simp only [Value.reach, aside chosen same]

theorem key (within : SameAside path inner outer) (readable : before.table? = some entries)
    (readableToo : after.table? = some more) (here : Table.find entries (.str name) = some inner)
    (hereToo : Table.find more (.str name) = some outer)
    (aside : ∀ other, other ≠ .str name → Table.find more other = Table.find entries other)
    (attrs : ∀ other, after.attr? other = before.attr? other) :
    SameAside (.key (.str name) :: path) before after := by
  intro other short long
  cases other with
  | nil => exact absurd List.nil_prefix short
  | cons access rest =>
    cases access with
    | attr chosen => simp only [Value.reach, attrs]
    | key chosen =>
      by_cases same : chosen = .str name
      · subst same
        simp only [Value.reach, readable, readableToo, Option.bind_some, here, hereToo]
        exact within rest (fun isPrefix => short (List.cons_prefix_cons.mpr ⟨rfl, isPrefix⟩))
          fun isPrefix => long (List.cons_prefix_cons.mpr ⟨rfl, isPrefix⟩)
      · simp only [Value.reach, readable, readableToo, Option.bind_some, aside chosen same]

/-- The entry under a key itself may be new or gone. -/
theorem entry (readable : before.table? = some entries) (readableToo : after.table? = some more)
    (aside : ∀ other, other ≠ .str name → Table.find more other = Table.find entries other)
    (attrs : ∀ other, after.attr? other = before.attr? other) :
    SameAside [.key (.str name)] before after := by
  intro other short long
  cases other with
  | nil => exact absurd List.nil_prefix short
  | cons access rest =>
    cases access with
    | attr chosen => simp only [Value.reach, attrs]
    | key chosen =>
      by_cases same : chosen = .str name
      · subst same
        exact absurd (List.cons_prefix_cons.mpr ⟨rfl, List.nil_prefix⟩) long
      · simp only [Value.reach, readable, readableToo, Option.bind_some, aside chosen same]

end SameAside

namespace Session

variable {carrier store : Value} {place : Place} {entries : Table}

inductive Holds : Value → Place → Value → Prop
  | itself {store : Value} (writable : store.writable?.isSome = true) : Holds store .itself store
  | scopedRequest {store : Value} (writable : store.writable?.isSome = true) :
      Holds (.scopedRequest store) .scope store
  | scope {id : Nat} {attributes : List (String × Value)} {scope store : Value} {inner : Table}
      (held : attributes.lookup "scope" = some scope) (contents : scope.writable? = some inner)
      (found : Table.field inner "session" = some store) (writable : store.writable?.isSome = true) :
      Holds (.object id attributes) .scope store
  | attr {id : Nat} {attributes : List (String × Value)} {store : Value}
      (unscoped : (attributes.lookup "scope").bind Value.writable? = none)
      (held : attributes.lookup "session" = some store) (writable : store.writable?.isSome = true) :
      Holds (.object id attributes) .attr store
  | context {store : Value} (writable : store.writable?.isSome = true) :
      Holds (.context store) .attr store

theorem keep_eq_some_iff {value : Value} {kept : Place} :
    keep kept value = some (place, store) ↔
      kept = place ∧ value = store ∧ value.writable?.isSome = true := by
  unfold keep
  split <;> simp_all

theorem writable_of_holds (holds : Holds carrier place store) :
    store.writable? = some (entriesOf store) := by
  have writable : store.writable?.isSome = true := by cases holds <;> assumption
  obtain ⟨entries, same⟩ := Option.isSome_iff_exists.mp writable
  rw [entriesOf, same]
  rfl

theorem locate_object {id : Nat} {attributes : List (String × Value)} :
    locate (.object id attributes) =
      match (attributes.lookup "scope").bind Value.writable? with
      | some scope => keep .scope ((Table.field scope "session").getD .null)
      | none => keep .attr ((attributes.lookup "session").getD .null) :=
  rfl

theorem getD_writable {held : Option Value} (writable : (held.getD .null).writable?.isSome = true) :
    ∃ store, held = some store ∧ store.writable?.isSome = true := by
  cases held with
  | some store => exact ⟨store, rfl, writable⟩
  | none => cases writable

theorem holds_of_locate (located : locate carrier = some (place, store)) :
    Holds carrier place store := by
  unfold locate at located
  by_cases writable : carrier.writable?.isSome = true
  · rw [if_pos writable] at located
    cases located
    exact .itself writable
  rw [if_neg writable] at located
  cases carrier with
  | scopedRequest session =>
    obtain ⟨rfl, rfl, writable⟩ := keep_eq_some_iff.mp located
    exact .scopedRequest writable
  | object id attributes =>
    change (match (attributes.lookup "scope").bind Value.writable? with
      | some scope => keep .scope ((Table.field scope "session").getD .null)
      | none => keep .attr ((attributes.lookup "session").getD .null)) = _ at located
    split at located
    · rename_i inner found
      obtain ⟨rfl, rfl, writable⟩ := keep_eq_some_iff.mp located
      obtain ⟨scope, held, contents⟩ := Option.bind_eq_some_iff.mp found
      obtain ⟨store, stored, writable⟩ := getD_writable writable
      rw [stored]
      exact .scope held contents stored writable
    · obtain ⟨rfl, rfl, writable⟩ := keep_eq_some_iff.mp located
      obtain ⟨store, stored, writable⟩ := getD_writable writable
      rw [stored]
      exact .attr ‹_› stored writable
  | context session =>
    obtain ⟨rfl, rfl, writable⟩ := keep_eq_some_iff.mp located
    exact .context writable
  | rule kind => cases kind <;> cases located
  | _ => cases located

theorem locate_eq_some_iff : locate carrier = some (place, store) ↔ Holds carrier place store := by
  refine ⟨holds_of_locate, fun holds => ?_⟩
  cases holds with
  | itself writable => exact if_pos writable
  | scopedRequest writable => exact keep_eq_some_iff.mpr ⟨rfl, rfl, writable⟩
  | scope held contents found writable =>
    simp only [locate_object, held, Option.bind_some, contents, found]
    exact keep_eq_some_iff.mpr ⟨rfl, rfl, writable⟩
  | attr unscoped held writable =>
    rw [locate_object, unscoped, held]
    exact keep_eq_some_iff.mpr ⟨rfl, rfl, writable⟩
  | context writable => exact keep_eq_some_iff.mpr ⟨rfl, rfl, writable⟩

def route (carrier : Value) : List Access :=
  if carrier.writable?.isSome then [.key key]
  else
    match carrier with
    | .scopedRequest _ => [.key (.str "session"), .key key]
    | .object _ attributes =>
      if ((attributes.lookup "scope").bind Value.writable?).isSome then
        [.attr "scope", .key (.str "session"), .key key]
      else [.attr "session", .key key]
    | _ => [.attr "session", .key key]

theorem writable?_eq_some_iff {value : Value} : value.writable? = some entries ↔
    value.opened = .table entries ∨ value.opened = .ownRequest entries := by
  unfold Value.writable?
  cases value.opened <;> simp

theorem table?_of_writable? {value : Value} (writable : value.writable? = some entries) :
    value.table? = some entries := by
  rcases writable?_eq_some_iff.mp writable with same | same <;> simp [Value.table?, same]

theorem attr?_of_writable? {value : Value} (writable : value.writable? = some entries)
    (name : String) : value.attr? name = none := by
  cases value <;> first | rfl | cases writable

theorem writable?_refill (writable : store.writable?.isSome = true) :
    (refill entries store).writable? = some entries := by
  obtain ⟨old, contents⟩ := Option.isSome_iff_exists.mp writable
  rcases writable?_eq_some_iff.mp contents with same | same <;> rw [refill, same] <;> rfl

theorem writable?_rescope {scope : Value} {inner : Table} (edit : Value → Value)
    (contents : scope.writable? = some inner) :
    (rescope edit scope).writable? = some (change "session" edit inner) := by
  rcases writable?_eq_some_iff.mp contents with same | same <;> rw [rescope, same] <;> rfl

theorem route_of_writable (writable : carrier.writable?.isSome = true) :
    route carrier = [.key key] := by
  unfold route
  exact if_pos writable

theorem route_object {id : Nat} {attributes : List (String × Value)} :
    route (.object id attributes) =
      if ((attributes.lookup "scope").bind Value.writable?).isSome then
        [.attr "scope", .key (.str "session"), .key key]
      else [.attr "session", .key key] :=
  rfl

theorem restock_scope {id : Nat} {attributes : List (String × Value)} :
    restock .scope entries (.object id attributes) =
      .object id (changeAttr "scope" (rescope (refill entries)) attributes) :=
  rfl

theorem reach_route (holds : Holds carrier place store) :
    carrier.reach (route carrier) = Table.find (entriesOf store) key := by
  have contents := table?_of_writable? (writable_of_holds holds)
  have slot : store.reach [.key key] = Table.find (entriesOf store) key := by
    simp [Value.reach, contents]
  cases holds with
  | itself writable =>
    rw [route_of_writable writable]
    exact slot
  | scopedRequest writable =>
    rw [← slot]
    show (Table.find [(.str "session", store)] (.str "session")).bind _ = _
    rw [Table.find_cons_self]
    rfl
  | scope held contents found writable =>
    have inside : Table.find _ (.str "session") = some store := found
    simp only [route_object, held, Option.bind_some, contents, Option.isSome_some, if_true, Value.reach,
      Value.attr?, table?_of_writable? contents, inside]
    exact slot
  | attr unscoped held writable =>
    simp only [route_object, unscoped, Option.isSome_none, Bool.false_eq_true, if_false, Value.reach,
      Value.attr?, held, Option.bind_some]
    exact slot
  | context writable => exact slot

theorem Holds.restock (holds : Holds carrier place store) :
    Holds (restock place entries carrier) place (refill entries store) := by
  have writable : (refill entries store).writable?.isSome = true := by
    rw [writable?_refill (by rw [writable_of_holds holds]; rfl)]
    rfl
  cases holds with
  | itself => exact .itself writable
  | scopedRequest => exact .scopedRequest writable
  | scope held contents found =>
    rw [restock_scope]
    refine .scope ?_ (writable?_rescope (refill entries) contents) ?_ writable
    · rw [lookup_changeAttr_self, held, Option.map_some]
    · exact (Table.find_change_self _).trans (congrArg (Option.map _) found)
  | attr unscoped held =>
    refine .attr ?_ ?_ writable
    · rwa [lookup_changeAttr_of_ne _ (by decide)]
    · rw [lookup_changeAttr_self, held, Option.map_some]
  | context => exact .context writable

theorem route_restock (holds : Holds carrier place store) :
    route (restock place entries carrier) = route carrier := by
  cases holds with
  | itself writable =>
    have still : (refill entries carrier).writable?.isSome = true := by
      rw [writable?_refill writable]
      rfl
    rw [route_of_writable writable]
    exact route_of_writable still
  | scopedRequest => rfl
  | scope held contents found =>
    have rescoped := writable?_rescope (refill entries) contents
    simp [restock_scope, route_object, lookup_changeAttr_self, held, contents, rescoped]
  | attr unscoped held =>
    have apart : ("scope" : String) ≠ "session" := by decide
    simp [restock, route_object, lookup_changeAttr_of_ne _ apart, unscoped]
  | context => rfl

/-- A write reaches the slot alone. -/
theorem sameAside_restock (holds : Holds carrier place store)
    (aside : ∀ other, other ≠ key → Table.find entries other = Table.find (entriesOf store) other) :
    SameAside (route carrier) carrier (restock place entries carrier) := by
  have writable : store.writable?.isSome = true := by rw [writable_of_holds holds]; rfl
  have slot : SameAside [.key key] store (refill entries store) :=
    .entry (table?_of_writable? (writable_of_holds holds))
      (table?_of_writable? (writable?_refill writable)) aside fun name => by
        rw [attr?_of_writable? (writable?_refill writable), attr?_of_writable? (writable_of_holds holds)]
  cases holds with
  | itself writable =>
    rw [route_of_writable writable]
    exact slot
  | scopedRequest =>
    have apart : ∀ store : Value, ∀ other, other ≠ .str "session" →
        Table.find [(.str "session", store)] other = none := fun store other different =>
      Table.find_cons_of_not_same fun same => different (Value.same_str_iff.mp same)
    exact slot.key rfl rfl Table.find_cons_self Table.find_cons_self
      (fun other different => by rw [apart _ _ different, apart _ _ different]) fun _ => rfl
  | scope held contents found =>
    have rescoped := writable?_rescope (refill entries) contents
    have inside := slot.key (table?_of_writable? contents) (table?_of_writable? rescoped) found
      ((Table.find_change_self _).trans (congrArg (Option.map _) found))
      (fun other => Table.find_change_of_ne _) fun name => by
        rw [attr?_of_writable? rescoped, attr?_of_writable? contents]
    rw [restock_scope]
    simp only [route_object, held, Option.bind_some, contents, Option.isSome_some, if_true]
    exact inside.attr held ((lookup_changeAttr_self _).trans (congrArg (Option.map _) held))
      (fun other => lookup_changeAttr_of_ne _) rfl
  | attr unscoped held =>
    simp only [route_object, unscoped, Option.isSome_none, Bool.false_eq_true, if_false]
    exact slot.attr held ((lookup_changeAttr_self _).trans (congrArg (Option.map _) held))
      (fun other => lookup_changeAttr_of_ne _) rfl
  | context =>
    refine slot.attr rfl rfl (fun other different => ?_) rfl
    simp [restock, Value.attr?, different]

end Session

end Gatekeeper
