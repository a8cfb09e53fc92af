import Gatekeeper.Proofs.Merge
import Gatekeeper.Proofs.Session.Slot

/-! Updates one after another. The changes of two updates may be merged and made at once, and an update
that is made again changes nothing. -/
namespace Gatekeeper

open Process

variable {α : Type} {name : String} {value new : α} {bindings : List (String × α)}

theorem rebind_rebind : rebind name new (rebind name value bindings) = rebind name new bindings := by
  simp [rebind]

theorem World.store_store {world : World} {value new : Value} :
    (world.store name value).store name new = world.store name new := by
  simp [World.store, rebind_rebind]

namespace Session

variable {host : Host} {s t : Surroundings} {carrier after store session changes : Value}
  {place : Place} {entries more old merged changed : Table} {answer : Scenario.Answer}

theorem change_change {edit edit' : Value → Value} (same : ∀ value, edit (edit' value) = edit value) :
    change name edit (change name edit' entries) = change name edit entries := by
  unfold change
  rw [List.map_map]
  refine List.map_congr_left fun entry _ => ?_
  by_cases here : (Value.str name).same entry.1 = true <;> simp [here, same]

theorem changeAttr_changeAttr {edit edit' : Value → Value} {attributes : List (String × Value)}
    (same : ∀ value, edit (edit' value) = edit value) :
    changeAttr name edit (changeAttr name edit' attributes) = changeAttr name edit attributes := by
  unfold changeAttr
  rw [List.map_map]
  refine List.map_congr_left fun attr _ => ?_
  by_cases here : attr.1 = name <;> simp [here, same]

theorem refill_refill (store : Value) : refill more (refill entries store) = refill more store := by
  cases kept : store.opened with
  | table | ownRequest =>
    simp only [refill, kept]
    rfl
  | _ => simp only [refill, kept]

theorem rescope_rescope (scope : Value) :
    rescope (refill more) (rescope (refill entries) scope) = rescope (refill more) scope := by
  cases kept : scope.opened with
  | table inner =>
    simp only [rescope, kept]
    exact congrArg Value.table (change_change refill_refill)
  | ownRequest inner =>
    simp only [rescope, kept]
    exact congrArg Value.ownRequest (change_change refill_refill)
  | _ => simp only [rescope, kept]

theorem restock_restock :
    restock place more (restock place entries carrier) = restock place more carrier := by
  cases place with
  | itself => exact refill_refill carrier
  | scope =>
    cases carrier with
    | scopedRequest session => exact congrArg Value.scopedRequest (refill_refill session)
    | object id attributes =>
      exact congrArg (Value.object id) (changeAttr_changeAttr rescope_rescope)
    | _ => rfl
  | attr =>
    cases carrier with
    | context session => exact congrArg Value.context (refill_refill session)
    | object id attributes => exact congrArg (Value.object id) (changeAttr_changeAttr refill_refill)
    | _ => rfl

theorem reslot_reslot {session' : Value} (holds : Holds carrier place store) :
    reslot place (refill (Table.put key session (entriesOf store)) store)
        (reslot place store carrier session) session' = reslot place store carrier session' := by
  have writable : store.writable?.isSome = true := by rw [writable_of_holds holds]; rfl
  have written : entriesOf (refill (Table.put key session (entriesOf store)) store) =
      Table.put key session (entriesOf store) := by
    rw [entriesOf, writable?_refill writable, Option.getD_some]
  have last : Table.put key session' (Table.put key session (entriesOf store)) =
      Table.put key session' (entriesOf store) :=
    Table.put_put_of_same (by simp [key, Value.hashable]) (Value.str_same_iff.mpr rfl)
  rw [reslot, reslot, restock_restock, written, last, reslot]

theorem update_eq_ok_iff {new : Table} {result : Value} (bound : s.world.stored.lookup name = some carrier)
    (readable : changes.table? = some new) :
    (update host name changes).run s = (.ok result, t) ↔
      ∃ place store session old mid, stored? carrier = some (place, store, session) ∧
        (host.entries session).run s = (.ok old, mid) ∧
        isValid (.table (Table.merge old new)) = true ∧ result = .table (Table.merge old new) ∧
        t = ⟨mid.world.store name (reslot place store carrier result), mid.context⟩ := by
  rw [run_update bound]
  constructor
  · intro ran
    cases found : stored? carrier with
    | none => simp [found] at ran
    | some held =>
      obtain ⟨place, store, session⟩ := held
      simp only [found, run_bind, entries_of_table readable, done_bind, run_revise] at ran
      cases asked : (host.entries session).run s with
      | mk told mid =>
        cases told with
        | error fault => simp [asked] at ran
        | ok old =>
          by_cases valid : isValid (.table (Table.merge old new)) = true
          · simp only [asked, valid, if_true] at ran
            obtain ⟨rfl, rfl⟩ : _ = result ∧ _ = t := by simpa using ran
            exact ⟨place, store, session, old, mid, rfl, asked, valid, rfl, rfl⟩
          · simp [asked, valid] at ran
  · rintro ⟨place, store, session, old, mid, found, asked, valid, rfl, rfl⟩
    simp only [found, run_bind, entries_of_table readable, done_bind, asked, run_revise, valid, if_true]

theorem run_update_eq_ok_iff {new : Table} (bound : s.world.stored.lookup name = some carrier)
    (readable : changes.table? = some new) :
    (((Edit.update changes).step name).run host).run s = (.ok answer, t) ↔
      ∃ place store session old mid, stored? carrier = some (place, store, session) ∧
        (host.entries session).run s = (.ok old, mid) ∧
        isValid (.table (Table.merge old new)) = true ∧
        answer = .written (.table (Table.merge old new))
          (reslot place store carrier (.table (Table.merge old new))) ∧
        t = ⟨mid.world.store name (reslot place store carrier (.table (Table.merge old new))),
          mid.context⟩ := by
  constructor
  · intro ran
    cases called : (update host name changes).run s with
    | mk outcome left =>
      cases outcome with
      | error fault =>
        rw [run_step_error (.update changes) bound called] at ran
        cases ran
      | ok merged =>
        obtain ⟨place, store, session, old, mid, found, asked, valid, rfl, rfl⟩ :=
          (update_eq_ok_iff bound readable).mp called
        rw [run_step (.update changes) bound called fun _ _ => lookup_rebind_self] at ran
        cases ran
        exact ⟨place, store, session, old, mid, found, asked, valid, rfl, rfl⟩
  · rintro ⟨place, store, session, old, mid, found, asked, valid, rfl, rfl⟩
    exact run_step (.update changes) bound ((update_eq_ok_iff bound readable).mpr
      ⟨place, store, session, old, mid, found, asked, valid, rfl, rfl⟩) fun _ _ => lookup_rebind_self

theorem stored?_reslot (found : stored? carrier = some (place, store, session))
    (truthy : after.truthy = true) :
    stored? (reslot place store carrier after) =
      some (place, refill (Table.put key after (entriesOf store)) store, after) := by
  have holds := (stored?_eq_some_iff.mp found).1
  refine stored?_eq_some_iff.mpr ⟨holds.restock, ?_, truthy⟩
  rw [reslot, slot?_restock holds, find_put_key]

/-- What an update is for: the changes are merged into the session of the slot, of which only an object
of the host is asked for its entries. The name is bound to the carrier with that in its slot, and
nothing else that can be reached from the carrier is changed. -/
def Updated (host : Host) (name : String) (s : Surroundings) (carrier : Value) (changes : Table)
    (answer : Scenario.Answer) (t : Surroundings) : Prop :=
  ∃ place store session old asked, locate carrier = some (place, store) ∧
    slot? carrier = some session ∧ (host.entries session).run s = (.ok old, asked) ∧
    let merged := Value.table (Table.merge old changes)
    let after := reslot place store carrier merged
    answer = .written merged after ∧ t = ⟨asked.world.store name after, asked.context⟩ ∧
      SameAside (route carrier) carrier after

theorem sameAside_reslot (holds : Holds carrier place store) :
    SameAside (route carrier) carrier (reslot place store carrier session) :=
  sameAside_restock holds fun _ different =>
    Table.find_put_of_ne (Ne.symm different) (.inl ⟨_, rfl⟩)

theorem updated_of_run {new : Table} (bound : s.world.stored.lookup name = some carrier)
    (readable : changes.table? = some new)
    (ran : (((Edit.update changes).step name).run host).run s = (.ok answer, t)) :
    Updated host name s carrier new answer t := by
  obtain ⟨place, store, session, old, asked, found, told, -, rfl, rfl⟩ :=
    (run_update_eq_ok_iff bound readable).mp ran
  obtain ⟨holds, kept, -⟩ := stored?_eq_some_iff.mp found
  exact ⟨place, store, session, old, asked, locate_eq_some_iff.mpr holds, kept, told, rfl, rfl,
    sameAside_reslot holds⟩

theorem run_update_reslot_eq_ok_iff {new : Table}
    (found : stored? carrier = some (place, store, session))
    (valid : isValid (.table old) = true) (readable : changes.table? = some new) :
    (((Edit.update changes).step name).run host).run
        ⟨s.world.store name (reslot place store carrier (.table old)), s.context⟩ = (.ok answer, t) ↔
      isValid (.table (Table.merge old new)) = true ∧
        answer = .written (.table (Table.merge old new))
          (reslot place store carrier (.table (Table.merge old new))) ∧
        t = ⟨s.world.store name (reslot place store carrier (.table (Table.merge old new))),
          s.context⟩ := by
  have holds := (stored?_eq_some_iff.mp found).1
  have here := stored?_reslot found (truthy_of_isValid valid)
  have told : ∀ s, (host.entries (.table old)).run s = (.ok old, s) := fun s => by
    rw [entries_of_table rfl]
    rfl
  rw [run_update_eq_ok_iff lookup_rebind_self readable]
  constructor
  · rintro ⟨_, _, _, _, _, foundToo, toldToo, sound, rfl, rfl⟩
    rw [here] at foundToo
    cases foundToo
    rw [told] at toldToo
    cases toldToo
    rw [reslot_reslot holds, World.store_store]
    exact ⟨sound, rfl, rfl⟩
  · rintro ⟨sound, rfl, rfl⟩
    refine ⟨_, _, _, _, _, here, told _, sound, ?_⟩
    rw [reslot_reslot holds, World.store_store]
    exact ⟨rfl, rfl⟩

/-- Updates compose. Where two of them succeed in a row, one with the merged changes succeeds from
where the first began, gives the same session and leaves everything as they do, entry for entry. An
update that succeeds, succeeds again and changes nothing. Either way the changes are merged into the
session of the slot, and nothing but the slot differs from the carrier. -/
theorem updates_compose (host : Host) (name : String) (s : Surroundings) (carrier one two : Value)
    (first second : Table) (bound : s.world.stored.lookup name = some carrier)
    (firstChanges : one.table? = some first) (secondChanges : two.table? = some second)
    (firstKeyed : first.Keyed) (secondKeyed : second.Keyed) :
    let call := fun changes s => (((Edit.update changes).step name).run host).run s
    (∀ once mid twice t, call one s = (.ok once, mid) → call two mid = (.ok twice, t) →
      call (.table (Table.merge first second)) s = (.ok twice, t) ∧
        Updated host name s carrier (Table.merge first second) twice t) ∧
    ∀ once mid, call one s = (.ok once, mid) →
      call one mid = (.ok once, mid) ∧ Updated host name s carrier first once mid := by
  intro call
  constructor
  · intro once mid twice t ranOnce ranTwice
    obtain ⟨place, store, session, old, asked, found, told, valid, rfl, rfl⟩ :=
      (run_update_eq_ok_iff bound firstChanges).mp ranOnce
    obtain ⟨sound, rfl, rfl⟩ := (run_update_reslot_eq_ok_iff found valid secondChanges).mp ranTwice
    rw [Table.merge_merge firstKeyed secondKeyed.hashable] at sound ⊢
    have merged : (Value.table (Table.merge first second)).table? =
      some (Table.merge first second) := rfl
    have atOnce := (run_update_eq_ok_iff bound merged).mpr
      ⟨place, store, session, old, asked, found, told, sound, rfl, rfl⟩
    exact ⟨atOnce, updated_of_run bound merged atOnce⟩
  · intro once mid ran
    have updated := updated_of_run bound firstChanges ran
    obtain ⟨place, store, session, old, asked, found, told, valid, rfl, rfl⟩ :=
      (run_update_eq_ok_iff bound firstChanges).mp ran
    refine ⟨(run_update_reslot_eq_ok_iff found valid firstChanges).mpr ?_, updated⟩
    rw [Table.merge_idem firstKeyed]
    exact ⟨valid, rfl, rfl⟩

def signedIn : Value :=
  .table [(key, staffSession)]

def promotion : Table :=
  [(.str "role", .str "admin"), (.str "plan", .str "pro")]

def demotion : Table :=
  [(.str "role", .null)]

/-- The role keeps its place before the plan, and what was said of it last counts. -/
theorem promotion_then_demotion :
    let s : Surroundings := ⟨{ stored := [("store", signedIn)] }, .null⟩
    let call := fun changes s =>
      (((Edit.update (.table changes)).step "store").run (.answering .null)).run s
    ∃ once mid carrier t, call promotion s = (.ok once, mid) ∧ call promotion mid = (.ok once, mid) ∧
      call (Table.merge promotion demotion) s = (.ok (.written
        (.table [(.str "user_id", .str "u1"), (.str "role", .null), (.str "plan", .str "pro")])
        carrier), t) := by
  intro s call
  have found : stored? signedIn = some (.itself, signedIn, staffSession) := by
    refine stored?_eq_some_iff.mpr ⟨.itself rfl, ?_, rfl⟩
    exact (slot?_of_holds (.itself rfl)).trans Table.find_cons_self
  have promoted : Table.merge [(.str "user_id", .str "u1")] promotion =
      [(.str "user_id", .str "u1"), (.str "role", .str "admin"), (.str "plan", .str "pro")] := by
    simp [promotion, Table.merge, Table.put, Value.same]
  have demoted : Table.merge (Table.merge [(.str "user_id", .str "u1")] promotion) demotion =
      [(.str "user_id", .str "u1"), (.str "role", .null), (.str "plan", .str "pro")] := by
    rw [promoted]
    simp [demotion, Table.merge, Table.put, Value.same]
  have promotionKeyed : promotion.Keyed :=
    ⟨by simp [promotion, Value.hashable], by simp [promotion, Value.same]⟩
  have demotionKeyed : demotion.Keyed :=
    ⟨by simp [demotion, Value.hashable], by simp [demotion]⟩
  have valid : isValid (.table (Table.merge [(.str "user_id", .str "u1")] promotion)) = true := by
    rw [promoted]
    simp [isValid, isValidTable, Value.table?, Value.opened, Table.field_cons, optional, isUserId,
      isText]
    decide
  have validToo : isValid (.table (Table.merge (Table.merge [(.str "user_id", .str "u1")] promotion)
      demotion)) = true := by
    rw [demoted]
    simp [isValid, isValidTable, Value.table?, Value.opened, Table.field_cons, optional, isUserId]
    decide
  have first : call promotion s = _ := (run_update_eq_ok_iff rfl rfl).mpr
    ⟨_, _, _, _, s, found, by rw [staffSession, entries_of_table rfl]; rfl, valid, rfl, rfl⟩
  obtain ⟨compose, again⟩ := updates_compose (.answering .null) "store" s signedIn (.table promotion)
    (.table demotion) promotion demotion rfl rfl rfl promotionKeyed demotionKeyed
  have both := (compose _ _ _ _ first
    ((run_update_reslot_eq_ok_iff found valid rfl).mpr ⟨validToo, rfl, rfl⟩)).1
  rw [demoted] at both
  exact ⟨_, _, _, _, first, (again _ _ first).1, both⟩

end Session

end Gatekeeper
