import Gatekeeper.Proofs.Session.Slot

/-! When there is no session. A reader finds none in a slot that holds no valid one; an update only
asks whether what is in the slot counts as no. The two agree except on what is malformed and does not
count as no. -/
namespace Gatekeeper.Session

open Process

variable {host : Host} {s : Surroundings} {carrier changes stored : Value} {name : String}

theorem finds_none_iff : Settles s (read host (Session.store carrier)) .null ↔
    ∀ stored, slot? carrier = some stored → isValid stored = false := by
  rw [read_store_eq]
  cases kept : slot? carrier with
  | none => simp
  | some stored =>
    have alone : (∀ found, some stored = some found → isValid found = false) ↔
        isValid stored = false := by simp
    rw [alone]
    split
    · contradiction
    · next same =>
      cases same
      exact ⟨fun _ => rfl, fun _ => settles_done_iff.mpr rfl⟩
    · next same =>
      cases same
      split
      next valid =>
        rw [settles_done_iff, valid]
        simpa using ne_null_of_isValid valid
      next invalid =>
        simp only [invalid, iff_true]
        exact fun trace result t runs => (of_runs_warning runs).1

/-- Where a reader finds no session, an update says so and leaves the carrier alone, unless the slot
holds something malformed that does not count as no. An object of the host in the slot that tells keys
of its own is left out, since its function may raise anything. -/
theorem update_heeds_reader_iff (host : Host) (name : String) (s : Surroundings)
    (carrier changes : Value) (bound : s.world.stored.lookup name = some carrier)
    (mapping : changes.table?.isSome = true)
    (keyless : ∀ stored, slot? carrier = some stored → stored.attr? "keys" = none) :
    (Settles s (read host (Session.store carrier)) .null →
        (((Edit.update changes).step name).run host).run s = (.error .noSession, s)) ↔
      ∀ stored, slot? carrier = some stored → stored.truthy = true → isValid stored = true := by
  obtain ⟨new, told⟩ := Option.isSome_iff_exists.mp mapping
  rw [finds_none_iff]
  constructor
  · intro heeds stored kept truthy
    by_contra malformed
    have missing := heeds fun other same => by
      rw [kept] at same
      cases same
      simpa using malformed
    obtain ⟨⟨place, store⟩, located, -⟩ := Option.bind_eq_some_iff.mp kept
    have called : (update host name changes).run s = _ :=
      run_update_of_truthy bound (holds_of_locate located) kept truthy
    cases readable : stored.table? with
    | none =>
      rw [entries_of_table told, run_bind, run_entries_of_other readable (keyless stored kept)] at called
      rw [run_step_error (.update changes) bound called] at missing
      cases missing
    | some old =>
      rw [entries_of_table readable, entries_of_table told, done_bind, done_bind, run_revise] at called
      split at called
      · rw [run_step (.update changes) bound called fun _ _ => lookup_rebind_self] at missing
        cases missing
      · rw [run_step_error (.update changes) bound called] at missing
        cases missing
  · intro sound unread
    have falsy : ∀ stored, slot? carrier = some stored → stored.truthy = false := by
      intro stored kept
      by_contra truthy
      have valid := sound stored kept (by simpa using truthy)
      rw [unread stored kept] at valid
      cases valid
    exact run_step_error (.update changes) bound (run_update_of_falsy bound falsy)

def userless : Value :=
  .table [(key, .table [(.str "email", .str "ann@example.org")])]

def garbled : Value :=
  .table [(key, .str "expired")]

theorem slot?_userless : slot? userless = some (.table [(.str "email", .str "ann@example.org")]) :=
  (slot?_of_holds (.itself rfl)).trans Table.find_cons_self

theorem slot?_garbled : slot? garbled = some (.str "expired") :=
  (slot?_of_holds (.itself rfl)).trans Table.find_cons_self

/-- Requests on either store are anonymous. Yet an update that names the user makes a session of the
one, and on the other it fails as if there were a session to merge into. -/
theorem unread_session_revived :
    let host : Host := .answering .null
    let s : Surroundings := ⟨{ stored := [("one", userless), ("other", garbled)] }, .null⟩
    let naming : Edit := .update (.table [(.str "user_id", .str "ann")])
    Settles s (read host (Session.store userless)) .null ∧
      (∃ session after, ((naming.step "one").run host).run s =
          (.ok (.written session after), ⟨s.world.store "one" after, s.context⟩) ∧
        isValid session = true ∧ slot? after = some session) ∧
      Settles s (read host (Session.store garbled)) .null ∧
      ((naming.step "other").run host).run s = (.error .wrongType, s) := by
  intro host s naming
  have lacking : Holds userless .itself userless := .itself rfl
  have spoilt : Holds garbled .itself garbled := .itself rfl
  let merged : Table := [(.str "email", .str "ann@example.org"), (.str "user_id", .str "ann")]
  have merges : Table.merge [(.str "email", .str "ann@example.org")]
      [(.str "user_id", .str "ann")] = merged := by
    simp [Table.merge, Table.put, Value.same, merged]
  have valid : isValid (.table merged) = true := by
    simp [isValid, isValidTable, merged, Value.table?, Value.opened, Table.field_cons, optional,
      isText, isUserId]
    decide
  refine ⟨finds_none_iff.mpr ?_, ?_, finds_none_iff.mpr ?_, ?_⟩
  · rw [slot?_userless]
    rintro _ ⟨⟩
    simp [isValid, isValidTable, Value.table?, Value.opened, Table.field_cons]
  · have called : (update host "one" (.table [(.str "user_id", .str "ann")])).run s = _ :=
      run_update_of_truthy rfl lacking slot?_userless rfl
    rw [entries_of_table rfl, entries_of_table rfl, done_bind, done_bind, run_revise, merges,
      if_pos valid] at called
    refine ⟨.table merged, reslot .itself userless userless (.table merged), ?_, valid, ?_⟩
    · exact run_step naming rfl called fun _ _ => lookup_rebind_self
    · rw [reslot, slot?_restock lacking, find_put_key]
  · rw [slot?_garbled]
    rintro _ ⟨⟩
    rfl
  · have called : (update host "other" (.table [(.str "user_id", .str "ann")])).run s = _ :=
      run_update_of_truthy rfl spoilt slot?_garbled (by decide)
    rw [run_bind, run_entries_of_other rfl rfl] at called
    exact run_step_error naming rfl called

/-- An empty table in the slot counts as no, so nothing is merged into it. -/
def blank : Value :=
  .table [(key, .table [])]

theorem blank_session_reported_missing :
    let host : Host := .answering .null
    let s : Surroundings := ⟨{ stored := [("one", blank)] }, .null⟩
    Settles s (read host (Session.store blank)) .null ∧
      (((Edit.update (.table [(.str "user_id", .str "ann")])).step "one").run host).run s =
        (.error .noSession, s) := by
  intro host s
  have kept : slot? blank = some (.table []) := (slot?_of_holds (.itself rfl)).trans Table.find_cons_self
  have unread : Settles s (read host (Session.store blank)) .null := by
    rw [finds_none_iff, kept]
    rintro _ ⟨⟩
    rfl
  have heeds := update_heeds_reader_iff host "one" s blank (.table [(.str "user_id", .str "ann")]) rfl
    rfl (by rw [kept]; rintro _ ⟨⟩; rfl)
  refine ⟨unread, heeds.mpr ?_ unread⟩
  rw [kept]
  rintro _ ⟨⟩ truthy
  cases truthy

end Gatekeeper.Session
