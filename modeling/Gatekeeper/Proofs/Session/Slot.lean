import Gatekeeper.Proofs.Host
import Gatekeeper.Proofs.Session.Carrier
import Gatekeeper.Scenario.Run

/-! Writes to the slot of a carrier that a name is bound to. Whatever is saved, merged or cleared, in
whatever order, the slot holds a valid session or none, and what is read from it is what was written
last. -/
namespace Gatekeeper

open Process

variable {α β : Type} {s : Surroundings}

theorem Process.run_bind (process : Process α) (next : α → Process β) (s : Surroundings) :
    (process.bind next).run s = match process.run s with
      | (.ok value, mid) => (next value).run mid
      | (.error fault, mid) => (.error fault, mid) := by
  induction process generalizing s with
  | done value => rfl
  | fail fault => rfl
  | ask op further ih => exact ih _ _

def Op.Leaves (name : String) : Op → Prop
  | .store other _ => other ≠ name
  | _ => True

section Storage

variable {name other : String} {bindings : List (String × α)} {value : α}

@[simp] theorem lookup_rebind_self : (rebind name value bindings).lookup name = some value := by
  simp [rebind]

theorem lookup_rebind_of_ne (different : other ≠ name) :
    (rebind other value bindings).lookup name = bindings.lookup name := by
  have apart : (name == other) = false := by simpa using Ne.symm different
  have kept : (bindings.filter fun binding => binding.1 != other).lookup name =
      bindings.lookup name := by
    induction bindings with
    | nil => rfl
    | cons binding rest ih =>
      obtain ⟨found, stored⟩ := binding
      by_cases gone : found = other
      · have elsewhere : (name == found) = false := by rwa [gone]
        rw [List.filter_cons_of_neg (by simp [gone]), List.lookup_cons, elsewhere, ih]
      · rw [List.filter_cons_of_pos (by simpa using gone), List.lookup_cons, List.lookup_cons, ih]
  rw [rebind, List.lookup_cons, apart]
  exact kept

theorem lookup_run_of_asks {process : Process α} (leaves : process.Asks (Op.Leaves name)) :
    (process.run s).2.world.stored.lookup name = s.world.stored.lookup name := by
  induction process generalizing s with
  | done => rfl
  | fail => rfl
  | ask op next ih =>
    refine (ih _ (leaves.2 _)).trans ?_
    cases op with
    | store other value => exact lookup_rebind_of_ne leaves.1
    | setEnvironment name value => cases value <;> rfl
    | _ => rfl

end Storage

namespace Session

variable {host : Host} {carrier after store session : Value} {place : Place} {entries : Table}
  {name : String}

def slot? (carrier : Value) : Option Value :=
  (locate carrier).bind fun (_, store) => Table.find (entriesOf store) key

def Sound (carrier : Value) : Prop :=
  ∀ session, slot? carrier = some session → isValid session = true

theorem read_store_eq : read host (Session.store carrier) =
    match slot? carrier with
    | none | some .null => .done .null
    | some stored => if isValid stored then .done stored else warning := by
  unfold Session.store slot?
  cases located : locate carrier with
  | none => rfl
  | some held =>
    obtain ⟨place, store⟩ := held
    have writable := writable_of_holds (holds_of_locate located)
    simp only [Option.map_some, Option.getD_some, Option.bind_some,
      read_of_table (table?_of_writable? writable)]
    cases found : Table.find (entriesOf store) key with
    | none => rfl
    | some stored => cases stored <;> rfl

theorem read_store (sound : Sound carrier) :
    read host (Session.store carrier) = .done ((slot? carrier).getD .null) := by
  rw [read_store_eq]
  split
  · simp [*]
  · simp [*]
  next session _ found => rw [if_pos (sound session found), found, Option.getD_some]

theorem slot?_of_holds (holds : Holds carrier place store) :
    slot? carrier = Table.find (entriesOf store) key := by
  rw [slot?, locate_eq_some_iff.mpr holds]
  rfl

theorem slot?_restock (holds : Holds carrier place store) :
    slot? (restock place entries carrier) = Table.find entries key := by
  have writable : store.writable?.isSome = true := by rw [writable_of_holds holds]; rfl
  rw [slot?_of_holds holds.restock, entriesOf, writable?_refill writable]
  rfl

/-- What an update merges into is whatever the slot holds that does not count as no. -/
theorem stored?_eq_some_iff : stored? carrier = some (place, store, session) ↔
    Holds carrier place store ∧ slot? carrier = some session ∧ session.truthy = true := by
  constructor
  · intro found
    obtain ⟨⟨inside, kept⟩, located, more⟩ := Option.bind_eq_some_iff.mp found
    obtain ⟨held, stored, ends⟩ := Option.bind_eq_some_iff.mp more
    have holds := holds_of_locate located
    split at ends
    next truthy =>
      cases ends
      exact ⟨holds, (slot?_of_holds holds).trans stored, truthy⟩
    · cases ends
  · rintro ⟨holds, kept, truthy⟩
    rw [slot?_of_holds holds] at kept
    simp [stored?, locate_eq_some_iff.mpr holds, kept, truthy]

inductive Edit where
  | save (session : Value)
  | update (changes : Value)
  | clear

def Edit.step (name : String) : Edit → Scenario.Step
  | .save session => .save (.named name) session
  | .update changes => .update (.named name) changes
  | .clear => .clear (.named name)

def Edit.call (host : Host) (name : String) : Edit → Process Value
  | .save session => (Session.save name session).bind fun _ => .done .null
  | .update changes => Session.update host name changes
  | .clear => (Session.clear name).bind fun _ => .done .null

theorem run_carrier (bound : s.world.stored.lookup name = some carrier) :
    (Session.carrier name).run s = (.ok carrier, s) := by
  simp [Session.carrier, request, Process.run, Surroundings.answer, bound]

theorem run_step (edit : Edit) {outcome : Except Fault Value} {mid : Surroundings}
    (bound : s.world.stored.lookup name = some carrier)
    (ran : (edit.call host name).run s = (outcome, mid))
    (left : ∀ result, outcome = .ok result → mid.world.stored.lookup name = some after) :
    ((edit.step name).run host).run s = (outcome.map (.written · after), mid) := by
  have step : (edit.step name).run host = Scenario.written (.named name) (edit.call host ·) := by
    cases edit <;> rw [Edit.step, Scenario.Step.run] <;> rfl
  rw [step, Scenario.written]
  simp only [Scenario.Carrier.name, bind_eq, pure_eq, run_bind, run_carrier bound, Process.run, ran]
  cases outcome with
  | error fault => rfl
  | ok result =>
    simp only [run_carrier (left result rfl)]
    rfl

theorem run_step_error (edit : Edit) {fault : Fault} {mid : Surroundings}
    (bound : s.world.stored.lookup name = some carrier)
    (ran : (edit.call host name).run s = (.error fault, mid)) :
    ((edit.step name).run host).run s = (.error fault, mid) := by
  have never : ∀ result : Value, Except.error fault = .ok result →
      mid.world.stored.lookup name = some carrier := by
    rintro _ ⟨⟩
  exact run_step edit bound ran never

theorem run_save (bound : s.world.stored.lookup name = some carrier) :
    (save name session).run s =
      if isValid session then
        match locate carrier with
        | some (place, store) =>
          (.ok (), ⟨s.world.store name (reslot place store carrier session), s.context⟩)
        | none => (.ok (), s)
      else (.error .invalidSession, s) := by
  unfold save
  cases isValid session with
  | false => rfl
  | true =>
    simp only [Bool.not_true, Bool.false_eq_true, if_false, if_true, bind_eq, run_bind,
      run_carrier bound]
    cases locate carrier <;> rfl

theorem run_clear (bound : s.world.stored.lookup name = some carrier) :
    (clear name).run s = match locate carrier with
      | some (place, store) =>
        (.ok (), ⟨s.world.store name (unslot place store carrier), s.context⟩)
      | none => (.ok (), s) := by
  unfold clear
  simp only [bind_eq, run_bind, run_carrier bound]
  cases locate carrier <;> rfl

theorem run_update {changes : Value} (bound : s.world.stored.lookup name = some carrier) :
    (update host name changes).run s = match stored? carrier with
      | none => (.error .noSession, s)
      | some (place, store, session) => ((host.entries session).bind fun old =>
          (host.entries changes).bind fun new => revise name carrier place store old new).run s := by
  rw [update, bind_eq, run_bind, run_carrier bound]
  dsimp only
  cases stored? carrier <;> rfl

theorem run_revise {place : Place} {store : Value} {old new : Table} :
    (revise name carrier place store old new).run s =
      if isValid (.table (Table.merge old new)) then
        (.ok (.table (Table.merge old new)), ⟨s.world.store name
          (reslot place store carrier (.table (Table.merge old new))), s.context⟩)
      else (.error .invalidUpdate, s) := by
  unfold revise
  by_cases valid : isValid (.table (Table.merge old new)) = true <;>
    simp only [valid, Bool.not_true, Bool.not_false, if_true, if_false, Bool.false_eq_true] <;> rfl

/-- What a call may do to a carrier: leave it, or write other entries to its store, in which nothing
but the slot is changed and the slot is sound. -/
inductive Touches (carrier : Value) : Value → Prop
  | unchanged : Touches carrier carrier
  | written {place : Place} {store : Value} {entries : Table} (holds : Holds carrier place store)
      (aside : ∀ other, other ≠ key →
        Table.find entries other = Table.find (entriesOf store) other)
      (valid : ∀ session, Table.find entries key = some session → isValid session = true) :
      Touches carrier (restock place entries carrier)

theorem Touches.sound (touches : Touches carrier after) (sound : Sound carrier) : Sound after := by
  cases touches with
  | unchanged => exact sound
  | written holds aside valid =>
    intro session found
    rw [slot?_restock holds] at found
    exact valid session found

theorem Touches.sameAside (touches : Touches carrier after) :
    SameAside (route carrier) carrier after := by
  cases touches with
  | unchanged => exact .refl _ _
  | written holds aside => exact sameAside_restock holds aside

theorem Touches.reach (touches : Touches carrier after) (holds : Holds carrier place store) :
    carrier.reach (route carrier) = slot? carrier ∧ after.reach (route carrier) = slot? after := by
  have here : carrier.reach (route carrier) = slot? carrier :=
    (reach_route holds).trans (slot?_of_holds holds).symm
  refine ⟨here, ?_⟩
  cases touches with
  | unchanged => exact here
  | written inside =>
    rw [← route_restock inside, reach_route inside.restock, slot?_of_holds inside.restock]

theorem find_put_key : Table.find (Table.put key session entries) key = some session :=
  Table.find_put_self

theorem find_remove_key : Table.find (Table.remove key entries) key = none :=
  Table.find_remove_self

theorem touches_reslot (holds : Holds carrier place store) (valid : isValid session = true) :
    Touches carrier (reslot place store carrier session) := by
  refine .written holds (fun other different => ?_) fun found same => ?_
  · exact Table.find_put_of_ne different.symm (.inl ⟨_, rfl⟩)
  · rw [find_put_key] at same
    cases same
    exact valid

theorem touches_unslot (holds : Holds carrier place store) :
    Touches carrier (unslot place store carrier) := by
  refine .written holds (fun other => Table.find_remove_of_ne) fun found same => ?_
  rw [find_remove_key] at same
  cases same

/-- Tables are merged as they are, and what is no mapping cannot be merged. Only an object of the host
is asked. -/
theorem entries_of_table {changes : Value} (readable : changes.table? = some entries) :
    host.entries changes = .done entries := by
  unfold Host.entries
  rw [readable]

theorem run_entries_of_other {changes : Value} (unreadable : changes.table? = none)
    (keyless : changes.attr? "keys" = none) :
    (host.entries changes).run s = (.error .wrongType, s) := by
  simp [Host.entries, unreadable, keyless, Process.run]

/-- What merging changes comes to. The changes count before what they are merged into, and the last of
them first; what is not valid then is not written. -/
def Merges (host : Host) (old new : Table) (after : Value)
    (outcome : Except Fault Scenario.Answer) : Prop :=
  (∀ name, Table.field (Table.merge old new) name =
    (Table.field new.reverse name).or (Table.field old name)) ∧
  if isValid (.table (Table.merge old new)) then
    outcome = .ok (.written (.table (Table.merge old new)) after) ∧
      read host (Session.store after) = .done (.table (Table.merge old new))
  else outcome = .error .invalidUpdate

/-- What a call comes to, by what was in the slot before it: a fault, or the carrier afterwards, from
which the session is read that the call has written. -/
def Edit.Does (host : Host) (before : Surroundings) (carrier after : Value)
    (outcome : Except Fault Scenario.Answer) : Edit → Prop
  | .save session =>
    if isValid session then
      outcome = .ok (.written .null after) ∧
        if (locate carrier).isSome then read host (Session.store after) = .done session
        else after = carrier
    else outcome = .error .invalidSession
  | .clear =>
    outcome = .ok (.written .null after) ∧ read host (Session.store after) = .done .null ∧
      (locate carrier = none → after = carrier)
  | .update changes =>
    match slot? carrier with
    | none => outcome = .error .noSession
    | some session =>
      (changes.table? = none → changes.attr? "keys" = none → outcome = .error .wrongType) ∧
      ∃ old, session.table? = some old ∧
        match ((host.entries changes).run before).1 with
        | .error fault => outcome = .error fault
        | .ok new => Merges host old new after outcome

variable {before : Surroundings}

theorem read_reslot (holds : Holds carrier place store) (valid : isValid session = true) :
    read host (Session.store (reslot place store carrier session)) = .done session := by
  have kept : slot? (reslot place store carrier session) = some session :=
    (slot?_restock holds).trans find_put_key
  have sound : Sound (reslot place store carrier session) := by
    intro found same
    rw [kept] at same
    cases same
    exact valid
  rw [read_store sound, kept, Option.getD_some]

theorem read_unslot (holds : Holds carrier place store) :
    read host (Session.store (unslot place store carrier)) = .done .null := by
  have kept : slot? (unslot place store carrier) = none :=
    (slot?_restock holds).trans find_remove_key
  have sound : Sound (unslot place store carrier) := fun found same => by rw [kept] at same; cases same
  rw [read_store sound, kept, Option.getD_none]

/-- What there is to say about a call on a name that is bound to a sound carrier. It touches nothing but
the slot, leaves the carrier alone if it fails, and does what it is for. -/
structure Edit.Keeps (host : Host) (name : String) (before : Surroundings) (carrier after : Value)
    (edit : Edit) (called : Except Fault Scenario.Answer × Surroundings) : Prop where
  bound : called.2.world.stored.lookup name = some after
  touches : Touches carrier after
  failed : ∀ fault, called.1 = .error fault → after = carrier
  does : edit.Does host before carrier after called.1

theorem keeps_save (bound : before.world.stored.lookup name = some carrier) :
    ∃ after, (Edit.save session).Keeps host name before carrier after
      ((((Edit.save session).step name).run host).run before) := by
  by_cases valid : isValid session = true
  · cases located : locate carrier with
    | none =>
      have ran : ((Edit.save session).call host name).run before = (.ok .null, before) := by
        rw [Edit.call, run_bind, run_save bound, if_pos valid, located]
        rfl
      rw [run_step _ bound ran fun _ _ => bound]
      refine ⟨carrier, bound, .unchanged, fun _ _ => rfl, ?_⟩
      simp [Edit.Does, valid, located, Except.map]
    | some held =>
      obtain ⟨place, store⟩ := held
      have holds := holds_of_locate located
      have ran : ((Edit.save session).call host name).run before = (.ok .null,
          ⟨before.world.store name (reslot place store carrier session), before.context⟩) := by
        rw [Edit.call, run_bind, run_save bound, if_pos valid, located]
        rfl
      rw [run_step _ bound ran fun _ _ => lookup_rebind_self]
      refine ⟨_, lookup_rebind_self, touches_reslot holds valid, by rintro _ ⟨⟩, ?_⟩
      simp [Edit.Does, valid, located, Except.map, read_reslot holds valid]
  · have ran : ((Edit.save session).call host name).run before = (.error .invalidSession, before) := by
      rw [Edit.call, run_bind, run_save bound, if_neg valid]
    rw [run_step _ bound ran fun _ _ => bound]
    refine ⟨carrier, bound, .unchanged, fun _ _ => rfl, ?_⟩
    simp [Edit.Does, valid, Except.map]

theorem keeps_clear (bound : before.world.stored.lookup name = some carrier) (sound : Sound carrier) :
    ∃ after, Edit.clear.Keeps host name before carrier after
      (((Edit.clear.step name).run host).run before) := by
  cases located : locate carrier with
  | none =>
    have ran : (Edit.clear.call host name).run before = (.ok .null, before) := by
      rw [Edit.call, run_bind, run_clear bound, located]
      rfl
    have empty : slot? carrier = none := by simp [slot?, located]
    rw [run_step _ bound ran fun _ _ => bound]
    refine ⟨carrier, bound, .unchanged, fun _ _ => rfl, ?_⟩
    simp [Edit.Does, Except.map, read_store sound, empty]
  | some held =>
    obtain ⟨place, store⟩ := held
    have holds := holds_of_locate located
    have ran : (Edit.clear.call host name).run before = (.ok .null,
        ⟨before.world.store name (unslot place store carrier), before.context⟩) := by
      rw [Edit.call, run_bind, run_clear bound, located]
      rfl
    rw [run_step _ bound ran fun _ _ => lookup_rebind_self]
    refine ⟨_, lookup_rebind_self, touches_unslot holds, by rintro _ ⟨⟩, ?_⟩
    simp [Edit.Does, located, Except.map, read_unslot holds]

theorem run_update_of_truthy {changes : Value} (bound : s.world.stored.lookup name = some carrier)
    (holds : Holds carrier place store) (kept : slot? carrier = some session)
    (truthy : session.truthy = true) :
    (update host name changes).run s = ((host.entries session).bind fun old =>
      (host.entries changes).bind fun new => revise name carrier place store old new).run s := by
  rw [run_update bound, stored?_eq_some_iff.mpr ⟨holds, kept, truthy⟩]

theorem run_update_of_falsy {changes : Value} (bound : s.world.stored.lookup name = some carrier)
    (falsy : ∀ session, slot? carrier = some session → session.truthy = false) :
    (update host name changes).run s = (.error .noSession, s) := by
  have missing : stored? carrier = none := by
    rw [Option.eq_none_iff_forall_ne_some]
    rintro ⟨place, store, session⟩ found
    obtain ⟨-, kept, truthy⟩ := stored?_eq_some_iff.mp found
    rw [falsy session kept] at truthy
    cases truthy
  rw [run_update bound, missing]

theorem run_update_of_slot? {changes : Value} {old : Table}
    (bound : s.world.stored.lookup name = some carrier) (sound : Sound carrier)
    (holds : Holds carrier place store) (kept : slot? carrier = some session)
    (readable : session.table? = some old) :
    (update host name changes).run s = match (host.entries changes).run s with
      | (.ok new, mid) => (revise name carrier place store old new).run mid
      | (.error fault, mid) => (.error fault, mid) := by
  rw [run_update_of_truthy bound holds kept (truthy_of_isValid (sound session kept)),
    entries_of_table readable, done_bind, run_bind]
  cases (host.entries changes).run s with
  | mk told mid => cases told <;> rfl

theorem merges_revise (host : Host) (bound : s.world.stored.lookup name = some carrier)
    (holds : Holds carrier place store) (old new : Table) :
    ∃ outcome t after, (revise name carrier place store old new).run s = (outcome, t) ∧
      t.world.stored.lookup name = some after ∧ Touches carrier after ∧
      (∀ fault, outcome = .error fault → after = carrier) ∧
      Merges host old new after (outcome.map (.written · after)) := by
  rw [run_revise]
  by_cases valid : isValid (.table (Table.merge old new)) = true
  · rw [if_pos valid]
    refine ⟨_, _, _, rfl, lookup_rebind_self, touches_reslot holds valid, by rintro _ ⟨⟩,
      fun name => Table.field_merge, ?_⟩
    rw [if_pos valid]
    exact ⟨rfl, read_reslot holds valid⟩
  · rw [if_neg valid]
    refine ⟨_, _, carrier, rfl, bound, .unchanged, fun _ _ => rfl, fun name => Table.field_merge, ?_⟩
    rw [if_neg valid]
    rfl

theorem keeps_update {changes : Value} (quiet : host.Within (Asks (Op.Leaves name)))
    (bound : before.world.stored.lookup name = some carrier) (sound : Sound carrier) :
    ∃ after, (Edit.update changes).Keeps host name before carrier after
      ((((Edit.update changes).step name).run host).run before) := by
  cases kept : slot? carrier with
  | none =>
    rw [run_step (.update changes) bound (run_update_of_falsy bound (by simp [kept])) fun _ _ => bound]
    refine ⟨carrier, bound, .unchanged, fun _ _ => rfl, ?_⟩
    simp [Edit.Does, kept, Except.map]
  | some session =>
    obtain ⟨old, readable, -⟩ := exists_entries_of_isValid (sound session kept)
    obtain ⟨⟨place, store⟩, located, -⟩ := Option.bind_eq_some_iff.mp kept
    have holds := holds_of_locate located
    have unmoved : ((host.entries changes).run before).2.world.stored.lookup name = some carrier :=
      (lookup_run_of_asks (quiet.entries (closed_asks _) changes)).trans bound
    have called : (update host name changes).run before = _ :=
      run_update_of_slot? bound sound holds kept readable
    cases told : (host.entries changes).run before with
    | mk outcome mid =>
      rw [told] at unmoved called
      cases outcome with
      | error fault =>
        rw [run_step (.update changes) bound called fun _ _ => unmoved]
        refine ⟨carrier, unmoved, .unchanged, fun _ _ => rfl, ?_⟩
        simp only [Edit.Does, kept, told]
        refine ⟨fun unreadable keyless => ?_, old, readable, rfl⟩
        rw [run_entries_of_other unreadable keyless] at told
        cases told
        rfl
      | ok new =>
        obtain ⟨outcome, t, after, ran, left, touches, failed, merges⟩ :=
          merges_revise host unmoved holds old new
        rw [run_step (.update changes) bound (called.trans ran) fun _ _ => left]
        refine ⟨after, left, touches, ?_, ?_⟩
        · cases outcome with
          | error fault => exact fun _ _ => failed fault rfl
          | ok => rintro _ ⟨⟩
        · simp only [Edit.Does, kept, told]
          refine ⟨fun unreadable keyless => ?_, old, readable, merges⟩
          rw [run_entries_of_other unreadable keyless] at told
          cases told

theorem keeps_step (edit : Edit) (quiet : host.Within (Asks (Op.Leaves name)))
    (bound : before.world.stored.lookup name = some carrier) (sound : Sound carrier) :
    ∃ after, edit.Keeps host name before carrier after (((edit.step name).run host).run before) := by
  cases edit with
  | save session => exact keeps_save bound
  | update changes => exact keeps_update quiet bound sound
  | clear => exact keeps_clear bound sound

def leave (host : Host) (name : String) (s : Surroundings) (edits : List Edit) : Surroundings :=
  edits.foldl (fun s edit => (((edit.step name).run host).run s).2) s

theorem sound_leave (edits : List Edit) (quiet : host.Within (Asks (Op.Leaves name)))
    (bound : before.world.stored.lookup name = some carrier) (sound : Sound carrier) :
    ∃ left, (leave host name before edits).world.stored.lookup name = some left ∧ Sound left := by
  induction edits generalizing before carrier with
  | nil => exact ⟨carrier, bound, sound⟩
  | cons edit rest ih =>
    obtain ⟨after, keeps⟩ := keeps_step edit quiet bound sound
    exact ih keeps.bound (keeps.touches.sound sound)

/-- Whatever calls were made before, a call leaves the slot of the carrier with a valid session or none.
It changes nothing else that can be reached from the carrier, and nothing at all if it fails; if it
does not, what is read from the store afterwards is what it has written. The functions of the host,
which are asked for the keys of objects that are no tables, must leave the carrier to the calls. -/
theorem slot_stays_sound (host : Host) (name : String) (s : Surroundings) (first : Value)
    (quiet : host.Within (Asks (Op.Leaves name))) (bound : s.world.stored.lookup name = some first)
    (sound : Sound first) (earlier : List Edit) (edit : Edit) :
    let before := leave host name s earlier
    let called := ((edit.step name).run host).run before
    ∃ carrier after, before.world.stored.lookup name = some carrier ∧ Sound carrier ∧
      called.2.world.stored.lookup name = some after ∧ Sound after ∧
      (∀ place store, locate carrier = some (place, store) →
        carrier.reach (route carrier) = slot? carrier ∧ after.reach (route carrier) = slot? after) ∧
      SameAside (route carrier) carrier after ∧
      (∀ fault, called.1 = .error fault → after = carrier) ∧
      edit.Does host before carrier after called.1 := by
  intro before called
  obtain ⟨carrier, left, still⟩ := sound_leave earlier quiet bound sound
  obtain ⟨after, keeps⟩ := keeps_step edit quiet left still
  exact ⟨carrier, after, left, still, keeps.bound, keeps.touches.sound still,
    fun place store located => keeps.touches.reach (holds_of_locate located),
    keeps.touches.sameAside, keeps.failed, keeps.does⟩

def theme : Table :=
  [(.str "theme", .str "dark")]

def visitor : Value :=
  .object 1 [("scope", .table [(.str "session", .table theme)]), ("method", .str "GET")]

theorem holds_visitor : Holds visitor .scope (.table theme) :=
  .scope rfl rfl Table.find_cons_self rfl

theorem slot?_visitor : slot? visitor = none :=
  (slot?_of_holds holds_visitor).trans <|
    Table.find_cons_of_not_same fun same => absurd (Value.str_same_iff.mp same) (by simp)

theorem visitor_signs_in :
    let host : Host := .answering .null
    let s : Surroundings := ⟨{ stored := [("request", visitor)] }, .null⟩
    ∃ after, ((((Edit.save staffSession).step "request").run host).run s).2.world.stored.lookup
        "request" = some after ∧
      read host (Session.store after) = .done staffSession ∧
      after.reach [.attr "scope", .key (.str "session"), .key (.str "theme")] =
        some (.str "dark") := by
  intro host s
  have quiet : host.Within (Asks (Op.Leaves "request")) := ⟨fun _ _ => trivial, fun _ _ => trivial⟩
  have sound : Sound visitor := fun session found => by rw [slot?_visitor] at found; cases found
  obtain ⟨carrier, after, bound, -, left, -, -, aside, -, does⟩ :=
    slot_stays_sound host "request" s visitor quiet rfl sound [] (.save staffSession)
  have same : visitor = carrier := Option.some.inj bound
  subst same
  have valid : isValid staffSession = true := by
    simp [isValid, isValidTable, staffSession, Value.table?, Value.opened, Table.field_cons,
      optional, isUserId]
    decide
  have located := locate_eq_some_iff.mpr holds_visitor
  have path : route visitor = [.attr "scope", .key (.str "session"), .key key] := rfl
  refine ⟨after, left, ?_, ?_⟩
  · simp only [Edit.Does, valid, located, if_true, Option.isSome_some] at does
    exact does.2
  · rw [aside _ (by simp [path, key]) (by simp [path, key])]
    show (Value.table [(.str "session", .table theme)]).reach _ = _
    simp only [theme, Value.reach_table, Table.find_cons_self, Option.bind_some]
    rfl

end Session

end Gatekeeper
