import Gatekeeper.Proofs.Session.Entry
import Gatekeeper.Proofs.Table

/-! Which values are sessions, said field by field, and what comes of the others when a store is read:
they count as no session, and outside of production the log tells it. -/
namespace Gatekeeper.Session

open Process

variable {host : Host} {s t : Surroundings} {trace : List Op} {value : Value} {field : Option Value}
  {entries : Table} {count limit : Nat}

def TextUpTo (limit : Nat) (value : Value) : Prop :=
  ∃ letters, value.letters? = some letters ∧ letters.length ≤ limit

def TextsUpTo (count limit : Nat) (value : Value) : Prop :=
  ∃ items, (value = .list items ∨ value = .tuple items) ∧ items.length ≤ count ∧
    ∀ item ∈ items, TextUpTo limit item

def NamesUser (value : Value) : Prop :=
  ∃ letters, value.letters? = some letters ∧ 1 ≤ letters.length ∧ letters.length ≤ 255 ∧
    ∃ letter ∈ letters, letter.isBlank = false

structure WellFormed (entries : Table) : Prop where
  user : ∃ user, Table.field entries "user_id" = some user ∧ NamesUser user
  email : ∀ email, Table.field entries "email" = some email → TextUpTo 320 email
  role : ∀ role, Table.field entries "role" = some role → role = .null ∨ TextUpTo 100 role
  roles : ∀ roles, Table.field entries "roles" = some roles →
    roles = .null ∨ TextsUpTo 100 100 roles
  permissions : ∀ permissions, Table.field entries "permissions" = some permissions →
    permissions = .null ∨ TextsUpTo 500 200 permissions

/-- A table whose fields are well-formed. Any other entries may stand beside them. -/
def IsSession (value : Value) : Prop :=
  ∃ entries, value.table? = some entries ∧ WellFormed entries

theorem isText_iff_textUpTo : isText limit value = true ↔ TextUpTo limit value := by
  cases value <;> simp [isText, TextUpTo, Value.letters?]

theorem isTexts_iff_textsUpTo : isTexts count limit value = true ↔ TextsUpTo count limit value := by
  cases value <;> simp [isTexts, TextsUpTo, isText_iff_textUpTo]

theorem isUserId_iff_namesUser : isUserId value = true ↔ NamesUser value := by
  have inked : ∀ letters : List Text.Letter,
      (letters.any (!Text.Letter.isBlank ·) && letters.length ≤ maxUserId) = true ↔
        1 ≤ letters.length ∧ letters.length ≤ 255 ∧
          ∃ letter ∈ letters, letter.isBlank = false := by
    intro letters
    simp only [Bool.and_eq_true, List.any_eq_true, Bool.not_eq_true', maxUserId]
    constructor
    · rintro ⟨⟨letter, mem, ink⟩, short⟩
      exact ⟨List.length_pos_of_mem mem, of_decide_eq_true short, letter, mem, ink⟩
    · rintro ⟨-, short, ink⟩
      exact ⟨ink, decide_eq_true short⟩
  cases value with
  | str text =>
    rw [isUserId, ← Text.any_lettersOf, ← Text.length_lettersOf, inked]
    simp [NamesUser, Value.letters?]
  | torn letters =>
    rw [isUserId, inked]
    simp [NamesUser, Value.letters?]
  | _ => simp [isUserId, NamesUser, Value.letters?]

theorem optional_iff {check : Value → Bool} :
    optional check field = true ↔ ∀ value, field = some value → value = .null ∨ check value = true := by
  unfold optional
  split <;> simp_all

theorem isValidTable_iff_wellFormed : isValidTable entries = true ↔ WellFormed entries := by
  simp only [isValidTable, Bool.and_eq_true, optional_iff, Option.any_eq_true, Option.all_eq_true,
    isUserId_iff_namesUser, isText_iff_textUpTo, isTexts_iff_textsUpTo]
  constructor
  · rintro ⟨⟨⟨⟨user, email⟩, role⟩, roles⟩, permissions⟩
    exact ⟨user, email, role, roles, permissions⟩
  · rintro ⟨user, email, role, roles, permissions⟩
    exact ⟨⟨⟨⟨user, email⟩, role⟩, roles⟩, permissions⟩

theorem isValid_iff_isSession : isValid value = true ↔ IsSession value := by
  simp only [isValid, IsSession, Option.any_eq_true, isValidTable_iff_wellFormed]

instance : Decidable (IsSession value) :=
  decidable_of_iff _ isValid_iff_isSession

/-- Reading a table asks no function of the host and never fails. What is in the slot comes back as
it is if it is a session, and null if it is not; that it is passed over is logged once, unless there is
nothing in the slot or the application is in production. -/
theorem read_demotes_malformed (host : Host) (store : Value) (entries : Table) (s : Surroundings)
    (mapping : store.table? = some entries) :
    let slot := (Table.find entries key).getD .null
    ∃ steps,
      (∀ trace result t, Runs s (read host store) trace result t ↔
        trace = steps ∧ result = .ok (if IsSession slot then slot else .null) ∧ t = s) ∧
      callsOf steps = [] ∧
      logsOf steps = if IsSession slot ∨ slot.isNull ∨ s.world.InProduction then []
        else [⟨.warning, .session, malformed⟩] := by
  intro slot
  have reading : read host store = if slot.isNull then .done .null
      else if IsSession slot then .done slot else warning := by
    simp only [read_of_table mapping, isValid_iff_isSession, slot]
  by_cases missing : slot.isNull
  · have null : slot = .null := Value.isNull_iff.mp missing
    refine ⟨[], fun trace result t => ?_, rfl, by simp [missing, logsOf]⟩
    simp [reading, null]
  by_cases sound : IsSession slot
  · refine ⟨[], fun trace result t => ?_, rfl, by simp [sound, logsOf]⟩
    simp [reading, missing, sound]
  · refine ⟨complaint s.world, fun trace result t => ?_, callsOf_complaint, ?_⟩
    · rw [reading, if_neg missing, if_neg sound, if_neg sound, runs_warning_iff]
    · simp [logsOf_complaint, missing, sound]

def nullEmail : Table :=
  [(.str "user_id", .str "u1"), (.str "email", .null)]

theorem nullEmail_demoted :
    let s : Surroundings := ⟨{ environment := [("SESSIONKIT_ENV", "Staging")] }, .null⟩
    ∃ trace, Runs s (read (.answering .null) (.table [(key, .table nullEmail)])) trace (.ok .null) s ∧
      logsOf trace = [⟨.warning, .session, malformed⟩] := by
  intro s
  have staging : ¬ s.world.InProduction := by
    rintro ⟨mode, told, lowered⟩
    cases told
    exact absurd lowered (by decide +kernel)
  have rejected : ¬ IsSession (.table nullEmail) := by
    rintro ⟨entries, table, wellFormed⟩
    cases table
    obtain ⟨_, ⟨⟩, -⟩ := wellFormed.email .null (by simp [nullEmail, Table.field_cons])
  obtain ⟨steps, reads, -, logged⟩ :=
    read_demotes_malformed (.answering .null) (.table [(key, .table nullEmail)]) _ s rfl
  have slot : (Table.find [(key, .table nullEmail)] key).getD .null = .table nullEmail := by
    rw [key, Table.find_cons_self, Option.getD_some]
  rw [slot] at reads logged
  refine ⟨steps, (reads _ _ _).mpr ⟨rfl, by rw [if_neg rejected], rfl⟩, ?_⟩
  rw [logged, if_neg]
  rintro (session | null | production)
  · exact rejected session
  · cases null
  · exact staging production

end Gatekeeper.Session
