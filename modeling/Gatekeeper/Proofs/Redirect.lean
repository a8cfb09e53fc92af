import Gatekeeper.Redirect
import Mathlib.Data.List.DropRight

/-! Where a browser goes when it is sent to a target. It does not read the target as it is written:
it drops some characters and takes others for a slash. It stays on the site if what it reads then is
a slash that neither a second one follows, which would name a host, nor a scheme comes before. -/
namespace Gatekeeper.Redirect

variable {chars : List Char} {char : Char} {text : String} {target : Value}

def isDropped (char : Char) : Bool :=
  char == '\t' || char == '\n' || char == '\r'

/-- A browser drops these at both ends: spaces and control characters. -/
def isPadding (char : Char) : Bool :=
  char == ' ' || char.toNat ≤ 0x1F || 0x7F ≤ char.toNat && char.toNat ≤ 0x9F

def browsed (chars : List Char) : List Char :=
  (((chars.filter fun char => !isDropped char).dropWhile isPadding).rdropWhile isPadding).map
    fun char => if char = '\\' then '/' else char

def NamesScheme (chars : List Char) : Prop :=
  ∃ first more rest, chars = first :: (more ++ ':' :: rest) ∧ first.isAlpha = true ∧
    ∀ char ∈ more, char.isAlphanum = true ∨ char ∈ ['+', '.', '-']

structure OnSite (chars : List Char) : Prop where
  rooted : (browsed chars)[0]? = some '/'
  hostless : (browsed chars)[1]? ≠ some '/'
  schemeless : ¬ NamesScheme (browsed chars)

theorem not_namesScheme_of_slash (slash : chars[0]? = some '/') : ¬ NamesScheme chars := by
  rintro ⟨first, more, rest, rfl, letter, -⟩
  obtain rfl : first = '/' := by simpa using slash
  revert letter
  decide

theorem isUnsafe_eq_false_iff :
    isUnsafe char = false ↔ char ≠ '\\' ∧ 0x1F < char.toNat ∧ char.toNat ≠ 0x7F := by
  simp [isUnsafe, and_assoc]

/-- A text is a valid target if it has a slash in front and no second one, is not too long and has
no character in it that a browser would rewrite. A slash in front leaves no room for a scheme. -/
theorem isValidText_iff :
    isValidText text = true ↔ text.toList[0]? = some '/' ∧ text.toList[1]? ≠ some '/' ∧
      text.toList.length ≤ maxLength ∧
      ∀ char ∈ text.toList, char ≠ '\\' ∧ 0x1F < char.toNat ∧ char.toNat ≠ 0x7F := by
  simp only [← isUnsafe_eq_false_iff, isValidText]
  cases text.toList with
  | nil => simp
  | cons first rest =>
    by_cases slash : first = '/'
    · subst slash
      have schemeless : hasScheme ('/' :: rest) = false := rfl
      cases rest <;> simp [schemeless, and_comm, and_assoc]
    · simp [slash]

theorem exists_browsed_eq (safe : ∀ char ∈ chars, char ≠ '\\' ∧ 0x1F < char.toNat) :
    ∃ rest, rest <+: chars ∧ browsed ('/' :: chars) = '/' :: rest := by
  have kept : ('/' :: chars).filter (fun char => !isDropped char) = '/' :: chars := by
    rw [List.filter_eq_self]
    intro char mem
    rcases List.mem_cons.mp mem with rfl | mem
    · rfl
    · have above := (safe char mem).2
      have : ∀ low : Char, low.toNat ≤ 0x1F → char ≠ low := by
        rintro low small rfl
        omega
      simp [isDropped, this]
  -- The slash in front is no padding, so it is where both ends stop.
  obtain ⟨rest, short, same⟩ : ∃ rest, rest <+: chars ∧
      ('/' :: chars).rdropWhile isPadding = '/' :: rest := by
    have short := List.rdropWhile_prefix isPadding ('/' :: chars)
    cases found : ('/' :: chars).rdropWhile isPadding with
    | nil =>
      have padding := List.rdropWhile_eq_nil_iff.mp found '/' (by simp)
      cases padding
    | cons first rest =>
      rw [found, List.cons_prefix_cons] at short
      exact ⟨rest, short.2, by rw [short.1]⟩
  have unchanged : rest.map (fun char => if char = '\\' then '/' else char) = rest :=
    calc
      _ = rest.map id := List.map_congr_left fun char mem =>
        if_neg (safe char (short.subset mem)).1
      _ = rest := List.map_id rest
  refine ⟨rest, short, ?_⟩
  simp [browsed, kept, same, unchanged, isPadding]

theorem onSite_of_isValidText (valid : isValidText text = true) : OnSite text.toList := by
  obtain ⟨slash, single, -, safe⟩ := isValidText_iff.mp valid
  obtain ⟨chars, same⟩ : ∃ chars, text.toList = '/' :: chars := by
    cases found : text.toList with
    | nil => simp [found] at slash
    | cons first chars =>
      rw [found] at slash
      exact ⟨chars, by simpa using slash⟩
  rw [same] at single safe ⊢
  obtain ⟨rest, short, read⟩ := exists_browsed_eq fun char mem =>
    ⟨(safe char (List.mem_cons_of_mem _ mem)).1, (safe char (List.mem_cons_of_mem _ mem)).2.1⟩
  have rooted : (browsed ('/' :: chars))[0]? = some '/' := by simp [read]
  refine ⟨rooted, ?_, not_namesScheme_of_slash rooted⟩
  obtain ⟨dropped, rfl⟩ := short
  rw [read]
  cases rest with
  | nil => simp
  | cons second rest => simpa using single

/-- A target is a text, and a browser that reads it stays on the site. A half of a character is
replaced before it gets there. -/
def Local (target : Value) : Prop :=
  ∃ text, target.outline? = some text ∧ OnSite text.toList

theorem isValid_iff :
    isValid target = true ↔ ∃ text, target.outline? = some text ∧ isValidText text = true := by
  cases target <;> simp [isValid, Value.outline?]

theorem local_of_isValid (valid : isValid target = true) : Local target := by
  obtain ⟨text, outline, valid⟩ := isValid_iff.mp valid
  exact ⟨text, outline, onSite_of_isValidText valid⟩

end Gatekeeper.Redirect
