import Gatekeeper.Pattern.Validity
import Gatekeeper.Proofs.Pattern.Run
import Mathlib.Data.List.TakeWhile
import Mathlib.Data.Set.Card

/-! The wildcards of a pattern, and what the checks of a pattern say about them. The checks go through the
text once; what they ask for is said of its runs of asterisks. The search for groups, a segment with its
asterisks each, finds every run once, whatever the text. -/
namespace Gatekeeper.Pattern

variable {chars rest plain part : List Char} {char : Char} {count : Nat}

theorem hasLongRun_cons (other : char ≠ '*') (before : Nat) :
    hasLongRun before (char :: rest) = hasLongRun 0 rest := by
  simp [hasLongRun, other]

theorem hasLongRun_replicate_append (stops : rest.head? ≠ some '*') (before : Nat) :
    hasLongRun before (List.replicate count '*' ++ rest) = true ↔
      (0 < count ∧ maxRun < before + count) ∨ hasLongRun 0 rest = true := by
  induction count generalizing before with
  | zero =>
    cases rest with
    | nil => simp [hasLongRun]
    | cons next rest =>
      have other : next ≠ '*' := by simpa using stops
      simp [hasLongRun_cons other]
  | succ count ih =>
    rw [List.replicate_succ, List.cons_append, hasLongRun, if_pos rfl, Bool.or_eq_true, ih,
      decide_eq_true_iff, ← or_assoc]
    refine or_congr ?_ Iff.rfl
    omega

theorem hasLongRun_eq_false_iff :
    hasLongRun 0 chars = false ↔ ∀ run : Run, run.Maximal chars → run.length ≤ maxRun := by
  induction chars using run_induction with
  | nil => simp [hasLongRun, Run.not_maximal_of_plain]
  | other char rest other ih =>
    rw [hasLongRun_cons other, forall_maximal_cons_iff other, ih]
    rfl
  | run count rest inhabited stops ih =>
    rw [forall_maximal_replicate_append_iff inhabited stops, ← Bool.not_eq_true,
      hasLongRun_replicate_append stops, not_or, Bool.not_eq_true, ih]
    refine and_congr ?_ Iff.rfl
    dsimp only
    omega

theorem onBoundaries_cons (other : char ≠ '*') : onBoundaries (char :: rest) = onBoundaries rest := by
  cases rest <;> simp [onBoundaries, other]

theorem onBoundaries_replicate_append (inhabited : 0 < count) (stops : rest.head? ≠ some '*') :
    onBoundaries (List.replicate count '*' ++ rest) = true ↔
      Run.Bounded (List.replicate count '*' ++ rest) ⟨0, count⟩ ∧ onBoundaries rest = true := by
  have follows : (List.replicate count '*' ++ rest)[count]? = rest.head? := by
    have behind := Run.getElem?_behind (List.replicate count '*') rest 0
    rwa [List.length_replicate, Nat.add_zero, ← List.head?_eq_getElem?] at behind
  simp only [Run.Bounded, Run.stop, Nat.zero_add, follows]
  clear follows
  induction count with
  | zero => omega
  | succ count ih =>
    cases count with
    | zero =>
      cases rest with
      | nil => simp [onBoundaries]
      | cons next rest =>
        have other : next ≠ '*' := by simpa using stops
        simp [onBoundaries, other]
    | succ count =>
      refine Iff.trans ?_ (ih (by omega))
      simp [List.replicate_succ, onBoundaries]

theorem onBoundaries_iff :
    onBoundaries chars = true ↔ ∀ run : Run, run.Maximal chars → run.Bounded chars := by
  induction chars using run_induction with
  | nil => simp [onBoundaries, Run.not_maximal_of_plain]
  | other char rest other ih =>
    rw [onBoundaries_cons other, forall_maximal_cons_iff other, ih]
    exact forall₂_congr fun run _ => (run.bounded_shift_iff [char] rest).symm
  | run count rest inhabited stops ih =>
    rw [forall_maximal_replicate_append_iff inhabited stops,
      onBoundaries_replicate_append inhabited stops, ih]
    refine and_congr Iff.rfl (forall₂_congr fun run _ => ?_)
    have shifted := run.bounded_shift_iff (List.replicate count '*') rest
    rwa [List.length_replicate, iff_comm] at shifted

def IsGroup (part : List Char) : Prop :=
  ∃ plain count, part = plain ++ List.replicate count '*' ∧ (∀ char ∈ plain, isPlain char = true) ∧
    0 < count

theorem IsGroup.ne_nil (group : IsGroup part) : part ≠ [] := by
  obtain ⟨plain, count, rfl, -, inhabited⟩ := group
  simp only [ne_eq, List.append_eq_nil_iff, List.replicate_eq_nil_iff]
  omega

structure Group where
  start : Nat
  part : List Char

def Group.run (group : Group) : Run :=
  ⟨group.start + (group.part.takeWhile isPlain).length, (group.part.dropWhile isPlain).length⟩

/-- What a search for groups finds in a text, counted from a place on: the longest group that begins
there, and then what is found behind it. Where no group begins, the search moves on by one. -/
inductive Finds : Nat → List Char → List Group → Prop
  | done {place : Nat} : Finds place [] []
  | group {place : Nat} {chars part rest : List Char} {found : List Group} :
      chars = part ++ rest → IsGroup part →
      (∀ longer, longer <+: chars → IsGroup longer → longer.length ≤ part.length) →
      Finds (place + part.length) rest found → Finds place chars (⟨place, part⟩ :: found)
  | pass {place : Nat} {char : Char} {rest : List Char} {found : List Group} :
      (∀ part, part <+: char :: rest → ¬ IsGroup part) →
      Finds (place + 1) rest found → Finds place (char :: rest) found

theorem takeWhile_group (free : ∀ char ∈ plain, isPlain char = true) (inhabited : 0 < count)
    (rest : List Char) :
    (plain ++ List.replicate count '*' ++ rest).takeWhile isPlain = plain ∧
      (plain ++ List.replicate count '*' ++ rest).dropWhile isPlain =
        List.replicate count '*' ++ rest := by
  obtain ⟨less, rfl⟩ := Nat.exists_eq_add_of_lt inhabited
  have asterisk : isPlain '*' = false := rfl
  rw [List.append_assoc, List.takeWhile_append_of_pos free, List.dropWhile_append_of_pos free]
  simp [List.replicate_succ, asterisk]

theorem run_group {place : Nat} (free : ∀ char ∈ plain, isPlain char = true) (inhabited : 0 < count) :
    Group.run ⟨place, plain ++ List.replicate count '*'⟩ = Run.shift place ⟨plain.length, count⟩ := by
  have split := takeWhile_group free inhabited []
  simp only [List.append_nil] at split
  simp [Group.run, split, Run.shift]

theorem maximal_group_iff (free : ∀ char ∈ plain, isPlain char = true) (inhabited : 0 < count)
    (stops : rest.head? ≠ some '*') (run : Run) :
    run.Maximal (plain ++ List.replicate count '*' ++ rest) ↔
      run = ⟨plain.length, count⟩ ∨
        ∃ inner : Run, run = inner.shift (plain.length + count) ∧ inner.Maximal rest := by
  have unstarred : '*' ∉ plain := by
    intro mem
    have free := free '*' mem
    simp [isPlain] at free
  have apart : Run.Apart plain (List.replicate count '*' ++ rest) := by
    refine .inl fun last => unstarred ?_
    exact List.mem_of_getLast? last
  rw [List.append_assoc, Run.maximal_append_iff apart, or_iff_right (Run.not_maximal_of_plain unstarred)]
  simp only [Run.maximal_replicate_append_iff inhabited stops]
  constructor
  · rintro ⟨_, rfl, rfl | ⟨inner, rfl, maximal⟩⟩
    · exact .inl rfl
    · exact .inr ⟨inner, Run.shift_shift _ _ _, maximal⟩
  · rintro (rfl | ⟨inner, rfl, maximal⟩)
    · exact ⟨_, rfl, .inl rfl⟩
    · exact ⟨_, (Run.shift_shift _ _ _).symm, .inr ⟨inner, rfl, maximal⟩⟩

theorem head?_ne_of_longest
    (longest : ∀ longer, longer <+: plain ++ List.replicate count '*' ++ rest → IsGroup longer →
      longer.length ≤ (plain ++ List.replicate count '*').length)
    (free : ∀ char ∈ plain, isPlain char = true) : rest.head? ≠ some '*' := by
  intro more
  obtain ⟨after, rfl⟩ := List.head?_eq_some_iff.mp more
  have further : plain ++ List.replicate (count + 1) '*' <+:
      plain ++ List.replicate count '*' ++ '*' :: after :=
    ⟨after, by simp [List.replicate_succ']⟩
  have bound := longest _ further ⟨plain, count + 1, rfl, free, by omega⟩
  simp at bound

theorem longest_of_head?_ne (free : ∀ char ∈ plain, isPlain char = true) (inhabited : 0 < count)
    (stops : rest.head? ≠ some '*') {longer : List Char}
    (begins : longer <+: plain ++ List.replicate count '*' ++ rest) (group : IsGroup longer) :
    longer.length ≤ (plain ++ List.replicate count '*').length := by
  obtain ⟨before, asterisks, rfl, freeToo, inhabitedToo⟩ := group
  obtain ⟨after, same⟩ := begins
  obtain ⟨taken, dropped⟩ := takeWhile_group free inhabited rest
  obtain ⟨takenToo, droppedToo⟩ := takeWhile_group freeToo inhabitedToo after
  rw [same] at takenToo droppedToo
  obtain rfl : before = plain := takenToo.symm.trans taken
  have tails := dropped.symm.trans droppedToo
  by_contra exceeds
  simp only [List.length_append, List.length_replicate] at exceeds
  have here := congrArg (fun chars => chars[count]?) tails
  have behind := Run.getElem?_behind (List.replicate count '*') rest 0
  rw [List.length_replicate, Nat.add_zero, ← List.head?_eq_getElem?] at behind
  simp only [behind] at here
  rw [List.getElem?_append_left (by simp; omega), List.getElem?_replicate_of_lt (by omega)] at here
  exact stops here

theorem exists_group_iff :
    (∃ part, part <+: chars ∧ IsGroup part) ↔ ∃ after, chars.dropWhile isPlain = '*' :: after := by
  constructor
  · rintro ⟨_, ⟨rest, rfl⟩, plain, count, rfl, free, inhabited⟩
    rw [(takeWhile_group free inhabited rest).2]
    obtain ⟨less, rfl⟩ := Nat.exists_eq_add_of_lt inhabited
    exact ⟨_, rfl⟩
  · rintro ⟨after, found⟩
    refine ⟨chars.takeWhile isPlain ++ List.replicate 1 '*', ⟨after, ?_⟩, _, 1, rfl, ?_, by omega⟩
    · rw [List.append_assoc, List.replicate_one, List.singleton_append, ← found,
        List.takeWhile_append_dropWhile]
    · intro char mem
      exact List.mem_takeWhile_imp mem

theorem dropWhile_asterisks (stops : rest.head? ≠ some '*') :
    (List.replicate count '*' ++ rest).dropWhile (· == '*') = rest := by
  rw [List.dropWhile_append_of_pos (by simp +contextual)]
  cases rest with
  | nil => rfl
  | cons next rest =>
    have other : next ≠ '*' := by simpa using stops
    simp [other]

theorem exists_finds (place : Nat) (chars : List Char) :
    ∃ found, Finds place chars found ∧ found.length = groups chars := by
  fun_induction groups chars generalizing place with
  | case1 => exact ⟨[], .done, rfl⟩
  | case2 char rest after begins ih =>
    obtain ⟨count, behind, inhabited, same, stops⟩ := exists_leading_run after
    have dropped : after.dropWhile (· == '*') = behind :=
      calc
        _ = ('*' :: after).dropWhile (· == '*') := by simp
        _ = behind := by rw [same, dropWhile_asterisks stops]
    have free : ∀ one ∈ (char :: rest).takeWhile isPlain, isPlain one = true :=
      fun _ mem => List.mem_takeWhile_imp mem
    have whole : char :: rest =
        (char :: rest).takeWhile isPlain ++ List.replicate count '*' ++ behind := by
      rw [List.append_assoc, ← same, ← begins, List.takeWhile_append_dropWhile]
    rw [dropped] at ih ⊢
    obtain ⟨found, finds, counted⟩ := ih
      (place + ((char :: rest).takeWhile isPlain ++ List.replicate count '*').length)
    refine ⟨_ :: found, .group whole ⟨_, count, rfl, free, inhabited⟩ ?_ finds, by simp [counted]⟩
    intro longer prior group
    rw [whole] at prior
    exact longest_of_head?_ne free inhabited stops prior group
  | case3 char rest none ih =>
    obtain ⟨found, finds, counted⟩ := ih (place + 1)
    refine ⟨found, .pass ?_ finds, counted⟩
    intro part begins group
    obtain ⟨after, dropped⟩ := exists_group_iff.mp ⟨part, begins, group⟩
    exact none after dropped

namespace Finds

variable {place : Nat} {found other : List Group}

theorem unique (finds : Finds place chars found) (findsToo : Finds place chars other) :
    found = other := by
  induction finds generalizing other with
  | done =>
    cases findsToo with
    | done => rfl
    | group same group => exact absurd (List.append_eq_nil_iff.mp same.symm).1 group.ne_nil
  | group same group longest _ ih =>
    cases findsToo with
    | done => exact absurd (List.append_eq_nil_iff.mp same.symm).1 group.ne_nil
    | group sameToo groupToo longestToo more =>
      have lengths := Nat.le_antisymm (longestToo _ ⟨_, same.symm⟩ group)
        (longest _ ⟨_, sameToo.symm⟩ groupToo)
      obtain ⟨rfl, rfl⟩ := List.append_inj (same.symm.trans sameToo) lengths
      rw [ih more]
    | pass none => exact absurd group (none _ ⟨_, same.symm⟩)
  | pass none _ ih =>
    cases findsToo with
    | group same group => exact absurd group (none _ ⟨_, same.symm⟩)
    | pass _ more => exact ih more

/-- The asterisks of the groups are the runs of the text. -/
theorem mem_runs_iff (finds : Finds place chars found) (run : Run) :
    run ∈ found.map Group.run ↔ ∃ inner : Run, run = inner.shift place ∧ inner.Maximal chars := by
  induction finds generalizing run with
  | done => simp [Run.not_maximal_of_plain]
  | @group place chars part rest found same group longest _ ih =>
    subst same
    obtain ⟨plain, count, rfl, free, inhabited⟩ := group
    have stops := head?_ne_of_longest longest free
    rw [List.map_cons, List.mem_cons, run_group free inhabited, ih]
    simp only [maximal_group_iff free inhabited stops]
    constructor
    · rintro (rfl | ⟨inner, rfl, maximal⟩)
      · exact ⟨_, rfl, .inl rfl⟩
      · refine ⟨_, ?_, .inr ⟨inner, rfl, maximal⟩⟩
        simp [Run.shift_shift]
    · rintro ⟨_, rfl, rfl | ⟨inner, rfl, maximal⟩⟩
      · exact .inl rfl
      · refine .inr ⟨inner, ?_, maximal⟩
        simp [Run.shift_shift]
  | @pass place char rest found none _ ih =>
    have other : char ≠ '*' := by
      rintro rfl
      exact none ['*'] ⟨rest, rfl⟩ ⟨[], 1, rfl, by simp, by omega⟩
    rw [ih]
    simp only [Run.maximal_cons_iff other]
    constructor
    · rintro ⟨inner, rfl, maximal⟩
      exact ⟨_, (Run.shift_shift place 1 inner).symm, inner, rfl, maximal⟩
    · rintro ⟨_, rfl, inner, rfl, maximal⟩
      exact ⟨inner, Run.shift_shift place 1 inner, maximal⟩

/-- No two groups have the same asterisks: those of a later one lie behind it. -/
theorem nodup_runs (finds : Finds place chars found) : (found.map Group.run).Nodup := by
  induction finds with
  | done => exact List.nodup_nil
  | @group place chars part rest found same group longest more ih =>
    obtain ⟨plain, count, rfl, free, inhabited⟩ := group
    refine List.nodup_cons.mpr ⟨?_, ih⟩
    rw [run_group free inhabited, more.mem_runs_iff]
    rintro ⟨inner, same, -⟩
    have starts := congrArg Run.start same
    simp [Run.shift] at starts
    omega
  | pass _ _ ih => exact ih

end Finds

theorem encard_runs (chars : List Char) : {run : Run | run.Maximal chars}.encard = groups chars := by
  obtain ⟨found, finds, counted⟩ := exists_finds 0 chars
  have same : {run : Run | run.Maximal chars} = ↑(found.map Group.run).toFinset := by
    ext run
    rw [Set.mem_ofPred_eq, List.coe_toFinset, Set.mem_ofPred_eq, finds.mem_runs_iff]
    simp [Run.shift]
  rw [same, Set.encard_coe_eq_coe_finsetCard, List.toFinset_card_of_nodup finds.nodup_runs,
    List.length_map, counted]

structure WellFormed (chars : List Char) : Prop where
  length : 1 ≤ chars.length ∧ chars.length ≤ 1000
  slash : chars.head? = some '/'
  runs : ∀ run : Run, run.Maximal chars → run.length ≤ 3 ∧ run.Bounded chars
  few : {run : Run | run.Maximal chars}.encard ≤ 20

theorem isValidText_iff {text : String} : isValidText text = true ↔ WellFormed text.toList := by
  have inhabited : text.toList.isEmpty = false ↔ 1 ≤ text.toList.length := by
    cases text.toList <;> simp
  simp only [isValidText, Bool.and_eq_true, Bool.not_eq_true', decide_eq_true_iff, beq_iff_eq,
    inhabited, hasLongRun_eq_false_iff, onBoundaries_iff]
  constructor
  · rintro ⟨⟨⟨⟨⟨positive, short⟩, slash⟩, runs⟩, bounded⟩, few⟩
    refine ⟨⟨positive, short⟩, slash, fun run maximal => ⟨runs run maximal, bounded run maximal⟩, ?_⟩
    rw [encard_runs]
    exact_mod_cast few
  · rintro ⟨⟨positive, short⟩, slash, runs, few⟩
    rw [encard_runs] at few
    exact ⟨⟨⟨⟨⟨positive, short⟩, slash⟩, fun run maximal => (runs run maximal).1⟩,
      fun run maximal => (runs run maximal).2⟩, by exact_mod_cast few⟩

/-- A value is a valid pattern just if it is a text that is well formed. The search for groups that the
check counts by finds every maximal run of asterisks in exactly one group, in any text. -/
theorem isValid_iff_wellFormed :
    (∀ value : Value, isValid value = true ↔
      ∃ text, value.outline? = some text ∧ WellFormed text.toList) ∧
    ∀ chars : List Char, ∃ found, (∀ other, Finds 0 chars other ↔ other = found) ∧
      found.length = groups chars ∧ (found.map Group.run).Nodup ∧
      ∀ run : Run, run ∈ found.map Group.run ↔ run.Maximal chars := by
  constructor
  · intro value
    simp only [← isValidText_iff]
    cases value <;> simp [isValid, Value.outline?]
  · intro chars
    obtain ⟨found, finds, counted⟩ := exists_finds 0 chars
    refine ⟨found, fun other => ⟨fun findsToo => findsToo.unique finds, ?_⟩, counted,
      finds.nodup_runs, fun run => ?_⟩
    · rintro rfl
      exact finds
    · rw [finds.mem_runs_iff]
      simp [Run.shift]

end Gatekeeper.Pattern
