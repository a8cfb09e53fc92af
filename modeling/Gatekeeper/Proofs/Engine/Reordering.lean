import Gatekeeper.Proofs.Engine.Decision
import Gatekeeper.Proofs.Engine.Selection
import Gatekeeper.Proofs.Pattern.Subtree
import Gatekeeper.Proofs.Process.Watched
import Mathlib.Logic.Equiv.Fin.Rotate

/-! Rules in another order. Only the first rule that covers a path has a say on it, so two rules may
change places unless some path is covered by both. -/
namespace Gatekeeper

variable {rule one other : Rule} {rules before after : List Rule} {path : String} {count : Nat}

def Rule.Overlaps (one other : Rule) : Prop :=
  ∃ path, one.Covers path ∧ other.Covers path

def reorder (rules : List Rule) (place : Equiv.Perm (Fin rules.length)) : List Rule :=
  List.ofFn (rules.get ∘ place.symm)

def KeepsOverlaps (rules : List Rule) (place : Equiv.Perm (Fin rules.length)) : Prop :=
  ∀ i j, i < j → (rules.get i).Overlaps (rules.get j) → place i < place j

theorem governs_ofFn_iff {listed : Fin count → Rule} : rule.Governs (List.ofFn listed) path ↔
    ∃ i, listed i = rule ∧ rule.Covers path ∧ ∀ j < i, ¬ (listed j).Covers path := by
  constructor
  · rintro ⟨before, after, same, covers, first⟩
    have total : before.length + after.length + 1 = count := by
      simpa [Nat.add_assoc] using (congrArg List.length same).symm
    have placed : ∀ i : Fin count, (before ++ rule :: after)[i.val]? = some (listed i) := by
      intro i
      rw [← same, List.getElem?_ofFn, dif_pos i.isLt]
    refine ⟨⟨before.length, by omega⟩, ?_, covers, fun j earlier => first _ ?_⟩
    · simpa using (placed ⟨before.length, by omega⟩).symm
    · have inside : j.val < before.length := earlier
      rw [List.mem_iff_getElem?]
      exact ⟨j, by rw [← placed j, List.getElem?_append_left inside]⟩
  · rintro ⟨i, rfl, covers, first⟩
    refine ⟨(List.ofFn listed).take i, (List.ofFn listed).drop (i + 1), ?_, covers, fun rule mem => ?_⟩
    · have split := List.take_append_drop i (List.ofFn listed)
      rw [List.drop_eq_getElem_cons (by simp), List.getElem_ofFn] at split
      exact split.symm
    · obtain ⟨j, bound, rfl⟩ := List.mem_take_iff_getElem.mp mem
      rw [List.getElem_ofFn]
      exact first _ (Fin.lt_def.mpr (by dsimp only; omega))

section Places

variable {place : Equiv.Perm (Fin rules.length)}

theorem mem_reorder_iff : rule ∈ reorder rules place ↔ rule ∈ rules := by
  rw [reorder, List.mem_ofFn', place.symm.surjective.range_comp, Set.mem_range, List.mem_iff_get]

/-- The rule that has the say still has it: one that overlaps with it and came later still does. -/
theorem Rule.Governs.reorder (keeps : KeepsOverlaps rules place) (governs : rule.Governs rules path) :
    rule.Governs (reorder rules place) path := by
  rw [← List.ofFn_get rules, governs_ofFn_iff] at governs
  obtain ⟨i, rfl, covers, first⟩ := governs
  refine governs_ofFn_iff.mpr ⟨place i, by simp, covers, fun k earlier => ?_⟩
  obtain ⟨j, rfl⟩ := place.surjective k
  rw [Function.comp_apply, Equiv.symm_apply_apply]
  intro coversToo
  rcases lt_trichotomy i j with behind | rfl | ahead
  · exact earlier.asymm (keeps i j behind ⟨path, covers, coversToo⟩)
  · exact lt_irrefl _ earlier
  · exact first j ahead coversToo

theorem findRule_reorder (texts : ∀ rule ∈ rules, rule.pattern.IsText)
    (keeps : KeepsOverlaps rules place) : findRule (reorder rules place) path = findRule rules path := by
  have textsToo : ∀ rule ∈ reorder rules place, rule.pattern.IsText :=
    fun rule mem => texts rule (mem_reorder_iff.mp mem)
  by_cases covered : ∃ rule ∈ rules, rule.Covers path
  · obtain ⟨rule, governs⟩ := exists_governs covered
    rw [findRule_of_governs texts governs, findRule_of_governs textsToo (governs.reorder keeps)]
  · have misses : ∀ rule ∈ rules, ¬ rule.Covers path := by simpa using covered
    rw [findRule_of_not_covers texts misses,
      findRule_of_not_covers textsToo fun rule mem => misses rule (mem_reorder_iff.mp mem)]

theorem reorder_eq_nil_iff : reorder rules place = [] ↔ rules = [] := by
  simp [List.eq_nil_iff_forall_not_mem, mem_reorder_iff]

end Places

def swapped (before : List Rule) (one other : Rule) (after : List Rule) :
    Equiv.Perm (Fin (before ++ one :: other :: after).length) :=
  Equiv.swap ⟨before.length, by simp⟩ ⟨before.length + 1, by simp⟩

theorem reorder_swapped :
    reorder (before ++ one :: other :: after) (swapped before one other after) =
      before ++ other :: one :: after := by
  unfold reorder swapped
  refine List.ext_getElem (by simp; omega) fun i bound boundToo => ?_
  simp only [List.getElem_ofFn, Function.comp_apply, Equiv.symm_swap, Equiv.swap_apply_def, Fin.ext_iff,
    List.get_eq_getElem]
  split
  next here => simp [here]
  next =>
    split
    next here => simp [here]
    next => grind

theorem keepsOverlaps_swapped (disjoint : ¬ one.Overlaps other) :
    KeepsOverlaps (before ++ one :: other :: after) (swapped before one other after) := by
  intro i j earlier overlaps
  have apart : ¬ (i.val = before.length ∧ j.val = before.length + 1) := by
    rintro ⟨first, second⟩
    refine disjoint ?_
    simpa [first, second] using overlaps
  simp only [swapped, Equiv.swap_apply_def, Fin.ext_iff, Fin.lt_def, apply_ite Fin.val] at earlier ⊢
  split_ifs <;> omega

namespace Engine

open Process

variable {host : Host} {config : Config} {given : Option Value}

/-- Of the rules a decision only reads whether there are any and which one is found. -/
theorem decide_of_findRule_eq {listed : List Rule} (none : listed = [] ↔ rules = [])
    (found : findRule listed path = findRule rules path) :
    decide host (.done { config with protect := listed }) path given =
      decide host (.done { config with protect := rules }) path given := by
  have noneToo : listed.isEmpty = rules.isEmpty := by
    rw [Bool.eq_iff_iff, List.isEmpty_iff, List.isEmpty_iff, none]
  simp only [decide, bind_eq, done_bind, noneToo, found]

theorem decide_reorder {place : Equiv.Perm (Fin rules.length)}
    (texts : ∀ rule ∈ rules, rule.pattern.IsText) (keeps : KeepsOverlaps rules place) :
    decide host (.done { config with protect := reorder rules place }) path given =
      decide host (.done { config with protect := rules }) path given :=
  decide_of_findRule_eq reorder_eq_nil_iff (findRule_reorder texts keeps)

/-- The order of two rules matters only if they overlap. However the others are moved about, every path
is decided for every session by the same program, which asks the same of the host. In particular two
rules that stand next to one another may be swapped unless some path is covered by both. -/
theorem order_matters_between_overlapping (host : Host) (config : Config)
    (texts : ∀ rule ∈ config.protect, rule.pattern.IsText) :
    (∀ place, KeepsOverlaps config.protect place → ∀ path given,
      decide host (.done { config with protect := reorder config.protect place }) path given =
        decide host (.done config) path given) ∧
    ∀ before one other after, config.protect = before ++ one :: other :: after →
      ¬ one.Overlaps other → ∀ path given,
        decide host (.done { config with protect := before ++ other :: one :: after }) path given =
          decide host (.done config) path given := by
  refine ⟨fun place keeps path given => decide_reorder texts keeps, ?_⟩
  intro before one other after same disjoint path given
  rw [same] at texts
  rw [← reorder_swapped, decide_reorder texts (keepsOverlaps_swapped disjoint), ← same]

theorem starts_of_covers {pattern : String} {first second : Char} {list : List Pattern.Token}
    (given : rule.pattern = .str pattern)
    (read : Pattern.compile pattern = .literal first :: .literal second :: list)
    (covers : rule.Covers path) : ∃ rest, path.toList = first :: second :: rest := by
  obtain ⟨written, same, matched⟩ := covers
  rw [given] at same
  cases same
  rw [read] at matched
  obtain ⟨_, begins, matched⟩ := Pattern.mem_language_literal_cons.mp matched
  obtain ⟨rest, rfl, -⟩ := Pattern.mem_language_literal_cons.mp matched
  exact ⟨rest, begins⟩

def shopRule : Rule :=
  ⟨.permission, .str "/shop/**", .str "buy", .null⟩

def helpRule : Rule :=
  ⟨.role, .str "/admin/help", .str "clerk", .null⟩

/-- The shop may be moved behind both rules of the staff's area, of which the narrower one stays first;
and it may be swapped with the first of them. -/
theorem shop_moved_behind :
    let host : Host := .answering (.str "clerk")
    let config : Config := { protect := [shopRule, helpRule, staffRule] }
    let place : Equiv.Perm (Fin config.protect.length) := (finRotate 3).symm
    (∀ rule ∈ config.protect, rule.pattern.IsText) ∧ KeepsOverlaps config.protect place ∧
      decide host (.done { protect := [helpRule, staffRule, shopRule] }) "/admin/help" none =
        decide host (.done config) "/admin/help" none ∧
      ¬ shopRule.Overlaps helpRule ∧
      decide host (.done { protect := [helpRule, shopRule, staffRule] }) "/admin/help" none =
        decide host (.done config) "/admin/help" none := by
  intro host config place
  have texts : ∀ rule ∈ config.protect, rule.pattern.IsText := by
    simp [config, shopRule, helpRule, staffRule, Value.IsText, Value.letters?]
  have inShop : ∀ path, shopRule.Covers path → ∃ rest, path.toList = '/' :: 's' :: rest :=
    fun path => starts_of_covers rfl (by rfl)
  have inHelp : ∀ path, helpRule.Covers path → ∃ rest, path.toList = '/' :: 'a' :: rest :=
    fun path => starts_of_covers rfl (by rfl)
  have inStaff : ∀ path, staffRule.Covers path → ∃ rest, path.toList = '/' :: 'a' :: rest :=
    fun path => starts_of_covers rfl (by rfl)
  have elsewhere : ∀ rule : Rule,
      (∀ path, rule.Covers path → ∃ rest, path.toList = '/' :: 'a' :: rest) →
        ¬ shopRule.Overlaps rule := by
    rintro rule inside ⟨path, shop, covers⟩
    obtain ⟨_, begins⟩ := inShop path shop
    obtain ⟨_, same⟩ := inside path covers
    simp [begins] at same
  have keeps : KeepsOverlaps config.protect place := by
    intro i j earlier overlaps
    by_contra crossed
    have first : ∀ i j : Fin 3, i < j → ¬ (finRotate 3).symm i < (finRotate 3).symm j →
        i = 0 ∧ (j = 1 ∨ j = 2) := by decide
    obtain ⟨rfl, rfl | rfl⟩ := first i j earlier crossed
    · exact elsewhere _ inHelp overlaps
    · exact elsewhere _ inStaff overlaps
  obtain ⟨moved, swap⟩ := order_matters_between_overlapping host config texts
  exact ⟨texts, keeps, moved place keeps _ _, elsewhere _ inHelp,
    swap [] _ _ _ rfl (elsewhere _ inHelp) _ _⟩

end Engine

end Gatekeeper
