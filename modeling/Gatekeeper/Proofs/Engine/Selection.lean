import Gatekeeper.Engine
import Gatekeeper.Proofs.Pattern.Language
import Gatekeeper.Proofs.Value

/-! Which rule has the say on a path: the first one, in the order of the configuration, whose
pattern has the path in its language. -/
namespace Gatekeeper

variable {rule : Rule} {rules : List Rule} {path : String}

/-- The path is in the language of the rule's pattern. No path has halves of characters, so a
pattern with such a half covers none. -/
def Rule.Covers (rule : Rule) (path : String) : Prop :=
  ∃ pattern, rule.pattern = .str pattern ∧
    path.toList ∈ Pattern.language (Pattern.compile pattern)

def Rule.Governs (rule : Rule) (rules : List Rule) (path : String) : Prop :=
  ∃ before after, rules = before ++ rule :: after ∧ rule.Covers path ∧
    ∀ other ∈ before, ¬ other.Covers path

theorem Rule.Governs.mem (governs : rule.Governs rules path) : rule ∈ rules := by
  obtain ⟨before, after, rfl, -⟩ := governs
  simp

theorem exists_governs (covered : ∃ rule ∈ rules, rule.Covers path) :
    ∃ rule : Rule, rule.Governs rules path := by
  induction rules with
  | nil => simp at covered
  | cons first rest ih =>
    by_cases covers : first.Covers path
    · exact ⟨first, [], rest, rfl, covers, by simp⟩
    · obtain ⟨rule, before, after, rfl, found, misses⟩ := ih (by simpa [covers] using covered)
      exact ⟨rule, first :: before, after, rfl, found, by simpa [covers] using misses⟩

theorem matchValue_eq_ok (isText : rule.pattern.IsText) (path : String) :
    ∃ covers, matchValue rule.pattern path = .ok covers ∧ (covers = true ↔ rule.Covers path) := by
  rcases Value.isText_iff.mp isText with ⟨text, given⟩ | ⟨letters, given⟩
  · refine ⟨Pattern.accepts text path, by rw [given]; rfl, ?_⟩
    rw [Pattern.accepts, Pattern.reads_start_iff]
    simp [Rule.Covers, given]
  · exact ⟨false, by rw [given]; rfl, by simp [Rule.Covers, given]⟩

theorem findRule_cons_of_covers {rest : List Rule} (isText : rule.pattern.IsText)
    (covers : rule.Covers path) : findRule (rule :: rest) path = .ok (some rule) := by
  obtain ⟨found, same, iff⟩ := matchValue_eq_ok isText path
  obtain rfl := iff.mpr covers
  simp [findRule, same, bind, Except.bind, pure, Except.pure]

theorem findRule_cons_of_not_covers {rest : List Rule} (isText : rule.pattern.IsText)
    (misses : ¬ rule.Covers path) : findRule (rule :: rest) path = findRule rest path := by
  obtain ⟨found, same, iff⟩ := matchValue_eq_ok isText path
  obtain rfl : found = false := by simpa [misses] using iff
  simp [findRule, same, bind, Except.bind]

theorem findRule_of_governs (texts : ∀ rule ∈ rules, rule.pattern.IsText)
    (governs : rule.Governs rules path) : findRule rules path = .ok (some rule) := by
  obtain ⟨before, after, rfl, covers, first⟩ := governs
  induction before with
  | nil => exact findRule_cons_of_covers (texts rule (by simp)) covers
  | cons other rest ih =>
    rw [List.cons_append,
      findRule_cons_of_not_covers (texts other (by simp)) (first other (by simp))]
    exact ih (fun one mem => texts one (List.mem_cons_of_mem _ mem))
      fun one mem => first one (List.mem_cons_of_mem _ mem)

theorem findRule_of_not_covers (texts : ∀ rule ∈ rules, rule.pattern.IsText)
    (misses : ∀ rule ∈ rules, ¬ rule.Covers path) : findRule rules path = .ok none := by
  induction rules with
  | nil => rfl
  | cons rule rest ih =>
    rw [findRule_cons_of_not_covers (texts rule (by simp)) (misses rule (by simp))]
    exact ih (fun one mem => texts one (List.mem_cons_of_mem _ mem))
      fun one mem => misses one (List.mem_cons_of_mem _ mem)

def staffRule : Rule :=
  ⟨.roles, .str "/admin/**", .tuple [.str "admin", .str "owner"], .null⟩

theorem staffRule_governs : staffRule.Governs [staffRule] "/admin/users" := by
  have isText : staffRule.pattern.IsText := rfl
  refine ⟨[], [], rfl, ?_, by simp⟩
  obtain ⟨covers, same, iff⟩ := matchValue_eq_ok isText "/admin/users"
  have accepts : matchValue staffRule.pattern "/admin/users" = .ok true := by cbv
  exact iff.mp (Except.ok.inj (same.symm.trans accepts))

def staffSession : Value :=
  .table [(.str "user_id", .str "u1")]

end Gatekeeper
