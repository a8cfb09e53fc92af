import Gatekeeper.Proofs.Rule.Reading

/-! What can be wrong with an element of the list of rules. Some questions come before it is known which
rule the element stands for, and the others are about that rule; the first one that is not answered well
is named. -/
namespace Gatekeeper

/-- The first check of a list that is violated, and the fault that it is violated by. -/
inductive First {α β : Type} (violates : α → β → Prop) : List α → β → Prop
  | here {check : α} {rest : List α} {fault : β} :
      violates check fault → First violates (check :: rest) fault
  | later {check : α} {rest : List α} {fault : β} :
      (∀ other, ¬ violates check other) → First violates rest fault →
      First violates (check :: rest) fault

namespace First

variable {α β γ : Type} {violates : α → β → Prop} {list more : List α} {fault other : β}

theorem append_left (first : First violates list fault) : First violates (list ++ more) fault := by
  induction first with
  | here violated => exact .here violated
  | later passed _ ih => exact .later passed ih

theorem append_right (passed : ∀ check ∈ list, ∀ fault, ¬ violates check fault)
    (first : First violates more fault) : First violates (list ++ more) fault := by
  induction list with
  | nil => exact first
  | cons check rest ih =>
    refine .later (passed check (by simp)) (ih fun one mem => ?_)
    exact passed one (List.mem_cons_of_mem _ mem)

theorem map {inner : γ → β → Prop} {f : γ → α} {list : List γ}
    (same : ∀ check fault, violates (f check) fault ↔ inner check fault)
    (first : First inner list fault) : First violates (list.map f) fault := by
  induction first with
  | here violated => exact .here ((same _ _).mpr violated)
  | later passed _ ih => exact .later (fun other => mt (same _ other).mp (passed other)) ih

theorem exists_mem (first : First violates list fault) : ∃ check ∈ list, violates check fault := by
  induction first with
  | here violated => exact ⟨_, by simp, violated⟩
  | later _ _ ih =>
    obtain ⟨check, mem, violated⟩ := ih
    exact ⟨check, List.mem_cons_of_mem _ mem, violated⟩

theorem unique (functional : ∀ check fault other, violates check fault → violates check other →
      fault = other) (first : First violates list fault) (firstToo : First violates list other) :
    fault = other := by
  induction first with
  | here violated =>
    cases firstToo with
    | here violatedToo => exact functional _ _ _ violated violatedToo
    | later passed => exact absurd violated (passed _)
  | later passed _ ih =>
    cases firstToo with
    | here violated => exact absurd violated (passed _)
    | later _ more => exact ih more

end First

variable {value item : Value} {kind : RuleKind} {rule : Rule}

def Value.IsName (value : Value) : Prop :=
  value.IsText ∧ ∀ text, value = .str text → ∃ char ∈ text.toList, Text.isBlank char = false

def RuleKind.Accepts : RuleKind → Value → Prop
  | .role, value | .permission, value => value.IsName
  | .roles, value | .permissions, value =>
    ∃ items, value = .tuple items ∧ ∀ item ∈ items, item.IsName
  | .allow, value => Rule.isCallable value = true
  | .unrestricted, _ => True

theorem Rule.isName_iff : Rule.isName value = true ↔ value.IsName := by
  cases value with
  | str text => simp [isName, Value.IsName, Value.IsText, Value.letters?, Text.hasInk]
  | torn letters => simp [isName, Value.IsName, Value.IsText, Value.letters?]
  | _ => simp [isName, Value.IsName, Value.IsText, Value.letters?]

theorem Rule.admits_iff : Rule.admits kind value = true ↔ kind.Accepts value := by
  have names : Rule.isNames value = true ↔
      ∃ items, value = .tuple items ∧ ∀ item ∈ items, item.IsName := by
    cases value <;> simp [isNames, isName_iff]
  cases kind with
  | role | permission => exact isName_iff
  | roles | permissions => exact names
  | allow => exact Iff.rfl
  | unrestricted => exact ⟨fun _ => trivial, fun _ => rfl⟩

namespace Rule

/-- What is asked of one element of the list of rules, in this order. -/
inductive Stage where
  | shape
  | kind
  | presence
  | pattern
  | target
  | requirement

def Stage.all : List Stage :=
  [.shape, .kind, .presence, .pattern, .target, .requirement]

/-- How an element can fail. From the pattern on it is the rule that the element stands for that
fails. -/
inductive Flawed (item : Value) : Stage → ConfigFault → Prop
  | shape : (∀ rule : Rule, item ≠ rule.toValue) → (∀ entries, item.opened ≠ .table entries) →
      Flawed item .shape (.notTable item)
  | kind {entries : Table} : item.opened = .table entries → (∀ kind, ¬ Table.Names entries kind) →
      Flawed item .kind (.ambiguous ((Table.field entries "pattern").getD .null)
        (RuleKind.all.filter fun kind => (Table.field entries kind.field).isSome))
  | presence {entries : Table} : item.opened = .table entries →
      Table.field entries "pattern" = none → Flawed item .presence .missingPattern
  | pattern {rule : Rule} : StandsFor item rule → Pattern.isValid rule.pattern = false →
      Flawed item .pattern (.pattern rule.pattern)
  | target {rule : Rule} : StandsFor item rule → rule.redirectTo ≠ .null →
      Redirect.isValid rule.redirectTo = false → Flawed item .target (.redirect rule.redirectTo)
  | requirement {rule : Rule} : StandsFor item rule → ¬ rule.kind.Accepts rule.requirement →
      Flawed item .requirement (.requirement rule.kind rule.requirement rule.pattern)

theorem Flawed.unique {stage : Stage} {fault other : ConfigFault} (flawed : Flawed item stage fault)
    (flawedToo : Flawed item stage other) : fault = other := by
  cases flawed with
  | shape | presence =>
    cases flawedToo
    rfl
  | kind table =>
    cases flawedToo with
    | kind tableToo =>
      cases table.symm.trans tableToo
      rfl
  | pattern stands =>
    cases flawedToo with
    | pattern standsToo => rw [stands.unique standsToo]
  | target stands =>
    cases flawedToo with
    | target standsToo => rw [stands.unique standsToo]
  | requirement stands =>
    cases flawedToo with
    | requirement standsToo => rw [stands.unique standsToo]

theorem StandsFor.legible (stands : StandsFor item rule) (fault : ConfigFault) :
    ¬ Flawed item .shape fault ∧ ¬ Flawed item .kind fault ∧ ¬ Flawed item .presence fault := by
  cases stands with
  | itself rule =>
    refine ⟨?_, ?_, ?_⟩ <;> intro flawed
    · cases flawed with
      | shape notRule _ => exact notRule rule rfl
    · cases flawed with
      | kind opens _ => cases opens
    · cases flawed with
      | presence opens _ => cases opens
  | table opens names route =>
    refine ⟨?_, ?_, ?_⟩ <;> intro flawed
    · cases flawed with
      | shape _ notTable => exact notTable _ opens
    · cases flawed with
      | kind opensToo ambiguous =>
        cases opens.symm.trans opensToo
        exact ambiguous _ names
    · cases flawed with
      | presence opensToo missing =>
        cases opens.symm.trans opensToo
        rw [missing] at route
        cases route

theorem Valid.flawless (valid : rule.Valid) (stands : StandsFor item rule) (stage : Stage)
    (fault : ConfigFault) : ¬ Flawed item stage fault := by
  intro flawed
  obtain ⟨shape, kind, presence⟩ := stands.legible fault
  cases flawed with
  | shape notRule notTable => exact shape (.shape notRule notTable)
  | kind table ambiguous => exact kind (.kind table ambiguous)
  | presence table missing => exact presence (.presence table missing)
  | pattern standsToo invalid =>
    cases standsToo.unique stands
    simp [valid.pattern] at invalid
  | target standsToo given invalid =>
    cases standsToo.unique stands
    rcases valid.redirectTo with absent | target
    · exact given absent
    · simp [target] at invalid
  | requirement standsToo refused =>
    cases standsToo.unique stands
    exact refused (admits_iff.mp valid.requirement)

theorem read_cases (item : Value) : (∃ rule, StandsFor item rule) ∨
    ∃ found, read item = .error (.config found) ∧ First (Flawed item) Stage.all found := by
  by_cases isRule : ∃ rule : Rule, item = rule.toValue
  · obtain ⟨rule, rfl⟩ := isRule
    exact .inl ⟨rule, .itself rule⟩
  have notRule := not_exists.mp isRule
  have notShape : ∀ {entries}, item.opened = .table entries → ∀ fault,
      ¬ Flawed item .shape fault := by
    intro entries opens fault flawed
    cases flawed with
    | shape _ notTable => exact notTable entries opens
  by_cases opens : ∃ entries, item.opened = .table entries
  · obtain ⟨entries, opens⟩ := opens
    rw [read_of_opened opens]
    by_cases named : ∃ kind, Table.Names entries kind
    · obtain ⟨kind, names⟩ := named
      have notKind : ∀ fault, ¬ Flawed item .kind fault := by
        intro fault flawed
        cases flawed with
        | kind opensToo ambiguous =>
          cases opens.symm.trans opensToo
          exact ambiguous kind names
      obtain ⟨requirement, asked⟩ := names.exists_requirement
      cases route : Table.field entries "pattern" with
      | none =>
        refine .inr ⟨_, ofTable_of_no_pattern names route, ?_⟩
        exact .later (notShape opens) (.later notKind (.here (.presence opens route)))
      | some pattern => exact .inl ⟨_, .table opens names route asked⟩
    · have ambiguous := not_exists.mp named
      refine .inr ⟨_, ofTable_of_not_names ambiguous, ?_⟩
      exact .later (notShape opens) (.here (.kind opens ambiguous))
  · have notTable := not_exists.mp opens
    refine .inr ⟨.notTable item, ?_, .here (.shape notRule notTable)⟩
    cases item with
    | rule kind pattern requirement target => exact absurd rfl (notRule ⟨kind, pattern, requirement, target⟩)
    | _ => exact ofValue_of_not_table notTable

theorem validate_cases (rule : Rule) : rule.Valid ∨
    ∃ found, rule.validate = .error (.config found) ∧
      ∀ item, StandsFor item rule → First (Flawed item) [.pattern, .target, .requirement] found := by
  by_cases pattern : Pattern.isValid rule.pattern = true
  · have notPattern : ∀ item, StandsFor item rule → ∀ fault, ¬ Flawed item .pattern fault := by
      intro item stands fault flawed
      cases flawed with
      | pattern standsToo invalid =>
        cases standsToo.unique stands
        simp [pattern] at invalid
    by_cases target : rule.redirectTo = .null ∨ Redirect.isValid rule.redirectTo = true
    · have notTarget : ∀ item, StandsFor item rule → ∀ fault, ¬ Flawed item .target fault := by
        intro item stands fault flawed
        cases flawed with
        | target standsToo given invalid =>
          cases standsToo.unique stands
          exact target.elim given (by simp [invalid])
      by_cases requirement : Rule.admits rule.kind rule.requirement = true
      · exact .inl ⟨pattern, target, requirement⟩
      · refine .inr ⟨.requirement rule.kind rule.requirement rule.pattern, ?_, fun item stands => ?_⟩
        · have passed : (!rule.redirectTo.isNull && !Redirect.isValid rule.redirectTo) = false := by
            rcases target with absent | valid
            · simp [absent]
            · simp [valid]
          simp [validate, fault?, pattern, passed, requirement]
        · refine .later (notPattern item stands) (.later (notTarget item stands) (.here ?_))
          exact .requirement stands (mt admits_iff.mpr requirement)
    · obtain ⟨given, invalid⟩ := not_or.mp target
      refine .inr ⟨.redirect rule.redirectTo, ?_, fun item stands => ?_⟩
      · simp [validate, fault?, pattern, given, invalid]
      · exact .later (notPattern item stands)
          (.here (.target stands given (by simpa using invalid)))
  · refine .inr ⟨.pattern rule.pattern, ?_, fun item stands => ?_⟩
    · simp [validate, fault?, pattern]
    · exact .here (.pattern stands (by simpa using pattern))

end Rule

end Gatekeeper
