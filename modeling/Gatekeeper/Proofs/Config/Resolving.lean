import Gatekeeper.Proofs.Rule.Flaws
import Gatekeeper.Proofs.Value.Text

/-! Which settings are accepted, and of those that are not, what is reported. The checks are made one
after the other, and the first that is violated is named. -/
namespace Gatekeeper

namespace Fault

variable {stack : Value.Stack} {found : ConfigFault} {report : Report} {reason : Value.Unwritable}

theorem report?_config_eq_some_iff :
    (Fault.config found).report? stack = some report ↔ found.report stack = .ok report := by
  cases told : found.report stack <;> simp [report?, told, Except.toOption]

theorem report?_of_unwritten (unwritten : found.message stack = .error reason) :
    (Fault.config found).report? stack = none := by
  simp [report?, ConfigFault.report, unwritten, Except.toOption]

theorem raisedWith_of_unwritten (unwritten : found.message stack = .error reason) :
    (Fault.config found).raisedWith stack = ofUnwritable reason := by
  simp [raisedWith, unwritten]

end Fault

variable {item : Value} {settings : Settings} {items : List Value}

namespace Settings

theorem resolveRule_cases (item : Value) :
    (∃ rule, resolveRule item = .ok rule ∧ Rule.StandsFor item rule ∧ rule.Valid) ∨
    ∃ found, resolveRule item = .error (.config found) ∧
      First (Rule.Flawed item) Rule.Stage.all found := by
  rcases Rule.read_cases item with ⟨rule, stands⟩ | ⟨found, refused, first⟩
  · have readAs := Rule.read_eq_ok_iff.mpr stands
    rcases rule.validate_cases with valid | ⟨found, refused, first⟩
    · exact .inl ⟨rule, resolveRule_of_read readAs valid, stands, valid⟩
    · refine .inr ⟨found, ?_, ?_⟩
      · rw [resolveRule_eq, readAs]
        change (rule.validate >>= fun _ => Except.ok rule) = _
        rw [refused]
        rfl
      · have early : ∀ stage ∈ [Rule.Stage.shape, .kind, .presence], ∀ fault,
            ¬ Rule.Flawed item stage fault := by
          intro stage mem fault
          obtain ⟨shape, kind, presence⟩ := stands.legible fault
          simp only [List.mem_cons, List.not_mem_nil, or_false] at mem
          rcases mem with rfl | rfl | rfl <;> assumption
        exact First.append_right early (first item stands)
  · rw [resolveRule_eq, refused]
    exact .inr ⟨found, rfl, first⟩

/-- The checks of settings with these elements in their list of rules, in order. -/
inductive Check where
  | login
  | element (item : Value) (stage : Rule.Stage)
  | pair

def checks (items : List Value) : List Check :=
  .login :: (items.flatMap fun item => Rule.Stage.all.map (.element item)) ++ [.pair]

inductive Violates (settings : Settings) : Check → ConfigFault → Prop
  | login : Redirect.isValid settings.loginPath = false →
      Violates settings .login (.loginPath settings.loginPath)
  | element {item : Value} {stage : Rule.Stage} {fault : ConfigFault} :
      Rule.Flawed item stage fault → Violates settings (.element item stage) fault
  | pair : ¬ (settings.getContext = .null ↔ settings.setContext = .null) →
      Violates settings .pair .unpaired

theorem Violates.unique {check : Check} {fault other : ConfigFault}
    (violated : settings.Violates check fault) (violatedToo : settings.Violates check other) :
    fault = other := by
  cases violated with
  | login =>
    cases violatedToo
    rfl
  | element flawed =>
    cases violatedToo with
    | element flawedToo => exact flawed.unique flawedToo
  | pair =>
    cases violatedToo
    rfl

def accepted (settings : Settings) (rules : List Rule) : Config where
  loginPath := settings.loginPath
  protect := rules
  access := settings.access.orElse defaultHooks
  runner := settings.runner
  getContext := settings.getContext
  setContext := settings.setContext

theorem resolve_eq (listed : settings.protect.items = .ok items) :
    settings.resolve =
      if Redirect.isValid settings.loginPath = true then
        items.mapM resolveRule >>= fun rules =>
          if settings.getContext.isNull = settings.setContext.isNull then .ok (settings.accepted rules)
          else .error (.config .unpaired)
      else .error (.config (.loginPath settings.loginPath)) := by
  unfold resolve
  rw [listed]
  cases Redirect.isValid settings.loginPath with
  | false => rfl
  | true =>
    simp only [bind, Except.bind, pure, Except.pure, throw, throwThe, MonadExceptOf.throw, if_true,
      Bool.not_true, Bool.false_eq_true, if_false]
    cases items.mapM resolveRule with
    | error fault => rfl
    | ok rules =>
      by_cases paired : settings.getContext.isNull = settings.setContext.isNull
      · simp only [paired, bne_self_eq_false, Bool.false_eq_true, if_false, if_true]
        rfl
      · have apart : (settings.getContext.isNull != settings.setContext.isNull) = true := by
          simpa using paired
        simp only [paired, apart, if_true, if_false]

theorem resolve_eq_ok_iff {config : Config} (listed : settings.protect.items = .ok items) :
    settings.resolve = .ok config ↔ Redirect.isValid settings.loginPath = true ∧
      settings.getContext.isNull = settings.setContext.isNull ∧
      ∃ rules, items.mapM resolveRule = .ok rules ∧ config = settings.accepted rules := by
  rw [resolve_eq listed]
  constructor
  · intro resolved
    split at resolved
    next login =>
      obtain ⟨rules, traversed, rest⟩ := bind_eq_ok_iff.mp resolved
      split at rest
      next paired =>
        cases rest
        exact ⟨login, paired, rules, traversed, rfl⟩
      next => cases rest
    next => cases resolved
  · rintro ⟨login, paired, rules, traversed, rfl⟩
    rw [if_pos login, traversed]
    exact if_pos paired

theorem violates_element_iff {stage : Rule.Stage} {fault : ConfigFault} :
    settings.Violates (.element item stage) fault ↔ Rule.Flawed item stage fault := by
  constructor
  · rintro ⟨⟩
    assumption
  · exact .element

theorem exists_of_forall₂ {α β : Type} {R : α → β → Prop} {list : List α} {images : List β}
    (related : List.Forall₂ R list images) : ∀ a ∈ list, ∃ b, R a b := by
  induction related with
  | nil => simp
  | cons here _ ih =>
    intro a mem
    rcases List.mem_cons.mp mem with rfl | later
    · exact ⟨_, here⟩
    · exact ih a later

theorem passes_of_stand (settings : Settings) {rules : List Rule}
    (stand : List.Forall₂ (fun item rule => Rule.StandsFor item rule ∧ rule.Valid) items rules) :
    ∀ check ∈ items.flatMap (fun item => Rule.Stage.all.map (.element item)), ∀ fault,
      ¬ settings.Violates check fault := by
  intro check mem fault violated
  obtain ⟨item, here, staged⟩ := List.mem_flatMap.mp mem
  obtain ⟨stage, -, rfl⟩ := List.mem_map.mp staged
  obtain ⟨rule, stands, valid⟩ := exists_of_forall₂ stand item here
  exact valid.flawless stands stage fault (violates_element_iff.mp violated)

theorem mapM_cases (settings : Settings) (items : List Value) :
    (∃ rules, items.mapM resolveRule = .ok rules ∧
      List.Forall₂ (fun item rule => Rule.StandsFor item rule ∧ rule.Valid) items rules) ∨
    ∃ found, items.mapM resolveRule = .error (.config found) ∧
      First settings.Violates (items.flatMap fun item => Rule.Stage.all.map (.element item)) found := by
  induction items with
  | nil => exact .inl ⟨[], rfl, .nil⟩
  | cons item rest ih =>
    rw [List.mapM_cons, List.flatMap_cons]
    rcases resolveRule_cases item with ⟨rule, resolved, stands, valid⟩ | ⟨found, refused, first⟩
    · rw [resolved]
      rcases ih with ⟨rules, resolved, stand⟩ | ⟨found, refused, first⟩
      · rw [resolved]
        exact .inl ⟨rule :: rules, rfl, .cons ⟨stands, valid⟩ stand⟩
      · rw [refused]
        refine .inr ⟨found, rfl, First.append_right ?_ first⟩
        intro check mem fault violated
        obtain ⟨stage, -, rfl⟩ := List.mem_map.mp mem
        exact valid.flawless stands stage fault (violates_element_iff.mp violated)
    · rw [refused]
      refine .inr ⟨found, rfl, First.append_left (First.map ?_ first)⟩
      exact fun _ _ => violates_element_iff

theorem resolve_cases (listed : settings.protect.items = .ok items) :
    (∃ rules, settings.resolve = .ok (settings.accepted rules) ∧
      Redirect.isValid settings.loginPath = true ∧
      List.Forall₂ (fun item rule => Rule.StandsFor item rule ∧ rule.Valid) items rules ∧
      (settings.getContext = .null ↔ settings.setContext = .null)) ∨
    ∃ found, settings.resolve = .error (.config found) ∧
      First settings.Violates (checks items) found := by
  rw [resolve_eq listed]
  unfold checks
  by_cases login : Redirect.isValid settings.loginPath = true
  · have notLogin : ∀ fault, ¬ settings.Violates .login fault := by
      rintro fault ⟨invalid⟩
      simp [login] at invalid
    rw [if_pos login]
    rcases mapM_cases settings items with ⟨rules, resolved, stand⟩ | ⟨found, refused, first⟩
    · have pair : settings.getContext.isNull = settings.setContext.isNull ↔
          (settings.getContext = .null ↔ settings.setContext = .null) := by
        rw [Bool.eq_iff_iff, Value.isNull_iff, Value.isNull_iff]
      simp only [resolved, bind, Except.bind]
      by_cases paired : settings.getContext = .null ↔ settings.setContext = .null
      · rw [if_pos (pair.mpr paired)]
        exact .inl ⟨rules, rfl, login, stand, paired⟩
      · rw [if_neg (mt pair.mp paired)]
        refine .inr ⟨_, rfl, .later notLogin (First.append_right ?_ (.here (.pair paired)))⟩
        exact passes_of_stand settings stand
    · rw [refused]
      exact .inr ⟨found, rfl, .later notLogin (First.append_left first)⟩
  · rw [if_neg login]
    exact .inr ⟨_, rfl, .here (.login (by simpa using login))⟩

structure WellFormed (settings : Settings) (items : List Value) : Prop where
  login : Redirect.isValid settings.loginPath = true
  rules : ∀ item ∈ items, ∃ rule, Rule.StandsFor item rule ∧
    Pattern.isValid rule.pattern = true ∧
    (rule.redirectTo = .null ∨ Redirect.isValid rule.redirectTo = true) ∧
    rule.kind.Accepts rule.requirement
  paired : settings.getContext = .null ↔ settings.setContext = .null

theorem WellFormed.passes (wellFormed : settings.WellFormed items) :
    ∀ check ∈ checks items, ∀ fault, ¬ settings.Violates check fault := by
  intro check mem fault violated
  cases violated with
  | login invalid => simp [wellFormed.login] at invalid
  | @element item stage _ flawed =>
    have here : item ∈ items ∧ stage ∈ Rule.Stage.all := by simpa [checks] using mem
    obtain ⟨rule, stands, pattern, target, accepted⟩ := wellFormed.rules item here.1
    have valid : rule.Valid := ⟨pattern, target, Rule.admits_iff.mpr accepted⟩
    exact valid.flawless stands stage fault flawed
  | pair unpaired => exact unpaired wellFormed.paired

/-- Settings are accepted just if they are well formed, and then each element of the list has become the
rule that it stands for. Otherwise the fault is that of the first check that is violated. Its report
reaches the host just if all that the message shows can be written with the stack that is left, whatever
that is; else the host is told why it cannot. -/
theorem resolve_names_first_violation (settings : Settings) (items : List Value)
    (listed : settings.protect.items = .ok items) :
    ((∃ config, settings.resolve = .ok config) ↔ settings.WellFormed items) ∧
    (∀ config, settings.resolve = .ok config →
      List.Forall₂ Rule.StandsFor items config.protect ∧
        config = settings.accepted config.protect) ∧
    (∀ fault, settings.resolve = .error fault ↔
      ∃ found, fault = .config found ∧ First settings.Violates (checks items) found) ∧
    ∀ stack found, First settings.Violates (checks items) found →
      (∀ report, (∃ fault, settings.resolve = .error fault ∧ fault.report? stack = some report) ↔
        found.report stack = .ok report) ∧
      ((∃ report, found.report stack = .ok report) ↔ ∀ note ∈ found.notes, stack.Bears note) ∧
      ∀ reason, found.message stack = .error reason → ∃ fault, settings.resolve = .error fault ∧
        fault.report? stack = none ∧ fault.raisedWith stack = .ofUnwritable reason := by
  have unique : ∀ {found other}, First settings.Violates (checks items) found →
      First settings.Violates (checks items) other → found = other :=
    First.unique fun _ _ _ => Violates.unique
  rcases resolve_cases listed with ⟨rules, resolved, login, stand, paired⟩ | ⟨found, refused, first⟩
  · have wellFormed : settings.WellFormed items := by
      refine ⟨login, fun item mem => ?_, paired⟩
      obtain ⟨rule, stands, valid⟩ := exists_of_forall₂ stand item mem
      exact ⟨rule, stands, valid.pattern, valid.redirectTo, Rule.admits_iff.mp valid.requirement⟩
    have unviolated : ∀ found, ¬ First settings.Violates (checks items) found := by
      intro found first
      obtain ⟨check, mem, violated⟩ := first.exists_mem
      exact wellFormed.passes check mem found violated
    rw [resolved]
    refine ⟨⟨fun _ => wellFormed, fun _ => ⟨_, rfl⟩⟩, ?_, fun fault => ⟨?_, ?_⟩, ?_⟩
    · rintro _ ⟨⟩
      exact ⟨stand.imp fun _ _ both => both.1, rfl⟩
    · rintro ⟨⟩
    · rintro ⟨found, -, first⟩
      exact absurd first (unviolated found)
    · intro stack found first
      exact absurd first (unviolated found)
  · rw [refused]
    refine ⟨⟨?_, fun wellFormed => ?_⟩, ?_, fun fault => ⟨?_, ?_⟩, fun stack other firstToo => ?_⟩
    · rintro ⟨_, ⟨⟩⟩
    · obtain ⟨check, mem, violated⟩ := first.exists_mem
      exact absurd violated (wellFormed.passes check mem found)
    · rintro _ ⟨⟩
    · rintro ⟨⟩
      exact ⟨found, rfl, first⟩
    · rintro ⟨other, rfl, firstToo⟩
      rw [unique first firstToo]
    · cases unique first firstToo
      refine ⟨fun report => ⟨?_, fun written => ⟨_, rfl, Fault.report?_config_eq_some_iff.mpr written⟩⟩,
        ConfigFault.exists_report_iff, fun reason unwritten => ⟨_, rfl, Fault.report?_of_unwritten unwritten,
          Fault.raisedWith_of_unwritten unwritten⟩⟩
      rintro ⟨_, ⟨⟩, reported⟩
      exact Fault.report?_config_eq_some_iff.mp reported

/-- The rule has no pattern and asks for no role, a number follows it, and a context function lacks its
counterpart. The pattern is what is named. -/
theorem first_of_many_named :
    let rule : Rule := ⟨.role, .str "admin", .str " ", .null⟩
    let settings : Settings :=
      { protect := .list [rule.toValue, .int 3], getContext := .callback 1 "current" }
    let fault : ConfigFault := .pattern (.str "admin")
    settings.protect.items = .ok [rule.toValue, .int 3] ∧
      First settings.Violates (checks [rule.toValue, .int 3]) fault ∧
      settings.resolve = .error (.config fault) ∧
      ∀ stack, ∃ found report, settings.resolve = .error found ∧
        found.report? stack = some report ∧ report.field = some "pattern" := by
  intro rule settings fault
  have stands : Rule.StandsFor rule.toValue rule := .itself rule
  have first : First settings.Violates (checks [rule.toValue, .int 3]) fault := by
    refine .later ?_ (.later ?_ (.later ?_ (.later ?_ (.here (.element (.pattern stands ?_))))))
    · rintro other ⟨invalid⟩
      exact absurd invalid (by decide)
    · exact fun other => mt violates_element_iff.mp (stands.legible other).1
    · exact fun other => mt violates_element_iff.mp (stands.legible other).2.1
    · exact fun other => mt violates_element_iff.mp (stands.legible other).2.2
    · decide
  obtain ⟨-, -, refused, reported⟩ := resolve_names_first_violation settings _ rfl
  refine ⟨rfl, first, (refused _).mpr ⟨fault, rfl, first⟩, fun stack => ?_⟩
  obtain ⟨found, same, told⟩ := ((reported stack fault first).1 _).mpr rfl
  exact ⟨found, _, same, told, rfl⟩

def enormous : Nat :=
  16 ^ 3600

def overlong : Value :=
  .int enormous

theorem message_overlong {stack : Value.Stack} (room : stack.takes overlong ≤ stack.left) :
    (ConfigFault.loginPath overlong).message stack = .error .longInteger := by
  have digits : ¬ (Nat.toDigits 10 (enormous : Int).natAbs).length ≤ Value.maxDigits := by
    rw [Int.natAbs_natCast, Nat.length_toDigits_le_iff (by decide) (by decide)]
    decide +kernel
  have written : overlong.textBy (.limited stack) = .error .longInteger :=
    Value.textBy_long_integer room digits
  change (overlong.textBy (.limited stack) >>= _) = _
  rw [written]
  rfl

/-- In place of a login path it is refused. But the report that says so would have to write it, so
the host is told of the integer's length instead, and not of the login path. -/
theorem overlong_login_path_unreported :
    let settings : Settings := { loginPath := overlong }
    First settings.Violates (checks []) (.loginPath overlong) ∧
      settings.resolve = .error (.config (.loginPath overlong)) ∧
      ∀ stack : Value.Stack, stack.takes overlong ≤ stack.left →
        (Fault.config (.loginPath overlong)).report? stack = none ∧
        (Fault.config (.loginPath overlong)).raisedWith stack = .badValue Fault.unwritable := by
  refine ⟨.here (.login rfl), rfl, fun stack room => ?_⟩
  have unwritten := message_overlong room
  exact ⟨Fault.report?_of_unwritten unwritten, Fault.raisedWith_of_unwritten unwritten⟩

end Settings

end Gatekeeper
