import Gatekeeper.Config.Basic
import Gatekeeper.Proofs.Engine.Selection

/-! Configurations that have been accepted. All that is known of one is that it came out of
`resolve`, so that every rule in it has passed its checks. -/
namespace Gatekeeper

variable {rule : Rule} {value : Value} {config : Config}

structure Rule.Valid (rule : Rule) : Prop where
  pattern : Pattern.isValid rule.pattern = true
  redirectTo : rule.redirectTo = .null ∨ Redirect.isValid rule.redirectTo = true
  requirement : Rule.admits rule.kind rule.requirement = true

theorem Rule.validate_eq_ok_iff : rule.validate = .ok () ↔ rule.Valid := by
  unfold Rule.validate Rule.fault?
  constructor
  · intro passed
    split at passed
    · cases passed
    next none =>
      split at none
      · cases none
      next pattern =>
      split at none
      · cases none
      next redirectTo =>
      split at none
      · cases none
      next requirement =>
      refine ⟨by simpa using pattern, ?_, by simpa using requirement⟩
      by_cases absent : rule.redirectTo = .null
      · exact .inl absent
      · exact .inr (by simpa [absent] using redirectTo)
  · rintro ⟨pattern, redirectTo | redirectTo, requirement⟩ <;>
      simp [pattern, redirectTo, requirement]

theorem Pattern.isText_of_isValid (valid : Pattern.isValid value = true) : value.IsText := by
  cases value <;> first | rfl | cases valid

theorem Redirect.truthy_of_isValid (valid : Redirect.isValid value = true) :
    value.truthy = true := by
  cases value with
  | str text =>
    have : text ≠ "" := by
      rintro rfl
      revert valid
      decide
    simpa [Value.truthy] using this
  | torn letters => rfl
  | _ => cases valid

theorem Rule.Valid.orElse_eq (valid : rule.Valid) (loginPath : Value) :
    rule.redirectTo.orElse loginPath =
      if rule.redirectTo.isNull then loginPath else rule.redirectTo := by
  rcases valid.redirectTo with absent | target
  · simp [absent, Value.orElse, Value.truthy]
  · have truthy := Redirect.truthy_of_isValid target
    have present : rule.redirectTo ≠ .null := by
      intro absent
      rw [absent] at truthy
      cases truthy
    simp [present, Value.orElse, truthy]

theorem bind_eq_ok_iff {α β : Type} {first : Except Fault α} {next : α → Except Fault β}
    {result : β} :
    (first >>= next) = .ok result ↔ ∃ value, first = .ok value ∧ next value = .ok result := by
  cases first <;> simp [bind, Except.bind]

theorem mapM_cons_eq_ok_iff {α β : Type} {f : α → Except Fault β} {item : α} {items : List α}
    {result : β} {results : List β} :
    (item :: items).mapM f = .ok (result :: results) ↔
      f item = .ok result ∧ items.mapM f = .ok results := by
  simp only [List.mapM_cons, bind_eq_ok_iff]
  constructor
  · rintro ⟨head, here, tail, there, same⟩
    cases same
    exact ⟨here, there⟩
  · rintro ⟨here, there⟩
    exact ⟨result, here, results, there, rfl⟩

theorem exists_of_mem_mapM {α β : Type} {f : α → Except Fault β} {items : List α} {results : List β}
    (traversed : items.mapM f = .ok results) :
    ∀ result ∈ results, ∃ item ∈ items, f item = .ok result := by
  induction items generalizing results with
  | nil =>
    cases traversed
    simp
  | cons first rest ih =>
    cases results with
    | nil => simp
    | cons head tail =>
      obtain ⟨here, there⟩ := mapM_cons_eq_ok_iff.mp traversed
      intro result mem
      rcases List.mem_cons.mp mem with rfl | later
      · exact ⟨first, by simp, here⟩
      · obtain ⟨item, inside, same⟩ := ih there result later
        exact ⟨item, by simp [inside], same⟩

theorem Settings.valid_of_resolveRule (resolved : Settings.resolveRule value = .ok rule) :
    rule.Valid := by
  have checked : ∃ read : Rule, (read.validate >>= fun _ => pure read) = .ok rule := by
    unfold Settings.resolveRule at resolved
    dsimp only at resolved
    split at resolved
    · exact ⟨_, resolved⟩
    · obtain ⟨read, -, more⟩ := bind_eq_ok_iff.mp resolved
      exact ⟨read, more⟩
  obtain ⟨read, checked⟩ := checked
  obtain ⟨⟨⟩, passed, same⟩ := bind_eq_ok_iff.mp checked
  cases same
  exact Rule.validate_eq_ok_iff.mp passed

/-- What is in force keeps every request on the site, holds only rules that have passed their checks,
and names both functions for the context or neither. -/
structure Config.Sound (config : Config) : Prop where
  loginPath : Redirect.isValid config.loginPath = true
  rules : ∀ rule ∈ config.protect, rule.Valid
  paired : config.getContext = .null ↔ config.setContext = .null

theorem Settings.sound_of_resolve {settings : Settings} (resolved : settings.resolve = .ok config) :
    config.Sound := by
  unfold Settings.resolve at resolved
  dsimp only at resolved
  split at resolved
  · cases resolved
  next loginPath =>
  obtain ⟨items, -, more⟩ := bind_eq_ok_iff.mp resolved
  obtain ⟨rules, traversed, rest⟩ := bind_eq_ok_iff.mp more
  split at rest
  · cases rest
  next paired =>
  cases rest
  refine ⟨by simpa using loginPath, fun rule mem => ?_, ?_⟩
  · obtain ⟨value, -, same⟩ := exists_of_mem_mapM traversed rule mem
    exact Settings.valid_of_resolveRule same
  · rw [← Value.isNull_iff, ← Value.isNull_iff, Bool.eq_iff_iff.symm]
    simpa using paired

theorem Source.sound_of_resolve {source : Source} (resolved : source.resolve = .ok config) :
    config.Sound := by
  obtain ⟨settings, -, accepted⟩ := bind_eq_ok_iff.mp resolved
  exact Settings.sound_of_resolve accepted

theorem Source.valid_of_resolve {source : Source} (resolved : source.resolve = .ok config) :
    ∀ rule ∈ config.protect, rule.Valid :=
  (Source.sound_of_resolve resolved).rules

theorem Settings.resolveRule_toValue (valid : rule.Valid) :
    Settings.resolveRule rule.toValue = .ok rule := by
  simp [Settings.resolveRule, Rule.validate_eq_ok_iff.mpr valid, bind, Except.bind, pure, Except.pure]

theorem Settings.resolve_of_mapM {items : List Value} {rules : List Rule}
    (resolved : items.mapM Settings.resolveRule = .ok rules) :
    Settings.resolve { protect := .list items } = .ok { protect := rules } := by
  have login : Redirect.isValid defaultLogin = true := by decide
  simp [Settings.resolve, login, Value.items, Value.opened, resolved, bind, Except.bind, pure,
    Except.pure]
  rfl

theorem Source.resolve_of_valid {rules : List Rule} (valid : ∀ rule ∈ rules, rule.Valid) :
    Source.resolve (.ready { protect := .list (rules.map Rule.toValue) }) =
      .ok { protect := rules } := by
  refine Settings.resolve_of_mapM ?_
  induction rules with
  | nil => rfl
  | cons rule rest ih =>
    rw [List.map_cons, List.mapM_cons, Settings.resolveRule_toValue (valid rule (by simp)),
      ih fun one mem => valid one (by simp [mem])]
    rfl

theorem Settings.resolve_default : Settings.resolve {} = .ok {} := rfl

end Gatekeeper
