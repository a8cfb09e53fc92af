import Gatekeeper.Proofs.Config.Resolving
import Gatekeeper.Proofs.Rule.Writing
import Gatekeeper.Engine

/-! Lists of rules in which some are written as tables. They are accepted as the same rules, so whatever
is decided by them is decided as before. -/
namespace Gatekeeper

variable {item : Value} {items replaced : List Value} {rule : Rule} {rules : List Rule}

/-- The elements of a list of rules, the rules that they have become, and the elements again with some of
them replaced by what their rules are written as. -/
inductive Rewritten : List Value → List Rule → List Value → Prop
  | nil : Rewritten [] [] []
  | keep (item : Value) (rule : Rule) {items : List Value} {rules : List Rule} {replaced : List Value} :
      Rewritten items rules replaced → Rewritten (item :: items) (rule :: rules) (item :: replaced)
  | write (item : Value) {rule : Rule} {entries : Table} {items : List Value} {rules : List Rule}
      {replaced : List Value} :
      rule.kind ∈ RuleKind.all → rule.toTable = .ok entries → Rewritten items rules replaced →
      Rewritten (item :: items) (rule :: rules) (.table entries :: replaced)

namespace Settings

theorem resolveRule_written {entries : Table} (resolved : resolveRule item = .ok rule)
    (known : rule.kind ∈ RuleKind.all) (wrote : rule.toTable = .ok entries) :
    resolveRule (.table entries) = .ok rule := by
  have valid := valid_of_resolveRule resolved
  cases wrote.symm.trans (valid.toTable_eq known)
  refine resolveRule_of_read ?_ valid
  rw [Rule.read_of_opened rfl, valid.ofTable_described known]

theorem mapM_rewritten (rewritten : Rewritten items rules replaced)
    (resolved : items.mapM resolveRule = .ok rules) :
    replaced.mapM resolveRule = .ok rules := by
  induction rewritten with
  | nil => rfl
  | keep item rule _ ih =>
    obtain ⟨here, there⟩ := mapM_cons_eq_ok_iff.mp resolved
    exact mapM_cons_eq_ok_iff.mpr ⟨here, ih there⟩
  | write item known wrote _ ih =>
    obtain ⟨here, there⟩ := mapM_cons_eq_ok_iff.mp resolved
    exact mapM_cons_eq_ok_iff.mpr ⟨resolveRule_written here known wrote, ih there⟩

theorem resolve_rewritten {settings : Settings} {config : Config} {protect : Value}
    (resolved : settings.resolve = .ok config) (listed : settings.protect.items = .ok items)
    (relisted : protect.items = .ok replaced) (rewritten : Rewritten items config.protect replaced) :
    { settings with protect := protect }.resolve = .ok config := by
  obtain ⟨login, paired, rules, traversed, rfl⟩ := (resolve_eq_ok_iff listed).mp resolved
  have again : { settings with protect := protect }.protect.items = .ok replaced := relisted
  rw [resolve_eq_ok_iff again]
  exact ⟨login, paired, rules, mapM_rewritten rewritten traversed, rfl⟩

/-- A valid rule is read back from what it is written as. Of a table from which a valid rule was read
what is written again is its pattern, the one thing that it asks for, and a target that it gives; and so
it stays however often this is repeated. Wherever a rule stands in accepted settings, it can be written
out: they are accepted as before, with equal rules in the same order, and decide alike. -/
theorem rules_survive_rewriting :
    (∀ rule : Rule, rule.kind ∈ RuleKind.all → rule.validate = .ok () →
      ∃ written, rule.toTable = .ok written ∧ Rule.ofValue (.table written) = .ok rule ∧
        rule.equal rule = true) ∧
    (∀ (item : Value) (rule : Rule), Rule.ofValue item = .ok rule → rule.validate = .ok () →
      ∃ entries written, item.opened = .table entries ∧ Table.Names entries rule.kind ∧
        rule.toTable = .ok written ∧
        (∀ key, Table.find written key = (Table.find entries key).bind (rule.kind.keeps key)) ∧
        (Rule.ofValue (.table written) >>= Rule.toTable) = .ok written) ∧
    ∀ (settings : Settings) (config : Config) (items replaced : List Value) (protect : Value),
      settings.resolve = .ok config → settings.protect.items = .ok items →
      protect.items = .ok replaced → Rewritten items config.protect replaced →
      ∃ again, { settings with protect := protect }.resolve = .ok again ∧
        again.protect = config.protect ∧
        ∀ (host : Host) (path : String) (session : Option Value),
          Engine.decide host (.done again) path session =
            Engine.decide host (.done config) path session := by
  have written : ∀ {rule : Rule}, rule.Valid → rule.kind ∈ RuleKind.all →
      rule.toTable = .ok rule.described ∧ Rule.ofValue (.table rule.described) = .ok rule :=
    fun valid known => ⟨valid.toTable_eq known, valid.ofTable_described known⟩
  refine ⟨?_, ?_, ?_⟩
  · intro rule known passed
    have valid := Rule.validate_eq_ok_iff.mp passed
    obtain ⟨wrote, readBack⟩ := written valid known
    exact ⟨_, wrote, readBack, rule.equal_self⟩
  · intro item rule found passed
    have valid := Rule.validate_eq_ok_iff.mp passed
    obtain ⟨entries, opens⟩ : ∃ entries, item.opened = .table entries := by
      by_contra notTable
      cases found.symm.trans (Rule.ofValue_of_not_table (not_exists.mp notTable))
    rw [Rule.ofValue_of_opened opens] at found
    have names : Table.Names entries rule.kind := by
      obtain ⟨kind, pattern, requirement, names, -, -, rfl⟩ := Rule.names_of_ofTable found
      rwa [Rule.kind_make]
    obtain ⟨wrote, readBack⟩ := written valid names.1
    refine ⟨entries, _, opens, names, wrote, Rule.find_described found, ?_⟩
    rw [readBack]
    exact wrote
  · intro settings config items replaced protect resolved listed relisted rewritten
    exact ⟨config, resolve_rewritten resolved listed relisted rewritten, rfl, fun _ _ _ => rfl⟩

theorem staff_list_rewritten :
    let staff : Rule := ⟨.roles, .str "/staff/**", .tuple [.str "clerk"], .str "/denied"⟩
    let guests : Rule := ⟨.allow, .str "/guests", .callback 1 "invited", .null⟩
    let noted : Table :=
      [(.str "note", .int 7), (.str "allow", .callback 1 "invited"), (.str "redirect_to", .null),
        (.str "pattern", .str "/guests")]
    let settings : Settings := { protect := .list [staff.toValue, .table noted] }
    let protect : Value := .tuple [.table staff.described, .table guests.described]
    (staff.validate = .ok () ∧ Rule.ofValue (.table staff.described) = .ok staff) ∧
      (Rule.ofValue (.table noted) = .ok guests ∧
        ∀ key, Table.find guests.described key =
          (Table.find noted key).bind (RuleKind.keeps .allow key)) ∧
      settings.resolve = .ok { protect := [staff, guests] } ∧
      ∃ again, { settings with protect := protect }.resolve = .ok again ∧
        again.protect = [staff, guests] := by
  intro staff guests noted settings protect
  obtain ⟨rules, tables, lists⟩ := rules_survive_rewriting
  have staffRoute : Pattern.isValid (.str "/staff/**") = true := by cbv
  have guestsRoute : Pattern.isValid (.str "/guests") = true := by cbv
  have staffValid : staff.Valid := ⟨staffRoute, .inr (by decide), by decide⟩
  have guestsValid : guests.Valid := ⟨guestsRoute, .inl rfl, by decide⟩
  have read : Rule.ofTable noted = .ok guests := by
    have names : Table.Names noted .allow := by
      refine ⟨by decide, fun other _ => ?_⟩
      cases other <;> simp [noted, Table.field_cons, RuleKind.field]
    have route : Table.field noted "pattern" = some guests.pattern := by
      simp [noted, guests, Table.field_cons]
    have asked : Table.field noted "allow" = some guests.requirement := by
      simp [noted, guests, Table.field_cons]
    rw [Rule.ofTable_of_names names route asked]
    simp [noted, guests, Table.field_cons, Rule.make]
  have resolved : settings.resolve = .ok { protect := [staff, guests] } := by
    refine (resolve_eq_ok_iff rfl).mpr ⟨by decide, rfl, [staff, guests], ?_, rfl⟩
    have second : resolveRule (.table noted) = .ok guests :=
      resolveRule_of_read ((Rule.read_of_opened rfl).trans read) guestsValid
    rw [mapM_cons_eq_ok_iff, mapM_cons_eq_ok_iff]
    exact ⟨resolveRule_toValue staffValid, second, rfl⟩
  refine ⟨⟨Rule.validate_eq_ok_iff.mpr staffValid, ?_⟩, ⟨read, ?_⟩, resolved, ?_⟩
  · obtain ⟨written, wrote, readBack, -⟩ :=
      rules staff (by decide) (Rule.validate_eq_ok_iff.mpr staffValid)
    cases wrote
    exact readBack
  · obtain ⟨entries, written, opens, -, wrote, restricted, -⟩ :=
      tables (.table noted) guests read (Rule.validate_eq_ok_iff.mpr guestsValid)
    cases opens
    cases wrote
    exact restricted
  · have rewritten : Rewritten [staff.toValue, .table noted] [staff, guests]
        [.table staff.described, .table guests.described] :=
      .write _ (by decide) rfl (.write _ (by decide) rfl .nil)
    obtain ⟨again, accepted, same, -⟩ := lists settings _ _ _ protect resolved rfl rfl rewritten
    exact ⟨again, accepted, same⟩

end Settings

end Gatekeeper
