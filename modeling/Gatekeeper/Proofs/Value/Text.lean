import Gatekeeper.Fault
import Mathlib.Algebra.GroupWithZero.Nat

/-! What can be written. All pens are led through a value alike, so what a limited pen writes, or why it
cannot, is told by what an unlimited one comes across on the same way. -/
namespace Gatekeeper

namespace Value

variable {m n : Type → Type} [Monad m] [Monad n] {stack : Stack}

/-- A relation between what two pens do that is kept by whatever is written with them. -/
structure Pen.Alike (p : Pen m) (q : Pen n) where
  rel : ∀ {α}, m α → n α → Prop
  ways : p.Way → q.Way → Prop
  pure : ∀ {α} (a : α), rel (Pure.pure a) (Pure.pure a)
  bind : ∀ {α β} {x : m α} {y : n α} {f : α → m β} {g : α → n β},
    rel x y → (∀ a, rel (f a) (g a)) → rel (x >>= f) (y >>= g)
  start : ways p.start q.start
  into : ∀ {β v w} (value : Value) {f : p.Way → m β} {g : q.Way → n β}, ways v w →
    (∀ v w, ways v w → rel (f v) (g w)) → rel (p.into v value >>= f) (q.into w value >>= g)
  int : ∀ k, rel (p.int k) (q.int k)

namespace Pen.Alike

variable {p : Pen m} {q : Pen n} (alike : Alike p q) {α : Type}

def Cells (cell : p.Way → Nat → m String) (cell' : q.Way → Nat → n String) : Prop :=
  ∀ v w, alike.ways v w → ∀ place, alike.rel (cell v place) (cell' w place)

def Writers (write : (p.Way → Nat → m String) → p.Way → m α)
    (write' : (q.Way → Nat → n String) → q.Way → n α) : Prop :=
  ∀ cell cell' v w, alike.Cells cell cell' → alike.ways v w → alike.rel (write cell v) (write' cell' w)

structure Wefts (weft : Weft m p.Way) (weft' : Weft n q.Way) : Prop where
  write : alike.Writers weft.write weft'.write
  again : ∀ v w, alike.ways v w → alike.rel (weft.again v) (weft'.again w)

theorem weave {wefts : List (Weft m p.Way)} {wefts' : List (Weft n q.Way)}
    (same : ∀ place : Nat, Option.Rel alike.Wefts wefts[place]? wefts'[place]?) (fuel : Nat)
    (begun : List Nat) : alike.Cells (Value.weave wefts fuel begun) (Value.weave wefts' fuel begun) := by
  induction fuel generalizing begun with
  | zero => exact fun _ _ _ _ => alike.pure ""
  | succ fuel ih =>
    intro v w ways place
    unfold Value.weave
    have here := same place
    generalize wefts[place]? = found at here ⊢
    generalize wefts'[place]? = found' at here ⊢
    cases here with
    | none => exact alike.pure ""
    | some wefts =>
      dsimp only
      split
      · exact wefts.again v w ways
      · exact wefts.write _ _ v w (ih _) ways

-- The induction is on the value. The cells that it refers to are alike by assumption, and those of a
-- knot by induction on how many of them may still be begun.
mutual

theorem shownIn (value : Value) :
    alike.Writers (Value.shownIn p · · value) (Value.shownIn q · · value) := by
  intro cell cell' v w cells ways
  unfold Value.shownIn
  refine alike.into value ways fun v w inside => ?_
  cases value with
  | int k => exact alike.int k
  | list items => exact alike.bind (shownAll items _ _ _ _ cells inside) fun _ => alike.pure _
  | table entries | view entries =>
    exact alike.bind (shownEntries entries _ _ _ _ cells inside) fun _ => alike.pure _
  | set items =>
    cases items with
    | nil => exact alike.pure _
    | cons => exact alike.bind (shownAll _ _ _ _ _ cells inside) fun _ => alike.pure _
  | tuple items =>
    match items with
    | [] => exact alike.bind (shownAll [] _ _ _ _ cells inside) fun _ => alike.pure _
    | [item] => exact alike.bind (shownIn item _ _ _ _ cells inside) fun _ => alike.pure _
    | item :: other :: rest =>
      exact alike.bind (shownAll (item :: other :: rest) _ _ _ _ cells inside) fun _ => alike.pure _
  | rule kind pattern requirement target =>
    exact alike.bind (shownIn pattern _ _ _ _ cells inside) fun _ =>
      alike.bind (shownIn requirement _ _ _ _ cells inside) fun _ =>
        alike.bind (shownIn target _ _ _ _ cells inside) fun _ => alike.pure _
  | context session =>
    exact alike.bind (shownIn session _ _ _ _ cells inside) fun _ => alike.pure _
  | hooks getRole getPermissions check =>
    exact alike.bind (shownIn getRole _ _ _ _ cells inside) fun _ =>
      alike.bind (shownIn getPermissions _ _ _ _ cells inside) fun _ =>
        alike.bind (shownIn check _ _ _ _ cells inside) fun _ => alike.pure _
  | knot items place =>
    cases items with
    | nil => exact cells v w inside place
    | cons => exact alike.weave (wefts _) _ _ v w inside place
  | _ => exact alike.pure _

theorem shownAll (items : List Value) :
    alike.Writers (Value.shownAll p · · items) (Value.shownAll q · · items) := by
  intro cell cell' v w cells ways
  cases items with
  | nil => exact alike.pure _
  | cons item rest =>
    exact alike.bind (shownIn item _ _ _ _ cells ways) fun _ =>
      alike.bind (shownAll rest _ _ _ _ cells ways) fun _ => alike.pure _

theorem shownEntries (entries : List (Value × Value)) :
    alike.Writers (Value.shownEntries p · · entries) (Value.shownEntries q · · entries) := by
  intro cell cell' v w cells ways
  match entries with
  | [] => exact alike.pure _
  | (key, value) :: rest =>
    exact alike.bind (shownIn key _ _ _ _ cells ways) fun _ =>
      alike.bind (shownIn value _ _ _ _ cells ways) fun _ =>
        alike.bind (shownEntries rest _ _ _ _ cells ways) fun _ => alike.pure _

theorem wefts (items : List Value) (place : Nat) :
    Option.Rel alike.Wefts (Value.wefts p items)[place]? (Value.wefts q items)[place]? := by
  match items, place with
  | [], _ => exact .none
  | item :: _, 0 =>
    exact .some ⟨shownIn item, fun _ _ ways => alike.into item ways fun _ _ _ => alike.pure _⟩
  | _ :: rest, place + 1 => exact wefts rest place

end

theorem shownBy (value : Value) : alike.rel (value.shownBy p) (value.shownBy q) := by
  have blank : alike.Cells (fun _ _ => Pure.pure "") (fun _ _ => Pure.pure "") :=
    fun _ _ _ _ => alike.pure ""
  exact alike.shownIn value _ _ _ _ blank alike.start

theorem textBy (value : Value) : alike.rel (value.textBy p) (value.textBy q) := by
  cases value with
  | str | torn | moment => exact alike.pure _
  | view entries => exact alike.shownBy (.table entries)
  | _ => exact alike.shownBy _

theorem messageBy (fault : ConfigFault) : alike.rel (fault.messageBy p) (fault.messageBy q) := by
  cases fault with
  | notTable | missingPattern | unpaired => exact alike.pure _
  | loginPath given | pattern given | redirect given =>
    exact alike.bind (alike.textBy given) fun _ => alike.pure _
  | ambiguous route found =>
    refine alike.bind (alike.shownBy route) fun _ => ?_
    cases found with
    | nil => exact alike.bind (alike.pure _) fun _ => alike.pure _
    | cons => exact alike.bind (alike.shownBy _) fun _ => alike.pure _
  | requirement kind given route =>
    exact alike.bind (alike.textBy route) fun _ =>
      alike.bind (alike.textBy given) fun _ => alike.pure _

end Pen.Alike

/-- What a writer comes across: a value inside those that are being written already, or an integer. -/
inductive Note where
  | inside (way : List Value)
  | integer (k : Int)

structure Noted (α : Type) where
  result : α
  notes : List Note

instance : Monad Noted where
  pure a := ⟨a, []⟩
  bind x f := ⟨(f x.result).result, x.notes ++ (f x.result).notes⟩

def Pen.noting : Pen Noted where
  Way := List Value
  start := []
  into way value := ⟨value :: way, [.inside (value :: way)]⟩
  int k := ⟨toString k, [.integer k]⟩

/-- A value lies no deeper than the stack allows, and an integer has no more digits than are written. -/
def Stack.Bears (stack : Stack) : Note → Prop
  | .inside way => (way.map stack.takes).sum ≤ stack.left
  | .integer k => (Nat.toDigits 10 k.natAbs).length ≤ maxDigits

def Pen.notingFree : Pen.Alike noting free where
  rel x y := x.result = y
  ways _ _ := True
  pure _ := rfl
  bind same next := (next _).trans (congrArg _ same)
  start := trivial
  into _ _ _ _ next := next _ _ trivial
  int _ := rfl

def Stack.Limits (stack : Stack) {α : Type} (x : Except Unwritable α) (y : Noted α) : Prop :=
  ∀ a, x = .ok a ↔ a = y.result ∧ ∀ note ∈ y.notes, stack.Bears note

theorem Stack.limits_ok {α : Type} {y : Noted α} (bears : ∀ note ∈ y.notes, stack.Bears note) :
    stack.Limits (.ok y.result) y :=
  fun _ => ⟨fun same => ⟨(Except.ok.inj same).symm, bears⟩, fun same => congrArg _ same.1.symm⟩

theorem Stack.limits_error {α : Type} {y : Noted α} {reason : Unwritable}
    (broken : ¬ ∀ note ∈ y.notes, stack.Bears note) : stack.Limits (.error reason) y :=
  fun _ => iff_of_false (fun written => nomatch written) fun same => broken same.2

theorem Stack.Limits.bind {α β : Type} {x : Except Unwritable α} {y : Noted α}
    {f : α → Except Unwritable β} {g : α → Noted β} (same : stack.Limits x y)
    (next : ∀ a, stack.Limits (f a) (g a)) : stack.Limits (x >>= f) (y >>= g) := by
  have notes : (∀ note ∈ (y >>= g).notes, stack.Bears note) ↔
      (∀ note ∈ y.notes, stack.Bears note) ∧ ∀ note ∈ (g y.result).notes, stack.Bears note :=
    List.forall_mem_append
  cases x with
  | error reason =>
    refine limits_error fun bears => ?_
    cases (same y.result).mpr ⟨rfl, (notes.mp bears).1⟩
  | ok a =>
    obtain ⟨rfl, bears⟩ := (same a).mp rfl
    intro b
    rw [notes]
    exact (next y.result b).trans (and_congr_right' (and_iff_right bears).symm)

theorem Stack.limits_into {β : Type} {left : Nat} {way : List Value} (value : Value)
    {f : Nat → Except Unwritable β} {g : List Value → Noted β}
    (here : left + (way.map stack.takes).sum = stack.left)
    (next : ∀ left way, left + (way.map stack.takes).sum = stack.left → stack.Limits (f left) (g way)) :
    stack.Limits ((Pen.limited stack).into left value >>= f) (Pen.noting.into way value >>= g) := by
  have spent : ((value :: way).map stack.takes).sum = stack.takes value + (way.map stack.takes).sum := by
    rw [List.map_cons, List.sum_cons]
  have notes : (∀ note ∈ (Pen.noting.into way value >>= g).notes, stack.Bears note) ↔
      stack.Bears (.inside (value :: way)) ∧ ∀ note ∈ (g (value :: way)).notes, stack.Bears note :=
    List.forall_mem_cons
  by_cases room : stack.takes value ≤ left
  · have into : (Pen.limited stack).into left value = .ok (left - stack.takes value) := if_pos room
    have bears : stack.Bears (.inside (value :: way)) := by
      rw [Bears, spent]
      omega
    have further : left - stack.takes value + ((value :: way).map stack.takes).sum = stack.left := by
      omega
    intro b
    rw [into, notes]
    exact (next _ _ further b).trans (and_congr_right' (and_iff_right bears).symm)
  · have into : (Pen.limited stack).into left value = .error .tooDeep := if_neg room
    rw [into]
    refine limits_error fun bears => ?_
    have fits := (notes.mp bears).1
    rw [Bears, spent] at fits
    omega

/-- Within its limits a pen writes what there is, and it goes on for as long as all that it comes across
is within them. -/
def Pen.limitedNoting (stack : Stack) : Pen.Alike (limited stack) noting where
  rel := stack.Limits
  -- What is left and what the values on the way have taken make up the stack.
  ways := fun (left : Nat) (way : List Value) => left + (way.map stack.takes).sum = stack.left
  pure a := by
    have bears : ∀ note ∈ (Pure.pure a : Noted _).notes, stack.Bears note := List.forall_mem_nil _
    exact Stack.limits_ok bears
  bind := .bind
  start := rfl
  into value _ _ := stack.limits_into value
  int k := by
    have notes : (∀ note ∈ (noting.int k).notes, stack.Bears note) ↔ stack.Bears (.integer k) :=
      List.forall_mem_singleton
    by_cases short : (Nat.toDigits 10 k.natAbs).length ≤ maxDigits
    · have written : (limited stack).int k = .ok (toString k) := if_pos short
      rw [written]
      exact Stack.limits_ok (notes.mpr short)
    · have written : (limited stack).int k = .error .longInteger := if_neg short
      rw [written]
      exact Stack.limits_error fun bears => short (notes.mp bears)

theorem textBy_limited_eq_ok_iff {value : Value} {text : String} :
    value.textBy (.limited stack) = .ok text ↔
      text = value.text ∧ ∀ note ∈ (value.textBy .noting).notes, stack.Bears note := by
  have free : (value.textBy .noting).result = value.text := Pen.notingFree.textBy value
  rw [← free]
  exact (Pen.limitedNoting stack).textBy value text

theorem textBy_long_integer {k : Int} (room : stack.takes (.int k) ≤ stack.left)
    (long : ¬ (Nat.toDigits 10 k.natAbs).length ≤ maxDigits) :
    (Value.int k).textBy (.limited stack) = .error .longInteger := by
  have into : (Pen.limited stack).into stack.left (.int k) =
    .ok (stack.left - stack.takes (.int k)) := if_pos room
  change ((Pen.limited stack).into stack.left (.int k) >>= fun _ => (Pen.limited stack).int k) = _
  rw [into]
  exact if_neg long

end Value

namespace ConfigFault

variable {stack : Value.Stack} {found : ConfigFault} {text : String} {report : Report}

def notes (found : ConfigFault) : List Value.Note :=
  (found.messageBy .noting).notes

theorem message_eq_ok_iff : found.message stack = .ok text ↔
    text = Id.run (found.messageBy .free) ∧ ∀ note ∈ found.notes, stack.Bears note := by
  have free : (found.messageBy .noting).result = Id.run (found.messageBy .free) :=
    Value.Pen.notingFree.messageBy found
  rw [← free]
  exact (Value.Pen.limitedNoting stack).messageBy found text

/-- The functions of hooks are written, but not what is in a request. -/
example :
    let hooks := Value.hooks (.int 7) .null .null
    let request := Value.ownRequest [(.str "count", .int 7)]
    (loginPath hooks).notes = [.inside [hooks], .inside [.int 7, hooks], .integer 7,
      .inside [.null, hooks], .inside [.null, hooks]] ∧
    (loginPath request).notes = [.inside [request]] :=
  ⟨rfl, rfl⟩

theorem report_eq_ok_iff : found.report stack = .ok report ↔ ∃ text, found.message stack = .ok text ∧
    report = ⟨.configuration, found.code, text, some found.field, none⟩ := by
  unfold ConfigFault.report
  cases found.message stack with
  | error reason => exact iff_of_false (fun same => nomatch same) fun ⟨_, same, _⟩ => nomatch same
  | ok text =>
    constructor
    · rintro ⟨⟩
      exact ⟨text, rfl, rfl⟩
    · rintro ⟨_, ⟨⟩, rfl⟩
      rfl

theorem exists_report_iff :
    (∃ report, found.report stack = .ok report) ↔ ∀ note ∈ found.notes, stack.Bears note := by
  constructor
  · rintro ⟨report, told⟩
    obtain ⟨text, written, -⟩ := report_eq_ok_iff.mp told
    exact (message_eq_ok_iff.mp written).2
  · intro bears
    exact ⟨_, report_eq_ok_iff.mpr ⟨_, message_eq_ok_iff.mpr ⟨rfl, bears⟩, rfl⟩⟩

end ConfigFault

end Gatekeeper
