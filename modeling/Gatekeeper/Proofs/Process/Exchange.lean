import Gatekeeper.Proofs.Process.Trace

/-! What a task can come to by itself. It is told the truth about its own context; the configuration
is any of those that may be in force when it asks, and of all else that it shares with other tasks it
may be told anything. So whatever holds of all that a task can come to holds under every schedule. -/
namespace Gatekeeper

variable {α β : Type}

structure Exchange where
  context : Value
  op : Op
  answer : op.Answer

def Op.Puts (allowed : Config → Prop) : Op → Prop
  | .setConfig given => ∃ found, given = some found ∧ allowed found
  | _ => True

def Op.Stays : Op → Prop
  | .setContext _ => False
  | _ => True

namespace Process

/-- Whether a task in a context can be given an answer, and be in a context afterwards. -/
def Told (allowed : Config → Prop) (context : Value) : (op : Op) → op.Answer → Value → Prop
  | .context, answer, after => answer = context ∧ after = context
  | .setContext changed, _, after => after = changed
  | .config, answer, after => (∃ config, answer = some config ∧ allowed config) ∧ after = context
  -- All else is shared, and other tasks may have changed it to anything.
  | _, _, after => after = context

/-- `Leads allowed context process exchanges rest last`: from a context, a process comes by the
exchanges to the rest of itself, in the context `last`. -/
inductive Leads (allowed : Config → Prop) :
    Value → Process α → List Exchange → Process α → Value → Prop
  | here {context : Value} {process : Process α} : Leads allowed context process [] process context
  | ask {context mid last : Value} {op : Op} {next : op.Answer → Process α} {answer : op.Answer}
      {exchanges : List Exchange} {rest : Process α} (told : Told allowed context op answer mid)
      (more : Leads allowed mid (next answer) exchanges rest last) :
      Leads allowed context (.ask op next) (⟨context, op, answer⟩ :: exchanges) rest last

/-- From a context, a process comes by the exchanges to a result, in the context `last`. -/
def Ends (allowed : Config → Prop) (context : Value) (process : Process α)
    (exchanges : List Exchange) (result : Except Fault α) (last : Value) : Prop :=
  Leads allowed context process exchanges (.ofExcept result) last

variable {allowed : Config → Prop} {context mid last : Value} {process rest : Process α}
  {exchanges more : List Exchange} {result : Except Fault α}

theorem Leads.trans {final : Process α} (first : Leads allowed context process exchanges rest mid)
    (second : Leads allowed mid rest more final last) :
    Leads allowed context process (exchanges ++ more) final last := by
  induction first with
  | here => exact second
  | ask told _ ih => exact .ask told (ih second)

theorem ends_ofExcept_iff {outcome : Except Fault α} :
    Ends allowed context (.ofExcept outcome) exchanges result last ↔
      exchanges = [] ∧ result = outcome ∧ last = context := by
  constructor
  · intro ends
    cases outcome <;> cases result <;> cases ends <;> exact ⟨rfl, rfl, rfl⟩
  · rintro ⟨rfl, rfl, rfl⟩
    exact .here

@[simp] theorem ends_done_iff {value : α} :
    Ends allowed context (.done value) exchanges result last ↔
      exchanges = [] ∧ result = .ok value ∧ last = context := by
  rw [← ofExcept_ok, ends_ofExcept_iff]

@[simp] theorem ends_fail_iff {fault : Fault} :
    Ends allowed context (.fail fault : Process α) exchanges result last ↔
      exchanges = [] ∧ result = .error fault ∧ last = context := by
  rw [← ofExcept_error, ends_ofExcept_iff]

theorem ends_ask_iff {op : Op} {next : op.Answer → Process α} :
    Ends allowed context (.ask op next) exchanges result last ↔
      ∃ answer mid rest, Told allowed context op answer mid ∧
        exchanges = ⟨context, op, answer⟩ :: rest ∧
        Ends allowed mid (next answer) rest result last := by
  constructor
  · intro ends
    cases result with
    | error fault =>
      cases ends with
      | ask told more => exact ⟨_, _, _, told, rfl, more⟩
    | ok value =>
      cases ends with
      | ask told more => exact ⟨_, _, _, told, rfl, more⟩
  · rintro ⟨answer, mid, rest, told, rfl, more⟩
    exact .ask told more

theorem ends_bind_iff {next : α → Process β} {result : Except Fault β} :
    Ends allowed context (process.bind next) exchanges result last ↔
      (∃ first second value mid, exchanges = first ++ second ∧
        Ends allowed context process first (.ok value) mid ∧
        Ends allowed mid (next value) second result last) ∨
      ∃ fault, result = .error fault ∧ Ends allowed context process exchanges (.error fault) last := by
  induction process generalizing context exchanges with
  | done value =>
    simp only [done_bind, ends_done_iff]
    constructor
    · exact fun ends => .inl ⟨[], exchanges, value, context, rfl, ⟨rfl, rfl, rfl⟩, ends⟩
    · rintro (⟨_, second, _, _, rfl, ⟨rfl, same, rfl⟩, ends⟩ | ⟨fault, -, -, same, -⟩)
      · cases same
        exact ends
      · cases same
  | fail fault =>
    simp only [fail_bind, ends_fail_iff]
    constructor
    · rintro ⟨rfl, rfl, rfl⟩
      exact .inr ⟨fault, rfl, rfl, rfl, rfl⟩
    · rintro (⟨_, _, _, _, _, ⟨-, same, -⟩, -⟩ | ⟨_, rfl, rfl, same, rfl⟩)
      · cases same
      · cases same
        exact ⟨rfl, rfl, rfl⟩
  | ask op next ih =>
    simp only [ask_bind, ends_ask_iff, ih]
    constructor
    · rintro ⟨answer, mid, rest, told, rfl,
        ⟨first, second, value, between, rfl, ends, more⟩ | ⟨fault, rfl, ends⟩⟩
      · exact .inl ⟨⟨context, op, answer⟩ :: first, second, value, between, rfl,
          ⟨answer, mid, first, told, rfl, ends⟩, more⟩
      · exact .inr ⟨fault, rfl, answer, mid, rest, told, rfl, ends⟩
    · rintro (⟨_, second, value, between, rfl, ⟨answer, mid, first, told, rfl, ends⟩, more⟩ |
        ⟨fault, rfl, answer, mid, rest, told, rfl, ends⟩)
      · exact ⟨answer, mid, first ++ second, told, rfl,
          .inl ⟨first, second, value, between, rfl, ends, more⟩⟩
      · exact ⟨answer, mid, rest, told, rfl, .inr ⟨fault, rfl, ends⟩⟩

theorem ends_map_iff {f : α → β} {result : Except Fault β} :
    Ends allowed context (process.bind fun value => .done (f value)) exchanges result last ↔
      ∃ outcome, Ends allowed context process exchanges outcome last ∧ result = outcome.map f := by
  rw [ends_bind_iff]
  constructor
  · rintro (⟨first, rest, value, mid, rfl, ends, mapped⟩ | ⟨fault, rfl, ends⟩)
    · obtain ⟨rfl, rfl, rfl⟩ := ends_done_iff.mp mapped
      exact ⟨.ok value, by simpa using ends, rfl⟩
    · exact ⟨.error fault, ends, rfl⟩
  · rintro ⟨outcome | value, ends, rfl⟩
    · exact .inr ⟨_, rfl, ends⟩
    · exact .inl ⟨exchanges, [], value, last, by simp, ends, ends_done_iff.mpr ⟨rfl, rfl, rfl⟩⟩

theorem ends_attempt_iff {result : Except Fault (Except Fault α)} :
    Ends allowed context process.attempt exchanges result last ↔
      ∃ outcome, result = .ok outcome ∧ Ends allowed context process exchanges outcome last := by
  induction process generalizing context exchanges with
  | done value =>
    simp only [attempt, ends_done_iff]
    constructor
    · rintro ⟨rfl, rfl, rfl⟩
      exact ⟨_, rfl, rfl, rfl, rfl⟩
    · rintro ⟨_, rfl, rfl, rfl, rfl⟩
      exact ⟨rfl, rfl, rfl⟩
  | fail fault =>
    simp only [attempt, ends_done_iff, ends_fail_iff]
    constructor
    · rintro ⟨rfl, rfl, rfl⟩
      exact ⟨_, rfl, rfl, rfl, rfl⟩
    · rintro ⟨_, rfl, rfl, rfl, rfl⟩
      exact ⟨rfl, rfl, rfl⟩
  | ask op next ih =>
    simp only [attempt, ends_ask_iff, ih]
    constructor
    · rintro ⟨answer, mid, rest, told, rfl, outcome, rfl, ends⟩
      exact ⟨outcome, rfl, answer, mid, rest, told, rfl, ends⟩
    · rintro ⟨outcome, rfl, answer, mid, rest, told, rfl, ends⟩
      exact ⟨answer, mid, rest, told, rfl, outcome, rfl, ends⟩

theorem ends_attempt_bind_iff {next : Except Fault α → Process β} {result : Except Fault β} :
    Ends allowed context (process.attempt.bind next) exchanges result last ↔
      ∃ first second outcome mid, exchanges = first ++ second ∧
        Ends allowed context process first outcome mid ∧
        Ends allowed mid (next outcome) second result last := by
  rw [ends_bind_iff]
  simp only [ends_attempt_iff]
  constructor
  · rintro (⟨first, second, _, mid, rfl, ⟨_, ⟨⟩, ends⟩, more⟩ | ⟨_, -, _, ⟨⟩, -⟩)
    exact ⟨first, second, _, mid, rfl, ends, more⟩
  · rintro ⟨first, second, outcome, mid, rfl, ends, more⟩
    exact .inl ⟨first, second, outcome, mid, rfl, ⟨outcome, rfl, ends⟩, more⟩

theorem attempt_bind {next : α → Process β} :
    (process.bind next).attempt = process.attempt.bind fun
      | .ok value => (next value).attempt
      | .error fault => .done (.error fault) := by
  induction process with
  | done value => rfl
  | fail fault => rfl
  | ask op further ih => simp only [ask_bind, attempt, ih]

theorem leads_attempt_bind {next : Except Fault α → Process β} {rest : Process β}
    (leads : Leads allowed context (process.attempt.bind next) exchanges rest last) :
    (∃ op further, Leads allowed context process exchanges (.ask op further) last ∧
      rest = (Process.ask op further).attempt.bind next) ∨
    ∃ first second outcome mid, exchanges = first ++ second ∧
      Ends allowed context process first outcome mid ∧
      Leads allowed mid (next outcome) second rest last := by
  induction process generalizing context exchanges with
  | done value => exact .inr ⟨[], exchanges, .ok value, context, rfl, .here, leads⟩
  | fail fault => exact .inr ⟨[], exchanges, .error fault, context, rfl, .here, leads⟩
  | ask op further ih =>
    cases leads with
    | here => exact .inl ⟨op, further, .here, rfl⟩
    | ask told more =>
      rcases ih _ more with ⟨op, further, leads, rfl⟩ | ⟨first, second, outcome, mid, rfl, ends, leads⟩
      · exact .inl ⟨op, further, .ask told leads, rfl⟩
      · exact .inr ⟨_ :: first, second, outcome, mid, rfl, .ask told ends, leads⟩

theorem exists_ends (some : ∃ config, allowed config) (context : Value) (process : Process α) :
    ∃ exchanges result last, Ends allowed context process exchanges result last := by
  have answered : ∀ (context : Value) (op : Op), ∃ answer after, Told allowed context op answer after := by
    intro context op
    obtain ⟨config, may⟩ := some
    cases op
    case config => exact ⟨.some config, context, ⟨config, rfl, may⟩, rfl⟩
    case context => exact ⟨context, context, rfl, rfl⟩
    case setContext changed => exact ⟨(), changed, rfl⟩
    case environment => exact ⟨none, context, rfl⟩
    case stored => exact ⟨none, context, rfl⟩
    case held => exact ⟨.null, context, rfl⟩
    all_goals exact ⟨(), context, rfl⟩
  induction process generalizing context with
  | done value => exact ⟨[], .ok value, context, .here⟩
  | fail fault => exact ⟨[], .error fault, context, .here⟩
  | ask op next ih =>
    obtain ⟨answer, after, told⟩ := answered context op
    obtain ⟨exchanges, result, last, ends⟩ := ih answer after
    exact ⟨_, result, last, .ask told ends⟩

theorem ends_config_bind_iff {next : Config → Process α} :
    Ends allowed context (Process.config.bind next) exchanges result last ↔
      ∃ config rest, allowed config ∧ exchanges = ⟨context, .config, some config⟩ :: rest ∧
        Ends allowed context (next config) rest result last := by
  rw [Process.config, ask_bind, ends_ask_iff]
  constructor
  · rintro ⟨_, _, rest, ⟨⟨config, rfl, may⟩, rfl⟩, rfl, ends⟩
    exact ⟨config, rest, may, rfl, ends⟩
  · rintro ⟨config, rest, may, rfl, ends⟩
    exact ⟨some config, context, rest, ⟨⟨config, rfl, may⟩, rfl⟩, rfl, ends⟩

theorem ends_ask_iff_of_told {op : Op} {next : op.Answer → Process α} {reply : op.Answer}
    (told : ∀ answer after, Told allowed context op answer after ↔ answer = reply ∧ after = mid) :
    Ends allowed context (.ask op next) exchanges result last ↔
      ∃ rest, exchanges = ⟨context, op, reply⟩ :: rest ∧
        Ends allowed mid (next reply) rest result last := by
  rw [ends_ask_iff]
  constructor
  · rintro ⟨answer, after, rest, given, rfl, ends⟩
    obtain ⟨rfl, rfl⟩ := (told _ _).mp given
    exact ⟨rest, rfl, ends⟩
  · rintro ⟨rest, rfl, ends⟩
    exact ⟨reply, mid, rest, (told _ _).mpr ⟨rfl, rfl⟩, rfl, ends⟩

theorem ends_ask_context_iff {next : Op.context.Answer → Process α} :
    Ends allowed context (.ask .context next) exchanges result last ↔
      ∃ rest, exchanges = ⟨context, .context, context⟩ :: rest ∧
        Ends allowed context (next context) rest result last :=
  ends_ask_iff_of_told fun _ _ => Iff.rfl

theorem ends_ask_setContext_iff {changed : Value}
    {next : (Op.setContext changed).Answer → Process α} :
    Ends allowed context (.ask (.setContext changed) next) exchanges result last ↔
      ∃ rest, exchanges = ⟨context, .setContext changed, ()⟩ :: rest ∧
        Ends allowed changed (next ()) rest result last :=
  ends_ask_iff_of_told fun _ _ => (and_iff_right rfl).symm

theorem ends_ask_note_iff {call : Call} {next : (Op.note call).Answer → Process α} :
    Ends allowed context (.ask (.note call) next) exchanges result last ↔
      ∃ rest, exchanges = ⟨context, .note call, ()⟩ :: rest ∧
        Ends allowed context (next ()) rest result last :=
  ends_ask_iff_of_told fun _ _ => (and_iff_right rfl).symm

def Keeps (allowed : Config → Prop) (process : Process α) : Prop :=
  ∀ context exchanges result last,
    Ends allowed context process exchanges result last → last = context

theorem keeps_done {value : α} : Keeps allowed (.done value) :=
  fun _ _ _ _ ends => (ends_done_iff.mp ends).2.2

theorem keeps_fail {fault : Fault} : Keeps allowed (.fail fault : Process α) :=
  fun _ _ _ _ ends => (ends_fail_iff.mp ends).2.2

theorem Keeps.bind {next : α → Process β} (first : Keeps allowed process)
    (second : ∀ value, Keeps allowed (next value)) : Keeps allowed (process.bind next) := by
  intro context exchanges result last ends
  rcases ends_bind_iff.mp ends with ⟨_, _, value, mid, -, before, after⟩ | ⟨fault, -, failed⟩
  · exact (second value _ _ _ _ after).trans (first _ _ _ _ before)
  · exact first _ _ _ _ failed

def Asks (may : Op → Prop) : Process α → Prop
  | .done _ | .fail _ => True
  | .ask op next => may op ∧ ∀ answer, (next answer).Asks may

variable {may : Op → Prop}

theorem keeps_of_asks (asks : process.Asks Op.Stays) : Keeps allowed process := by
  induction process with
  | done value => exact keeps_done
  | fail fault => exact keeps_fail
  | ask op next ih =>
    intro context exchanges result last ends
    obtain ⟨answer, mid, rest, told, -, more⟩ := ends_ask_iff.mp ends
    have stayed : mid = context := by
      cases op
      case setContext => exact asks.1.elim
      case context => exact told.2
      case config => exact told.2
      all_goals exact told
    exact (ih answer (asks.2 answer) _ _ _ _ more).trans stayed

theorem asks_request {op : Op} (asked : may op) : (request op).Asks may :=
  ⟨asked, fun _ => trivial⟩

theorem asks_ofExcept (outcome : Except Fault α) : (ofExcept outcome).Asks may := by
  cases outcome <;> trivial

theorem asks_config (asked : may .config) : Process.config.Asks may := by
  refine ⟨asked, fun answer => ?_⟩
  cases answer <;> trivial

theorem Asks.bind {next : α → Process β} (first : process.Asks may)
    (second : ∀ value, (next value).Asks may) : (process.bind next).Asks may := by
  induction process with
  | done value => exact second value
  | fail fault => trivial
  | ask op next ih => exact ⟨first.1, fun answer => ih answer (first.2 answer)⟩

theorem Asks.attempt (asks : process.Asks may) : process.attempt.Asks may := by
  induction process with
  | done value => trivial
  | fail fault => trivial
  | ask op next ih => exact ⟨asks.1, fun answer => ih answer (asks.2 answer)⟩

end Process

end Gatekeeper
