import Gatekeeper.Proofs.Context
import Gatekeeper.Proofs.Process.Cohort
import Gatekeeper.Proofs.Process.Watched

/-! Contexts of concurrent tasks. A task finds the context that it has last entered, set or come back
to, and before that the one that it has inherited. What other tasks do, and when, does not show. -/
namespace Gatekeeper

def Op.isApart : Op → Bool
  | .context | .setContext _ | .note _ => false
  | _ => true

namespace Context

open Process

inductive Event where
  | got (context : Value)
  | set (context : Value)
  | entered (context : Value)
  | left
  | started (task : Nat)

namespace Event

def call : Event → Call
  | got context => ⟨"got", [context]⟩
  | set context => ⟨"set", [context]⟩
  | entered context => ⟨"entered", [context]⟩
  | left => ⟨"left", []⟩
  | started task => ⟨"started", [.int task]⟩

def ofCall? : Call → Option Event
  | ⟨"got", [context]⟩ => some (got context)
  | ⟨"set", [context]⟩ => some (set context)
  | ⟨"entered", [context]⟩ => some (entered context)
  | ⟨"left", []⟩ => some left
  | ⟨"started", [.int (.ofNat task)]⟩ => some (started task)
  | _ => none

@[simp] theorem ofCall?_call (event : Event) : ofCall? event.call = some event := by
  cases event <;> rfl

end Event

structure Scopes where
  current : Value
  outer : List Value

def Scopes.after (scopes : Scopes) : Event → Scopes
  | .got _ | .started _ => scopes
  | .set context => { scopes with current := context }
  | .entered context => ⟨context, scopes.current :: scopes.outer⟩
  | .left =>
    match scopes.outer with
    | before :: outer => ⟨before, outer⟩
    | [] => scopes

def latest (inherited : Value) (history : List Event) : Value :=
  (history.foldl Scopes.after ⟨inherited, []⟩).current

/-- What a task does: it asks for its context and sets it, opens scopes, pauses and fails anywhere in
them, and starts other tasks by their numbers. -/
inductive Program where
  | done (result : Value)
  | fail (fault : Fault)
  | get (next : Value → Program)
  | set (context : Value) (next : Program)
  | scope (context : Value) (body : Program) (next : Except Fault Value → Program)
  | start (task : Nat) (next : Program)
  | other (op : Op) (apart : op.isApart = true) (next : Program)

def note (event : Event) : Process Unit :=
  request (.note event.call)

namespace Program

def process (host : Host) : Program → Process Value
  | .done result => .done result
  | .fail fault => .fail fault
  | .get next => do
    let found ← Context.current host
    note (.got found)
    (next found).process host
  | .set context next => do
    Context.set host context
    note (.set context)
    next.process host
  | .scope context body next => do
    let inner : Process Value := do
      note (.entered context)
      body.process host
    let outcome ← (within context inner).attempt
    note .left
    (next outcome).process host
  | .start task next => do
    note (.started task)
    next.process host
  | .other op _ next => .ask op fun _ => next.process host

/-- What a program comes to by itself: its events, each with the context in which it was noted, its
result, and its last context. -/
structure Account where
  moments : List (Event × Value)
  result : Except Fault Value
  last : Value

def Account.after (moment : Event × Value) (account : Account) : Account :=
  { account with moments := moment :: account.moments }

def account (current : Value) : Program → Account
  | .done result => ⟨[], .ok result, current⟩
  | .fail fault => ⟨[], .error fault, current⟩
  | .get next => ((next current).account current).after (.got current, current)
  | .set context next => (next.account context).after (.set context, context)
  | .scope context body next =>
    let inner := body.account context
    let rest := (next inner.result).account current
    ⟨(.entered context, context) :: (inner.moments ++ (.left, current) :: rest.moments),
      rest.result, rest.last⟩
  | .start task next => (next.account current).after (.started task, current)
  | .other _ _ next => next.account current

def history (program : Program) (inherited : Value) : List Event :=
  (program.account inherited).moments.map (·.1)

end Program

def momentsOf (exchanges : List Exchange) : List (Event × Value) :=
  exchanges.filterMap fun exchange =>
    match exchange.op with
    | .note call => (Event.ofCall? call).map (·, exchange.context)
    | _ => none

@[simp] theorem momentsOf_append (first second : List Exchange) :
    momentsOf (first ++ second) = momentsOf first ++ momentsOf second :=
  List.filterMap_append

theorem momentsOf_note {context : Value} {call : Call} {event : Event} (rest : List Exchange)
    (read : Event.ofCall? call = some event) :
    momentsOf (⟨context, .note call, ()⟩ :: rest) = (event, context) :: momentsOf rest := by
  simp [momentsOf, read]

theorem momentsOf_apart {context : Value} {op : Op} {answer : op.Answer} (rest : List Exchange)
    (noNote : ∀ call, op ≠ .note call) :
    momentsOf (⟨context, op, answer⟩ :: rest) = momentsOf rest := by
  unfold momentsOf
  rw [List.filterMap_cons]
  split
  next same => rfl
  next same =>
    dsimp only at same
    split at same
    · exact absurd rfl (noNote _)
    · cases same

variable {host : Host} {context last : Value} {exchanges : List Exchange}

theorem Program.of_ends_process {program : Program} {result : Except Fault Value}
    (ends : Ends Config.Plain context (program.process host) exchanges result last) :
    momentsOf exchanges = (program.account context).moments ∧
      result = (program.account context).result ∧ last = (program.account context).last := by
  -- In a scope the context at the end of the body is of no account: the one from before comes back.
  induction program generalizing context exchanges result last with
  | done value =>
    obtain ⟨rfl, rfl, rfl⟩ := ends_done_iff.mp ends
    exact ⟨rfl, rfl, rfl⟩
  | fail fault =>
    obtain ⟨rfl, rfl, rfl⟩ := ends_fail_iff.mp ends
    exact ⟨rfl, rfl, rfl⟩
  | get next ih =>
    simp only [process, bind_eq, note, request, ask_bind, done_bind, ends_current_bind_iff,
      ends_ask_note_iff] at ends
    obtain ⟨config, -, -, rfl, rest, rfl, ends⟩ := ends
    obtain ⟨moments, rfl, rfl⟩ := ih _ ends
    refine ⟨?_, rfl, rfl⟩
    rw [momentsOf_apart _ (by simp), momentsOf_apart _ (by simp),
      momentsOf_note _ (Event.ofCall?_call _), moments]
    rfl
  | set changed next ih =>
    simp only [process, bind_eq, note, request, ask_bind, done_bind, ends_set_bind_iff,
      ends_ask_note_iff] at ends
    obtain ⟨config, -, -, rfl, rest, rfl, ends⟩ := ends
    obtain ⟨moments, rfl, rfl⟩ := ih ends
    refine ⟨?_, rfl, rfl⟩
    rw [momentsOf_apart _ (by simp), momentsOf_apart _ (by simp),
      momentsOf_note _ (Event.ofCall?_call _), moments]
    rfl
  | scope changed body next inside after =>
    simp only [process, bind_eq, note, request, ask_bind, done_bind, ends_attempt_bind_iff,
      ends_within_iff, ends_ask_note_iff] at ends
    obtain ⟨_, _, outcome, _, rfl, ⟨_, mid, ⟨during, rfl, within⟩, rfl, rfl⟩, rest, rfl, ends⟩ := ends
    obtain ⟨first, rfl, rfl⟩ := inside within
    obtain ⟨second, rfl, rfl⟩ := after _ ends
    refine ⟨?_, rfl, rfl⟩
    simp only [List.cons_append, List.append_assoc, List.nil_append]
    rw [momentsOf_apart _ (by simp), momentsOf_apart _ (by simp),
      momentsOf_note _ (Event.ofCall?_call _), momentsOf_append, momentsOf_apart _ (by simp),
      momentsOf_note _ (Event.ofCall?_call _), first, second]
    rfl
  | start task next ih =>
    simp only [process, bind_eq, note, request, ask_bind, done_bind, ends_ask_note_iff] at ends
    obtain ⟨rest, rfl, ends⟩ := ends
    obtain ⟨moments, rfl, rfl⟩ := ih ends
    refine ⟨?_, rfl, rfl⟩
    rw [momentsOf_note _ (Event.ofCall?_call _), moments]
    rfl
  | other op apart next ih =>
    simp only [process, ends_ask_iff] at ends
    obtain ⟨answer, mid, rest, told, rfl, ends⟩ := ends
    obtain rfl : mid = context := by
      cases op <;> first | exact told | exact told.2 | cases apart
    obtain ⟨moments, rfl, rfl⟩ := ih ends
    refine ⟨?_, rfl, rfl⟩
    rw [momentsOf_apart _ (by rintro call rfl; cases apart), moments]
    rfl

def Faithful : Scopes → List (Event × Value) → Prop
  | _, [] => True
  | scopes, (event, context) :: rest =>
    (scopes.after event).current = context ∧ (∀ found, event = .got found → found = context) ∧
      Faithful (scopes.after event) rest

theorem faithful_append {scopes : Scopes} {first second : List (Event × Value)} :
    Faithful scopes (first ++ second) ↔
      Faithful scopes first ∧
        Faithful ((first.map (·.1)).foldl Scopes.after scopes) second := by
  induction first generalizing scopes with
  | nil => simp [Faithful]
  | cons moment rest ih => simp [Faithful, ih, and_assoc]

/-- A program keeps to its scopes: each moment is faithful to those before it, and at the end the
scopes around the program are what they were. -/
theorem Program.faithful_account (program : Program) (current : Value) (outer : List Value) :
    Faithful ⟨current, outer⟩ (program.account current).moments ∧
      ((program.account current).moments.map (·.1)).foldl Scopes.after ⟨current, outer⟩ =
        ⟨(program.account current).last, outer⟩ := by
  induction program generalizing current outer with
  | done value => exact ⟨trivial, rfl⟩
  | fail fault => exact ⟨trivial, rfl⟩
  | get next ih =>
    obtain ⟨faithful, scopes⟩ := ih current current outer
    exact ⟨⟨rfl, fun _ same => (Event.got.inj same).symm, faithful⟩, scopes⟩
  | set context next ih =>
    obtain ⟨faithful, scopes⟩ := ih context outer
    exact ⟨⟨rfl, by simp, faithful⟩, scopes⟩
  | scope context body next inside after =>
    obtain ⟨within, scopes⟩ := inside context (current :: outer)
    obtain ⟨faithful, last⟩ := after (body.account context).result current outer
    constructor
    · refine ⟨rfl, by simp, faithful_append.mpr ⟨within, ?_⟩⟩
      simp only [Scopes.after, scopes]
      exact ⟨rfl, by simp, faithful⟩
    · simp only [account, List.map_cons, List.map_append, List.foldl_cons, List.foldl_append,
        Scopes.after, scopes]
      exact last
  | start task next ih =>
    obtain ⟨faithful, scopes⟩ := ih current outer
    exact ⟨⟨rfl, by simp, faithful⟩, scopes⟩
  | other op apart next ih => exact ih current outer

theorem Program.got_eq_latest {program : Program} {inherited found : Value}
    {before after : List Event}
    (got : program.history inherited = before ++ .got found :: after) :
    found = latest inherited before := by
  obtain ⟨first, rest, split, rfl, same⟩ := List.map_eq_append_iff.mp got
  obtain ⟨⟨_, context⟩, more, rfl, rfl, rfl⟩ := List.map_eq_cons_iff.mp same
  have faithful := (program.faithful_account inherited []).1
  rw [split, faithful_append] at faithful
  obtain ⟨current, known, -⟩ := faithful.2
  exact (known found rfl).trans current.symm

def starts (moments : List (Event × Value)) : List (Nat × Value) :=
  moments.filterMap fun moment =>
    match moment.1 with
    | .started task => some (task, moment.2)
    | _ => none

/-- The program of the task at an address, and the context that it inherits: those of a first task
are given, and any other one has them from the program of its creator. -/
def lineage (programs : Nat → Program) (roots : List (Program × Value)) :
    List Nat → Option (Program × Value)
  | [] => none
  | [place] => roots[place]?
  | rank :: creator => do
    let (program, inherited) ← lineage programs roots creator
    let (task, context) ← (starts (program.account inherited).moments)[rank]?
    return (programs task, context)

def launch (host : Host) (programs : Nat → Program) (call : Call) : Option (Process Value) :=
  match Event.ofCall? call with
  | some (.started task) => some ((programs task).process host)
  | _ => none

variable {programs : Nat → Program} {roots : List (Program × Value)} {member : Member Value}

theorem started_eq : member.started (launch host programs) =
    (starts (momentsOf member.past)).map fun start => ((programs start.1).process host, start.2) := by
  unfold Member.started starts momentsOf
  rw [List.filterMap_filterMap, List.map_filterMap]
  congr 1
  funext exchange
  obtain ⟨context, op, answer⟩ := exchange
  cases op
  case note call =>
    simp only [Member.started?, launch]
    cases Event.ofCall? call with
    | none => rfl
    | some event => cases event <;> rfl
  all_goals rfl

def Descends (host : Host) (programs : Nat → Program) (roots : List (Program × Value))
    (program : Program) (member : Member Value) : Prop :=
  lineage programs roots member.address = some (program, member.inherited) ∧
    member.origin = program.process host

/-- What a task has noted so far, and what it would note from then on if it ran to its end, are the
moments of its program. -/
theorem moments_eq_append {program : Program} {rest : List Exchange} {result : Except Fault Value}
    (lived : member.Lived Config.Plain) (origin : member.origin = program.process host)
    (ends : Ends Config.Plain member.context member.process rest result last) :
    (program.account member.inherited).moments = momentsOf member.past ++ momentsOf rest ∧
      result = (program.account member.inherited).result := by
  have whole := lived.trans ends
  rw [origin] at whole
  obtain ⟨moments, same, -⟩ := Program.of_ends_process whole
  rw [← moments, momentsOf_append]
  exact ⟨rfl, same⟩

theorem exists_ends_plain (context : Value) (process : Process Value) :
    ∃ exchanges result last, Ends Config.Plain context process exchanges result last :=
  exists_ends ⟨{}, rfl, rfl, rfl⟩ context process

theorem descends_of_child? {program : Program} {child : Member Value}
    (lived : member.Lived Config.Plain) (descends : Descends host programs roots program member)
    (born : member.child? (launch host programs) = some child) :
    ∃ program, Descends host programs roots program child := by
  obtain ⟨op, next, start, asks, starting, rfl⟩ := Member.eq_fresh_of_child? born
  cases op <;> try cases starting
  next call =>
  obtain ⟨process, launched, rfl⟩ := Option.map_eq_some_iff.mp starting
  unfold launch at launched
  split at launched
  case h_2 => cases launched
  next task read =>
  cases launched
  refine ⟨programs task, ?_, rfl⟩
  -- However the creator goes on, its account has the start at just this place.
  obtain ⟨exchanges, result, last, ends⟩ := exists_ends_plain member.context member.process
  obtain ⟨moments, -⟩ := moments_eq_append lived descends.2 ends
  rw [asks, ends_ask_note_iff] at ends
  obtain ⟨rest, rfl, -⟩ := ends
  rw [momentsOf_note rest read] at moments
  have address : member.address ≠ [] := by
    intro none
    have known := descends.1
    rw [none] at known
    cases known
  obtain ⟨place, places, same⟩ := List.exists_cons_of_ne_nil address
  have known := descends.1
  rw [same] at known
  simp only [Member.fresh, started_eq, List.length_map, same, lineage, known, moments, starts,
    Option.bind_eq_bind, Option.bind_some, List.filterMap_append, List.filterMap_cons]
  simp

def company (host : Host) (world : World) (roots : List (Program × Value)) : Cohort Value :=
  .begin world (roots.map fun root => (root.1.process host, root.2))

theorem descends_of_mem_company {world : World} (mem : member ∈ (company host world roots).members) :
    ∃ program, Descends host programs roots program member := by
  obtain ⟨place, root, found, rfl⟩ := Cohort.eq_fresh_of_mem_begin mem
  rw [List.getElem?_map, Option.map_eq_some_iff] at found
  obtain ⟨⟨program, inherited⟩, given, rfl⟩ := found
  exact ⟨program, given, rfl⟩

theorem descends_of_play {cohort : Cohort Value} {schedule : List Nat}
    (lived : ∀ member ∈ cohort.members, member.Lived Config.Plain)
    (descends : ∀ member ∈ cohort.members, ∃ program, Descends host programs roots program member)
    (plain : cohort.Throughout (launch host programs) (World.InForce Config.Plain) schedule) :
    ∀ member ∈ (cohort.play (launch host programs) schedule).members,
      ∃ program, Descends host programs roots program member := by
  induction schedule generalizing cohort with
  | nil => exact descends
  | cons place rest ih =>
    obtain ⟨now, later⟩ := Cohort.throughout_cons plain
    refine ih (Cohort.lived_of_take now lived) (fun member mem => ?_) later
    rcases Cohort.mem_take mem with kept | ⟨old, inside, rfl | born⟩
    · exact descends member kept
    · obtain ⟨program, address, origin⟩ := descends old inside
      exact ⟨program, by simpa using address, by simpa using origin⟩
    · obtain ⟨program, known⟩ := descends old inside
      exact descends_of_child? (lived old inside) known born

def historyOf (member : Member Value) : List Event :=
  (momentsOf member.past).map (·.1)

structure Isolated (program : Program) (member : Member Value) : Prop where
  sees : ∀ before found after, historyOf member = before ++ .got found :: after →
    found = latest member.inherited before
  follows : historyOf member <+: program.history member.inherited
  ends : ∀ result, member.process = .ofExcept result →
    historyOf member = program.history member.inherited ∧
      result = (program.account member.inherited).result

theorem isolated_of_lived {program : Program} (lived : member.Lived Config.Plain)
    (descends : Descends host programs roots program member) : Isolated program member := by
  have follows : historyOf member <+: program.history member.inherited := by
    obtain ⟨rest, result, last, ends⟩ := exists_ends_plain member.context member.process
    obtain ⟨moments, -⟩ := moments_eq_append lived descends.2 ends
    rw [Program.history, moments, List.map_append]
    exact List.prefix_append _ _
  refine ⟨fun before found after got => ?_, follows, fun result ended => ?_⟩
  · obtain ⟨rest, whole⟩ := follows
    rw [got, List.append_assoc, List.cons_append] at whole
    exact Program.got_eq_latest whole.symm
  · have ends : Ends Config.Plain member.context member.process [] result member.context := by
      rw [ended]
      exact .here
    obtain ⟨moments, same⟩ := moments_eq_append lived descends.2 ends
    refine ⟨?_, same⟩
    rw [Program.history, moments]
    exact congrArg _ (List.append_nil _).symm

/-- Contexts are isolated. As long as the host keeps no contexts itself, each task of a company comes
by its own history alone to all that it sees, with a copy of its creator's context to begin with; so
under another schedule the task of the same address sees the same. And a task that takes its turn
leaves every other one as it is. -/
theorem contexts_are_isolated (host : Host) (programs : Nat → Program)
    (roots : List (Program × Value)) (world : World) (schedule : List Nat)
    (plain : (company host world roots).Throughout (launch host programs)
      (World.InForce Config.Plain) schedule) :
    (∀ member ∈ ((company host world roots).play (launch host programs) schedule).members,
      ∃ program, lineage programs roots member.address = some (program, member.inherited) ∧
        Isolated program member ∧
        ∀ another, (company host world roots).Throughout (launch host programs)
          (World.InForce Config.Plain) another →
        ∀ twin ∈ ((company host world roots).play (launch host programs) another).members,
          twin.address = member.address →
          twin.inherited = member.inherited ∧
            (historyOf twin <+: historyOf member ∨ historyOf member <+: historyOf twin)) ∧
    ∀ place other, other ≠ place →
      other < ((company host world roots).play (launch host programs) schedule).members.length →
      ((company host world roots).play (launch host programs) (schedule ++ [place])).members[other]? =
        ((company host world roots).play (launch host programs) schedule).members[other]? := by
  have facts : ∀ schedule, (company host world roots).Throughout (launch host programs)
      (World.InForce Config.Plain) schedule →
      ∀ member ∈ ((company host world roots).play (launch host programs) schedule).members,
        ∃ program, Descends host programs roots program member ∧ Isolated program member := by
    intro schedule plain member mem
    obtain ⟨program, descends⟩ := descends_of_play Cohort.lived_of_mem_begin
      (fun member mem => descends_of_mem_company mem) plain member mem
    have lived := Cohort.lived_of_play Cohort.lived_of_mem_begin plain member mem
    exact ⟨program, descends, isolated_of_lived lived descends⟩
  constructor
  · intro member mem
    obtain ⟨program, ⟨address, -⟩, isolated⟩ := facts schedule plain member mem
    refine ⟨program, address, isolated, fun another calm twin there same => ?_⟩
    obtain ⟨found, ⟨known, -⟩, other⟩ := facts another calm twin there
    rw [same, address] at known
    obtain ⟨rfl, inherited⟩ : program = found ∧ member.inherited = twin.inherited := by
      simpa using known
    have follows := other.follows
    rw [← inherited] at follows
    exact ⟨inherited.symm, List.prefix_or_prefix_of_prefix follows isolated.follows⟩
  · intro place other apart there
    rw [Cohort.play_append]
    exact Cohort.getElem?_take_of_ne apart there

def contextOf (user : String) : Value :=
  .context (.table [(.str "user_id", .str user)])

def creator : Program :=
  .scope (contextOf "ann") (.start 0 (.other .pause rfl (.get .done))) fun _ => .get .done

def intruder : Program :=
  .get fun _ => .set (contextOf "bob") (.get .done)

/-- The creator pauses in its scope while the task that it has started sets its own context, and
leaves the scope while the other one looks at it. -/
def crossing : List Nat :=
  [0, 0, 0, 0, 1, 1, 1, 1, 1, 1, 0, 0, 0, 0, 0, 0, 1, 1, 1, 0, 0, 0]

theorem crossing_plain (answer : Value) :
    (company (.answering answer) {} [(creator, .null)]).Throughout
      (launch (.answering answer) fun _ => intruder) (World.InForce Config.Plain) crossing := by
  have polite : (Host.answering answer).Within (Asks (Op.Puts Config.Plain)) :=
    ⟨fun _ _ => trivial, fun _ _ => trivial⟩
  have looks : ((Program.get .done).process (.answering answer)).Asks (Op.Puts Config.Plain) :=
    (asks_current polite).bind fun _ => (asks_request trivial).bind fun _ => trivial
  refine (Cohort.orderly_begin ⟨{}, rfl, rfl, rfl, rfl⟩ ?_ ?_).throughout _
  · intro root mem
    obtain rfl := List.mem_singleton.mp mem
    refine (asks_within ((asks_request trivial).bind fun _ => ?_)).attempt.bind fun _ => ?_
    · exact (asks_request trivial).bind fun _ => ⟨trivial, fun _ => looks⟩
    · exact (asks_request trivial).bind fun _ => looks
  · intro call process launched
    unfold launch at launched
    split at launched
    · cases launched
      refine (asks_current polite).bind fun _ => (asks_request trivial).bind fun _ => ?_
      exact (asks_set polite).bind fun _ => (asks_request trivial).bind fun _ => looks
    · cases launched

theorem crossing_isolated :
    (((company (.answering .null) {} [(creator, .null)]).play
        (launch (.answering .null) fun _ => intruder) crossing).members.map fun member =>
          (member.address, historyOf member)) =
      [([0], [.entered (contextOf "ann"), .started 0, .got (contextOf "ann"), .left, .got .null]),
       ([0, 0], [.got (contextOf "ann"), .set (contextOf "bob"), .got (contextOf "bob")])] ∧
    ∀ member ∈ ((company (.answering .null) {} [(creator, .null)]).play
        (launch (.answering .null) fun _ => intruder) crossing).members,
      ∃ program, Isolated program member := by
  refine ⟨rfl, fun member mem => ?_⟩
  obtain ⟨program, -, isolated, -⟩ := (contexts_are_isolated (.answering .null) (fun _ => intruder)
    [(creator, .null)] {} crossing (crossing_plain _)).1 member mem
  exact ⟨program, isolated⟩

end Context

end Gatekeeper
