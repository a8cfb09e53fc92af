import Gatekeeper.Proofs.Process.Exchange

/-! Cohorts of tasks. A task may start others, each with a copy of its context, and then goes on
beside them. A schedule names the tasks one after another, and the task that is named makes one
request; so every order in which tasks can take turns is among the schedules, wherever they pause. -/
namespace Gatekeeper

variable {α : Type}

structure Member (α : Type) where
  /-- Its place among the tasks that were started by the same one, then that of its creator, and so
  on to the first. -/
  address : List Nat
  origin : Process α
  inherited : Value
  process : Process α
  context : Value
  past : List Exchange

namespace Member

def fresh (address : List Nat) (origin : Process α) (inherited : Value) : Member α :=
  ⟨address, origin, inherited, origin, inherited, []⟩

def step (world : World) (member : Member α) : Member α × World :=
  match member.process with
  | .ask op next =>
    let reply := (Surroundings.mk world member.context).answer op
    ({ member with
        process := next reply.1
        context := reply.2.context
        past := member.past ++ [⟨member.context, op, reply.1⟩] }, reply.2.world)
  | _ => (member, world)

/-- The task that a request starts, and the context that it inherits. Whoever starts a task calls a
function of the host for it; `launch` tells these calls from others. -/
def started? (launch : Call → Option (Process α)) (context : Value) : Op → Option (Process α × Value)
  | .note call => (launch call).map (·, context)
  | _ => none

def started (launch : Call → Option (Process α)) (member : Member α) : List (Process α × Value) :=
  member.past.filterMap fun exchange => started? launch exchange.context exchange.op

def child? (launch : Call → Option (Process α)) (member : Member α) : Option (Member α) :=
  match member.process with
  | .ask op _ => (started? launch member.context op).map fun start =>
      fresh ((member.started launch).length :: member.address) start.1 start.2
  | _ => none

end Member

structure Cohort (α : Type) where
  world : World
  members : List (Member α)

def World.InForce (allowed : Config → Prop) (world : World) : Prop :=
  ∃ config, world.config = some config ∧ allowed config

namespace Cohort

def begin (world : World) (roots : List (Process α × Value)) : Cohort α :=
  ⟨world, roots.mapIdx fun place root => .fresh [place] root.1 root.2⟩

variable (launch : Call → Option (Process α))

def take (cohort : Cohort α) (place : Nat) : Cohort α :=
  match cohort.members[place]? with
  | some member =>
    ⟨(member.step cohort.world).2,
      cohort.members.set place (member.step cohort.world).1 ++ (member.child? launch).toList⟩
  | none => cohort

def play (cohort : Cohort α) (schedule : List Nat) : Cohort α :=
  schedule.foldl (take launch) cohort

def Throughout (holds : World → Prop) (cohort : Cohort α) (schedule : List Nat) : Prop :=
  ∀ before after, schedule = before ++ after → holds (cohort.play launch before).world

variable {launch} {cohort : Cohort α} {place : Nat} {schedule : List Nat}

theorem throughout_cons {holds : World → Prop}
    (through : Throughout launch holds cohort (place :: schedule)) :
    holds cohort.world ∧ Throughout launch holds (cohort.take launch place) schedule := by
  refine ⟨through [] _ rfl, fun before after same => ?_⟩
  exact through (place :: before) after (by rw [same, List.cons_append])

theorem play_append (first second : List Nat) :
    cohort.play launch (first ++ second) = (cohort.play launch first).play launch second :=
  List.foldl_append

theorem getElem?_take_of_ne {other : Nat} (apart : other ≠ place)
    (there : other < cohort.members.length) :
    (cohort.take launch place).members[other]? = cohort.members[other]? := by
  unfold take
  split
  · rw [List.getElem?_append_left (by simpa using there), List.getElem?_set_ne apart.symm]
  · rfl

theorem mem_take {member : Member α} (mem : member ∈ (cohort.take launch place).members) :
    member ∈ cohort.members ∨ ∃ old ∈ cohort.members,
      member = (old.step cohort.world).1 ∨ old.child? launch = some member := by
  unfold take at mem
  split at mem
  next old found =>
    have inside := List.mem_of_getElem? found
    rcases List.mem_append.mp mem with kept | new
    · rcases List.mem_or_eq_of_mem_set kept with kept | rfl
      · exact .inl kept
      · exact .inr ⟨old, inside, .inl rfl⟩
    · exact .inr ⟨old, inside, .inr (Option.mem_toList.mp new)⟩
  · exact .inl mem

theorem world_take (cohort : Cohort α) (place : Nat) :
    (cohort.take launch place).world = cohort.world ∨
    ∃ old ∈ cohort.members, (cohort.take launch place).world = (old.step cohort.world).2 := by
  unfold take
  split
  next old found => exact .inr ⟨old, List.mem_of_getElem? found, rfl⟩
  · exact .inl rfl

end Cohort

open Process

def Member.Lived (allowed : Config → Prop) (member : Member α) : Prop :=
  Leads allowed member.inherited member.origin member.past member.process member.context

variable {allowed : Config → Prop} {launch : Call → Option (Process α)} {cohort : Cohort α}
  {schedule : List Nat} {member : Member α} {world : World}

theorem told_answer (inForce : world.InForce allowed) (context : Value) (op : Op) :
    Told allowed context op ((Surroundings.mk world context).answer op).1
      ((Surroundings.mk world context).answer op).2.context := by
  cases op
  case config => exact ⟨inForce, rfl⟩
  case context => exact ⟨rfl, rfl⟩
  all_goals rfl

namespace Member

theorem lived_fresh {address : List Nat} {origin : Process α} {inherited : Value} :
    (fresh address origin inherited).Lived allowed :=
  .here

/-- `Since allowed earlier later`: the exchanges of a task after a moment have led it from where it was
at that moment to where it is now. -/
def Since (allowed : Config → Prop) (earlier later : Member α) : Prop :=
  ∃ exchanges, later.past = earlier.past ++ exchanges ∧
    Leads allowed earlier.context earlier.process exchanges later.process later.context

theorem since_refl : Since allowed member member :=
  ⟨[], (List.append_nil _).symm, .here⟩

theorem since_step (member : Member α) (inForce : world.InForce allowed) :
    Since allowed member (member.step world).1 := by
  unfold Member.step
  split
  next op next asks =>
    refine ⟨_, rfl, ?_⟩
    rw [asks]
    exact .ask (told_answer inForce member.context op) .here
  · exact since_refl

theorem Since.trans {first second third : Member α} (before : Since allowed first second)
    (after : Since allowed second third) : Since allowed first third := by
  obtain ⟨earlier, past, leads⟩ := before
  obtain ⟨later, grown, more⟩ := after
  exact ⟨earlier ++ later, by rw [grown, past, List.append_assoc], leads.trans more⟩

@[simp] theorem address_step : (member.step world).1.address = member.address := by
  unfold Member.step
  split <;> rfl

@[simp] theorem origin_step : (member.step world).1.origin = member.origin := by
  unfold Member.step
  split <;> rfl

@[simp] theorem inherited_step : (member.step world).1.inherited = member.inherited := by
  unfold Member.step
  split <;> rfl

theorem Lived.step (inForce : world.InForce allowed) (lived : member.Lived allowed) :
    (member.step world).1.Lived allowed := by
  obtain ⟨exchanges, past, leads⟩ := since_step member inForce
  unfold Lived
  rw [past, inherited_step, origin_step]
  exact Leads.trans lived leads

theorem eq_fresh_of_child? {child : Member α} (born : member.child? launch = some child) :
    ∃ op next start, member.process = .ask op next ∧
      started? launch member.context op = some start ∧
      child = fresh ((member.started launch).length :: member.address) start.1 start.2 := by
  unfold child? at born
  split at born
  next op next asks =>
    obtain ⟨start, starts, rfl⟩ := Option.map_eq_some_iff.mp born
    exact ⟨op, next, start, asks, starts, rfl⟩
  · cases born

end Member

namespace Cohort

theorem lived_of_take (inForce : cohort.world.InForce allowed)
    (lived : ∀ member ∈ cohort.members, member.Lived allowed) {place : Nat} :
    ∀ member ∈ (cohort.take launch place).members, member.Lived allowed := by
  intro member mem
  rcases mem_take mem with kept | ⟨old, inside, rfl | born⟩
  · exact lived member kept
  · exact (lived old inside).step inForce
  · obtain ⟨-, -, start, -, -, rfl⟩ := Member.eq_fresh_of_child? born
    exact Member.lived_fresh

theorem lived_of_play (lived : ∀ member ∈ cohort.members, member.Lived allowed)
    (through : Throughout launch (World.InForce allowed) cohort schedule) :
    ∀ member ∈ (cohort.play launch schedule).members, member.Lived allowed := by
  induction schedule generalizing cohort with
  | nil => exact lived
  | cons place rest ih =>
    obtain ⟨now, later⟩ := throughout_cons through
    exact ih (lived_of_take now lived) later

theorem since_of_play {place : Nat} (found : cohort.members[place]? = some member)
    (through : Throughout launch (World.InForce allowed) cohort schedule) :
    ∃ later, (cohort.play launch schedule).members[place]? = some later ∧
      Member.Since allowed member later := by
  -- At its own turns the task is told of the world in force then; the turns of others pass it by.
  induction schedule generalizing cohort member with
  | nil => exact ⟨member, found, Member.since_refl⟩
  | cons turn rest ih =>
    obtain ⟨now, later⟩ := throughout_cons through
    have there : place < cohort.members.length := (List.getElem?_eq_some_iff.mp found).1
    by_cases own : place = turn
    · subst own
      have turned : (cohort.take launch place).members[place]? =
          some (member.step cohort.world).1 := by
        unfold take
        rw [found, List.getElem?_append_left (by simpa using there), List.getElem?_set_self there]
      obtain ⟨last, reached, since⟩ := ih turned later
      exact ⟨last, reached, (member.since_step now).trans since⟩
    · exact ih ((getElem?_take_of_ne own there).trans found) later

theorem eq_fresh_of_mem_begin {roots : List (Process α × Value)}
    (mem : member ∈ (begin world roots).members) :
    ∃ place root, roots[place]? = some root ∧ member = .fresh [place] root.1 root.2 := by
  obtain ⟨place, bound, rfl⟩ := List.mem_mapIdx.mp mem
  exact ⟨place, roots[place], List.getElem?_eq_getElem bound, rfl⟩

theorem lived_of_mem_begin {roots : List (Process α × Value)} :
    ∀ member ∈ (begin world roots).members, member.Lived allowed := by
  intro member mem
  obtain ⟨place, root, -, rfl⟩ := eq_fresh_of_mem_begin mem
  exact Member.lived_fresh

end Cohort

theorem inForce_answer {op : Op} (puts : op.Puts allowed) (inForce : world.InForce allowed)
    (context : Value) :
    ((Surroundings.mk world context).answer op).2.world.InForce allowed := by
  cases op
  case setConfig config => exact puts
  case setEnvironment name value =>
    cases value <;> exact inForce
  all_goals exact inForce

namespace Cohort

structure Orderly (allowed : Config → Prop) (launch : Call → Option (Process α))
    (cohort : Cohort α) : Prop where
  inForce : cohort.world.InForce allowed
  members : ∀ member ∈ cohort.members, member.process.Asks (Op.Puts allowed)
  launched : ∀ call process, launch call = some process → process.Asks (Op.Puts allowed)

theorem orderly_begin {roots : List (Process α × Value)} (inForce : world.InForce allowed)
    (asks : ∀ root ∈ roots, root.1.Asks (Op.Puts allowed))
    (launched : ∀ call process, launch call = some process → process.Asks (Op.Puts allowed)) :
    (begin world roots).Orderly allowed launch := by
  refine ⟨inForce, fun member mem => ?_, launched⟩
  obtain ⟨place, root, found, rfl⟩ := eq_fresh_of_mem_begin mem
  exact asks root (List.mem_of_getElem? found)

theorem orderly_step {member : Member α} (asks : member.process.Asks (Op.Puts allowed))
    (inForce : world.InForce allowed) :
    (member.step world).1.process.Asks (Op.Puts allowed) ∧
      (member.step world).2.InForce allowed := by
  unfold Member.step
  split
  next op next same =>
    rw [same] at asks
    exact ⟨asks.2 _, inForce_answer asks.1 inForce _⟩
  · exact ⟨asks, inForce⟩

theorem Orderly.take (orderly : cohort.Orderly allowed launch) (place : Nat) :
    (cohort.take launch place).Orderly allowed launch where
  inForce := by
    rcases cohort.world_take place with same | ⟨old, inside, same⟩
    · rw [same]
      exact orderly.inForce
    · rw [same]
      exact (orderly_step (orderly.members old inside) orderly.inForce).2
  members := by
    intro member mem
    rcases mem_take mem with kept | ⟨old, inside, rfl | born⟩
    · exact orderly.members member kept
    · exact (orderly_step (orderly.members old inside) orderly.inForce).1
    · obtain ⟨op, -, start, -, starts, rfl⟩ := Member.eq_fresh_of_child? born
      cases op <;> try cases starts
      obtain ⟨process, known, rfl⟩ := Option.map_eq_some_iff.mp starts
      exact orderly.launched _ _ known
  launched := orderly.launched

theorem Orderly.play (orderly : cohort.Orderly allowed launch) (schedule : List Nat) :
    (cohort.play launch schedule).Orderly allowed launch := by
  induction schedule generalizing cohort with
  | nil => exact orderly
  | cons place rest ih => exact ih (orderly.take place)

theorem Orderly.throughout (orderly : cohort.Orderly allowed launch) (schedule : List Nat) :
    Throughout launch (World.InForce allowed) cohort schedule :=
  fun before _ _ => (orderly.play before).inForce

end Cohort

end Gatekeeper
