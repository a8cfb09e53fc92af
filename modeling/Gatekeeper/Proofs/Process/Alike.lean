import Gatekeeper.Proofs.Context

/-! What can be seen of a task from outside: what it asks for, apart from its own context, how that is
answered, and what it comes to. Two tasks of which the same can be seen are alike. -/
namespace Gatekeeper

variable {α β γ δ : Type}

/-- What is seen of an exchange. The context of a task is its own matter. -/
def Exchange.seen? : Exchange → Option (Σ op : Op, op.Answer)
  | ⟨_, .context, _⟩ | ⟨_, .setContext _, _⟩ => none
  | ⟨_, op, answer⟩ => some ⟨op, answer⟩

namespace Process

variable {allowed : Config → Prop} {context mid last own : Value} {process : Process α}
  {seen : List (Σ op : Op, op.Answer)} {result : Except Fault α}

def Shows (allowed : Config → Prop) (context : Value) (process : Process α)
    (seen : List (Σ op : Op, op.Answer)) (result : Except Fault α) (last : Value) : Prop :=
  ∃ exchanges, Ends allowed context process exchanges result last ∧
    exchanges.filterMap Exchange.seen? = seen

theorem shows_bind_iff {next : α → Process β} {result : Except Fault β} :
    Shows allowed context (process.bind next) seen result last ↔
      (∃ first second value mid, seen = first ++ second ∧
        Shows allowed context process first (.ok value) mid ∧
        Shows allowed mid (next value) second result last) ∨
      ∃ fault, result = .error fault ∧ Shows allowed context process seen (.error fault) last := by
  simp only [Shows, ends_bind_iff]
  constructor
  · rintro ⟨_, ⟨first, second, value, mid, rfl, before, after⟩ | ⟨fault, rfl, failed⟩, rfl⟩
    · exact .inl ⟨_, _, value, mid, List.filterMap_append, ⟨first, before, rfl⟩,
        ⟨second, after, rfl⟩⟩
    · exact .inr ⟨fault, rfl, _, failed, rfl⟩
  · rintro (⟨_, _, value, mid, rfl, ⟨first, before, rfl⟩, ⟨second, after, rfl⟩⟩ |
      ⟨fault, rfl, exchanges, failed, rfl⟩)
    · exact ⟨first ++ second, .inl ⟨first, second, value, mid, rfl, before, after⟩,
        List.filterMap_append⟩
    · exact ⟨exchanges, .inr ⟨fault, rfl, failed⟩, rfl⟩

theorem shows_within_iff {inner : Value} :
    Shows allowed context (Context.within inner process) seen result last ↔
      last = context ∧ ∃ mid, Shows allowed inner process seen result mid := by
  simp only [Shows, Context.ends_within_iff]
  constructor
  · rintro ⟨_, ⟨during, mid, ends, rfl, rfl⟩, rfl⟩
    exact ⟨rfl, mid, during, ends, by simp [List.filterMap_cons, Exchange.seen?]⟩
  · rintro ⟨rfl, mid, during, ends, rfl⟩
    exact ⟨_, ⟨during, mid, ends, rfl, rfl⟩, by simp [List.filterMap_cons, Exchange.seen?]⟩

/-- In no context and under no schedule can the two be told apart by what is seen of them and by what
the view lets through of their results. -/
def Alike (allowed : Config → Prop) (view : Except Fault α → γ) (process other : Process α) :
    Prop :=
  ∀ context seen shown,
    (∃ result last, Shows allowed context process seen result last ∧ view result = shown) ↔
      ∃ result last, Shows allowed context other seen result last ∧ view result = shown

variable {view : Except Fault α → γ} {other third : Process α}

theorem Alike.refl (process : Process α) : Alike allowed view process process :=
  fun _ _ _ => Iff.rfl

theorem Alike.symm (alike : Alike allowed view process other) :
    Alike allowed view other process :=
  fun context seen shown => (alike context seen shown).symm

theorem Alike.trans (first : Alike allowed view process other)
    (second : Alike allowed view other third) : Alike allowed view process third :=
  fun context seen shown => (first context seen shown).trans (second context seen shown)

theorem alike_bind_of_only {first : Process δ} {next further : δ → Process α} {may : δ → Prop}
    (only : ∀ {context seen value mid}, Shows allowed context first seen (.ok value) mid → may value)
    (alike : ∀ value, may value → Alike allowed view (next value) (further value)) :
    Alike allowed view (first.bind next) (first.bind further) := by
  have half : ∀ {next further : δ → Process α},
      (∀ value, may value → Alike allowed view (next value) (further value)) →
      ∀ context seen shown,
      (∃ result last, Shows allowed context (first.bind next) seen result last ∧
        view result = shown) →
      ∃ result last, Shows allowed context (first.bind further) seen result last ∧
        view result = shown := by
    intro next further alike context seen shown
    simp only [shows_bind_iff]
    rintro ⟨result, last, ⟨before, after, value, mid, rfl, shows, more⟩ | ⟨fault, rfl, failed⟩, same⟩
    · obtain ⟨other, final, moreToo, sameToo⟩ :=
        (alike value (only shows) mid after shown).mp ⟨result, last, more, same⟩
      exact ⟨other, final, .inl ⟨before, after, value, mid, rfl, shows, moreToo⟩, sameToo⟩
    · exact ⟨_, last, .inr ⟨fault, rfl, failed⟩, same⟩
  exact fun context seen shown => ⟨half alike context seen shown,
    half (fun value possible => (alike value possible).symm) context seen shown⟩

theorem Alike.bind {first : Process δ} {next further : δ → Process α}
    (alike : ∀ value, Alike allowed view (next value) (further value)) :
    Alike allowed view (first.bind next) (first.bind further) :=
  alike_bind_of_only (fun _ => trivial) fun value (_ : True) => alike value

theorem Alike.within {inner : Value} (alike : Alike allowed view process other) :
    Alike allowed view (Context.within inner process) (Context.within inner other) := by
  have outside : ∀ {body : Process α} {context seen shown},
      (∃ result last, Shows allowed context (Context.within inner body) seen result last ∧
        view result = shown) ↔
      ∃ result last, Shows allowed inner body seen result last ∧ view result = shown := by
    intro body context seen shown
    simp only [shows_within_iff]
    constructor
    · rintro ⟨result, _, ⟨rfl, mid, shows⟩, same⟩
      exact ⟨result, mid, shows, same⟩
    · rintro ⟨result, mid, shows, same⟩
      exact ⟨result, context, ⟨rfl, mid, shows⟩, same⟩
  exact fun context seen shown => outside.trans ((alike inner seen shown).trans outside.symm)

end Process

end Gatekeeper
