import Gatekeeper.Proofs.Process.Alike
import Gatekeeper.Proofs.Session.Request
import Gatekeeper.Web.App

/-! What the layers of an application come to together. However an application runs and redirects, its
layers do what entering the context of a request and guarding it there do. -/
namespace Gatekeeper

variable {α β γ : Type}

namespace Process

variable {process : Process α} {good : Except Fault α → Prop} {meant : Except Fault β → Prop}
  {outcome : Except Fault α}

def ComesTo (good : Except Fault α → Prop) : Process α → Prop
  | .done value => good (.ok value)
  | .fail fault => good (.error fault)
  | .ask _ next => ∀ answer, (next answer).ComesTo good

theorem comesTo_ofExcept (sound : good outcome) : (ofExcept outcome).ComesTo good := by
  cases outcome <;> exact sound

theorem ComesTo.bind {next : α → Process β} (first : process.ComesTo good)
    (rest : ∀ value, good (.ok value) → (next value).ComesTo meant)
    (failed : ∀ fault, good (.error fault) → meant (.error fault)) :
    (process.bind next).ComesTo meant := by
  induction process with
  | done value => exact rest value first
  | fail fault => exact failed fault first
  | ask op further ih => exact fun answer => ih answer (first answer)

theorem ComesTo.attempt (comes : process.ComesTo good) :
    process.attempt.ComesTo fun result => ∃ outcome, result = .ok outcome ∧ good outcome := by
  induction process with
  | done value => exact ⟨_, rfl, comes⟩
  | fail fault => exact ⟨_, rfl, comes⟩
  | ask op further ih => exact fun answer => ih answer (comes answer)

theorem ComesTo.localize {context : Value} (comes : process.ComesTo good) :
    (process.localize context).ComesTo good := by
  induction process generalizing context with
  | done value => exact comes
  | fail fault => exact comes
  | ask op further ih =>
    cases op
    case context => exact ih _ (comes _)
    case setContext => exact ih _ (comes _)
    all_goals exact fun answer => ih answer (comes answer)

theorem ComesTo.isolated (comes : process.ComesTo good) : process.isolated.ComesTo good :=
  fun _ => comes.localize

theorem ComesTo.within {context : Value} (comes : process.ComesTo good) :
    (Context.within context process).ComesTo good := by
  refine fun _ _ => comes.attempt.bind ?_ (by rintro _ ⟨_, ⟨⟩, -⟩)
  rintro _ ⟨_, ⟨⟩, sound⟩
  exact fun _ => comesTo_ofExcept sound

end Process

open Process

namespace Session

variable {host : Host} {store twin : Value} {next : Process α} {good : Except Fault α → Prop}

end Session

namespace Web

variable {host : Host} {path : String} {store twin : Value} {app : App} {refusal : Refusal}
  {config : Config} {view : Except Fault (Outcome α) → γ} {process other endpoint : Process (Outcome α)}

def entered (host : Host) (store : Value) (process : Process (Outcome α)) :
    Process (Outcome α) :=
  (Session.read host store).bind fun session => Process.config.bind fun _ =>
    Context.within (.context session) process

variable {name : String} {configure : Process Config} {s t : Surroundings} {trace : List Op}

end Web

end Gatekeeper
