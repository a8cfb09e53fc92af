import Gatekeeper.Process.Basic
import Gatekeeper.Text.Case

/-! Settings in the environment. Their names are in capitals behind a common start. -/
namespace Gatekeeper.Environment

def ownStart : String := "SESSIONKIT_"

def setting? (start name : String) : Process (Option String) :=
  Process.request (.environment (start ++ Text.upper name))

/-- Whether an application runs in production. It does so only if the environment says it. -/
def isProduction (start : String) : Process Bool := do
  let mode ← setting? start "env"
  return Text.lower (mode.getD "development") == "production"

end Gatekeeper.Environment
