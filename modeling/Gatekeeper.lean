import Gatekeeper.Process.Gather
import Gatekeeper.Process.Run
import Gatekeeper.Proofs.Engine.Precedence
import Gatekeeper.Proofs.Engine.Snapshot
import Gatekeeper.Proofs.Session.Entry
import Gatekeeper.Scenario.Run
import Gatekeeper.Web.Location
import Gatekeeper.Proofs.Process.Exchange
import Gatekeeper.Proofs.Process.Cohort
import Gatekeeper.Proofs.Context.Isolation
import Gatekeeper.Proofs.Config.Update
import Gatekeeper.Proofs.Redirect
import Gatekeeper.Proofs.Engine.Consulting
import Gatekeeper.Proofs.Engine.Target
import Gatekeeper.Proofs.Session.Request
import Gatekeeper.Proofs.Engine.BuiltIn
import Gatekeeper.Proofs.Engine.Mediation
import Gatekeeper.Proofs.Process.Alike
import Gatekeeper.Proofs.Web.Layers
import Gatekeeper.Proofs.Table
import Gatekeeper.Proofs.Session.Carrier
import Gatekeeper.Proofs.Session.Slot
import Gatekeeper.Proofs.Pattern.Canonical
import Gatekeeper.Proofs.Session.Absence
import Gatekeeper.Proofs.Document.Data
import Gatekeeper.Proofs.Document.Json
import Gatekeeper.Proofs.Session.Current
import Gatekeeper.Proofs.Config.File
import Gatekeeper.Proofs.Engine.Total
import Gatekeeper.Proofs.Pattern.Subtree
import Gatekeeper.Proofs.Pattern.Wildcards
import Gatekeeper.Proofs.Rule.Reading
import Gatekeeper.Proofs.Rule.Writing
import Gatekeeper.Proofs.Config.Resolving
import Gatekeeper.Proofs.Config.Rewriting
import Gatekeeper.Proofs.Pattern.Widening
import Gatekeeper.Proofs.Engine.Reordering
import Gatekeeper.Proofs.Environment
import Gatekeeper.Proofs.Session.Reading
import Gatekeeper.Proofs.Session.Updating
import Gatekeeper.Proofs.Pattern.Inside
import Gatekeeper.Proofs.Pattern.Live
import Gatekeeper.Proofs.Pattern.Bound
import Gatekeeper.Proofs.Pattern.Fixpoint
import Gatekeeper.Proofs.Config.Agreement
import Gatekeeper.Document.Yaml.Glyph
import Gatekeeper.Document.Yaml.Grammar
import Gatekeeper.Document.Yaml.Object
