import Gatekeeper.Pattern.Validity
import Gatekeeper.Redirect
import Gatekeeper.Value.Text

/-! What can go wrong, by cause. The wording and the codes of all reports are given here once. -/
namespace Gatekeeper

inductive Code where
  | invalidLoginPath
  | invalidPattern
  | invalidRedirect
  | invalidRule
  | invalidContextStore
  | invalidSession
  | sessionNotFound
  | unauthorized
deriving DecidableEq, Repr

namespace Code

def name : Code → String
  | .invalidLoginPath => "invalid_login_path"
  | .invalidPattern => "invalid_pattern"
  | .invalidRedirect => "invalid_redirect"
  | .invalidRule => "invalid_rule"
  | .invalidContextStore => "invalid_context_store"
  | .invalidSession => "invalid_session"
  | .sessionNotFound => "session_not_found"
  | .unauthorized => "unauthorized"

def all : List Code :=
  [.invalidLoginPath, .invalidPattern, .invalidRedirect, .invalidRule, .invalidContextStore,
   .invalidSession, .sessionNotFound, .unauthorized]

def ofName? (name : String) : Option Code :=
  all.find? fun code => code.name == name

end Code

inductive Family where
  | general
  | configuration
  | validation
  | notFound
  | unauthorized
deriving DecidableEq, Repr

structure Report where
  family : Family
  code : Code
  message : String
  field : Option String
  cause : Option String

inductive ConfigFault where
  | loginPath (given : Value)
  | notTable (given : Value)
  | ambiguous (pattern : Value) (found : List RuleKind)
  | missingPattern
  | pattern (given : Value)
  | redirect (given : Value)
  | requirement (kind : RuleKind) (given pattern : Value)
  | unpaired

inductive Fault where
  | config (fault : ConfigFault)
  | invalidSession
  | invalidUpdate
  | noSession
  | unauthorized
  /-- A report that the host made itself. -/
  | reported (report : Report)
  | raised (message : String)
  /-- A redirection that is raised instead of returned. -/
  | redirection (status : Nat) (target : Value)
  | wrongType
  | noAttribute
  | noKey
  | noIndex
  | badValue (message : String)
  | noFile (name : String)
  | isDirectory
  | unknownFormat (extension : String)
  | notMapping (name : String)
  | badJson
  | badYaml
  | badEncoding
  | tooDeep
  | overflow

def RuleKind.expected : RuleKind → String
  | .role | .permission => "a non-empty string"
  | .roles | .permissions => "a list of non-empty strings"
  | .allow => "a callable"
  | .unrestricted => "nothing"

namespace ConfigFault

def code : ConfigFault → Code
  | .loginPath _ => .invalidLoginPath
  | .notTable _ | .ambiguous _ _ | .requirement _ _ _ => .invalidRule
  | .missingPattern | .pattern _ => .invalidPattern
  | .redirect _ => .invalidRedirect
  | .unpaired => .invalidContextStore

def field : ConfigFault → String
  | .loginPath _ => "login_path"
  | .notTable _ | .ambiguous _ _ => "protect"
  | .missingPattern | .pattern _ => "pattern"
  | .redirect _ => "redirect_to"
  | .requirement kind _ _ => kind.field
  | .unpaired => "context_store"

def refusal (field given reason : String) : String :=
  "Invalid " ++ field ++ ": \"" ++ given ++ "\". " ++ reason

def messageBy {m : Type → Type} [Monad m] (pen : Value.Pen m) : ConfigFault → m String
  | .loginPath given =>
    return refusal "login_path" (← given.textBy pen)
      ("Must start with a single / and be at most " ++ toString Redirect.maxLength ++
        " characters.")
  | .notTable given => return "Protection rule must be a mapping, got " ++ given.kindName
  | .ambiguous route found =>
    return "Protection rule for pattern " ++ (← route.shownBy pen) ++
      " must define exactly one of " ++ ", ".intercalate (RuleKind.all.map RuleKind.field) ++
      "; found " ++
      (← if found.isEmpty then pure "none"
        else (Value.list (found.map fun kind => .str kind.field)).shownBy pen)
  | .missingPattern => return "Protection rule is missing a pattern"
  | .pattern given =>
    return refusal "pattern" (← given.textBy pen)
      ("Patterns must start with / and be at most " ++ toString Pattern.maxLength ++
        " characters, with wildcards of 1-" ++ toString Pattern.maxRun ++
        " asterisks on segment boundaries.")
  | .redirect given =>
    return refusal "redirect_to" (← given.textBy pen)
      ("Must start with a single / and be at most " ++ toString Redirect.maxLength ++
        " characters, without backslashes or control characters.")
  | .requirement kind given route => do
    let route ← route.textBy pen
    return refusal kind.field (← given.textBy pen)
      ("Rule for pattern " ++ route ++ " expects " ++ kind.expected ++ ".")
  | .unpaired =>
    return "Both get_context_store and set_context_store must be provided together " ++
      "if using custom context storage."

def message (stack : Value.Stack) (fault : ConfigFault) : Except Value.Unwritable String :=
  fault.messageBy (.limited stack)

def report (stack : Value.Stack) (fault : ConfigFault) : Except Value.Unwritable Report :=
  return ⟨.configuration, fault.code, ← fault.message stack, some fault.field, none⟩

end ConfigFault

namespace Report

def title (report : Report) : String :=
  "[SessionKit] " ++ report.message

def toTable (report : Report) : Table :=
  [(.str "error", .str report.code.name), (.str "error_description", .str report.message)] ++
    (match report.field with
      | some field => if field.isEmpty then [] else [(.str "field", .str field)]
      | none => []) ++
    (report.cause.map fun cause => (.str "caused_by", .str cause)).toList

def invalidSession : Report :=
  ⟨.validation, .invalidSession,
   "Invalid session structure. Session must have a valid user_id and " ++
     "respect the session field limits.", none, none⟩

def invalidUpdate : Report :=
  ⟨.validation, .invalidSession,
   "Invalid session structure after update. Ensure all fields are valid.", none, none⟩

def noSession : Report :=
  ⟨.notFound, .sessionNotFound, "Cannot update session: no session exists", none, none⟩

def unauthorized : Report :=
  ⟨.unauthorized, .unauthorized, "Unauthorized", none, none⟩

def codeOf? : Family → Option Code
  | .general | .configuration => none
  | .validation => some .invalidSession
  | .notFound => some .sessionNotFound
  | .unauthorized => some .unauthorized

def messageOf? : Family → Option String
  | .notFound => some noSession.message
  | .unauthorized => some unauthorized.message
  | _ => none

/-- A report with given parts. A code is given where the family leaves it open and nowhere else. -/
def make? (family : Family) (code : Option Code) (message field cause : Option String) :
    Option Report :=
  match codeOf? family, code, message <|> messageOf? family with
  | some code, none, some message | none, some code, some message =>
    some ⟨family, code, message, field, cause⟩
  | _, _, _ => none

end Report

namespace Fault

def longInteger : String :=
  "Exceeds the limit (" ++ toString Value.maxDigits ++ " digits) for integer string conversion"

def unwritable : String :=
  longInteger ++ "; use sys.set_int_max_str_digits() to increase the limit"

def unreadable (digits : Nat) : String :=
  longInteger ++ ": value has " ++ toString digits ++
    " digits; use sys.set_int_max_str_digits() to increase the limit"

def ofUnwritable : Value.Unwritable → Fault
  | .longInteger => .badValue unwritable
  | .tooDeep => .tooDeep

/-- What reaches the host. A fault whose message cannot be written is replaced by the reason why. -/
def raisedWith (stack : Value.Stack) : Fault → Fault
  | .config fault =>
    match fault.message stack with
    | .ok _ => .config fault
    | .error reason => ofUnwritable reason
  | fault => fault

def report? (stack : Value.Stack) : Fault → Option Report
  | .config fault => (fault.report stack).toOption
  | .invalidSession => some .invalidSession
  | .invalidUpdate => some .invalidUpdate
  | .noSession => some .noSession
  | .unauthorized => some .unauthorized
  | .reported report => some report
  | _ => none

def message? (stack : Value.Stack) (fault : Fault) : Option String :=
  match fault.raisedWith stack with
  | .raised message | .badValue message => some message
  | .noFile name => some ("Configuration file not found: " ++ name)
  | .unknownFormat extension => some ("Unsupported configuration file format: " ++ extension)
  | .notMapping name => some ("Configuration file must contain a mapping: " ++ name)
  | fault => (fault.report? stack).map Report.title

end Fault

end Gatekeeper
