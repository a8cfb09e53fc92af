import Gatekeeper.Text.CaseTable
import Gatekeeper.Text.Letter
import Gatekeeper.Text.Range

/-! Upper and lower case of a text. A character may become several, and the lower case of a capital
sigma depends on its neighbours. -/
namespace Gatekeeper.Text

def CaseRun.covers (run : CaseRun) (code : Nat) : Bool :=
  run.first ≤ code && code ≤ run.last && (code - run.first) % run.step == 0

def shift (runs : List CaseRun) (char : Char) : Char :=
  match runs.find? (CaseRun.covers · char.toNat) with
  | some run => Char.ofNat ((char.toNat : Int) + run.offset).toNat
  | none => char

def upperOf (char : Char) : List Char :=
  match upperExpansions.lookup char.toNat with
  | some codes => codes.map Char.ofNat
  | none => [shift upperRuns char]

def upper (text : String) : String :=
  String.ofList (text.toList.flatMap upperOf)

def meetsCased : List Char → Bool
  | [] => false
  | char :: rest => if inRanges caseIgnorable char then meetsCased rest else inRanges cased char

/-- A capital sigma ends a word if a cased character comes before it and none after. -/
def lowerFrom (before : List Char) : List Char → List Char
  | [] => []
  | char :: rest =>
    let here :=
      if char = 'Σ' then [if meetsCased before && !meetsCased rest then 'ς' else 'σ']
      else if char = 'İ' then ['i', '\u0307']
      else [shift lowerRuns char]
    here ++ lowerFrom (char :: before) rest

def lower (text : String) : String :=
  String.ofList (lowerFrom [] text.toList)

/-- Letters in lower case. A half of a character has no case and ends a word. -/
def lowerLetters (letters : List Letter) : List Letter :=
  let (word, rest) := letters.foldr (fun letter (word, rest) =>
    match letter with
    | .char char => (char :: word, rest)
    | .half code => ([], .half code :: ((lowerFrom [] word).map .char ++ rest))) ([], [])
  (lowerFrom [] word).map .char ++ rest

end Gatekeeper.Text
