import IntentGate.Settings.Setting
import IntentGate.Text

set_option autoImplicit false

namespace IntentGate.Setting

def isPathChar (c : Char) : Bool := c.isAlphanum || c = ' ' || c = '_' || c = '-'

def name? (cs : List Char) : Option (Step × List Char) :=
  match cs.span isPathChar with
  | ([], _) => none
  | (name, rest) => some (.name (String.ofList name), rest)

def index? (cs : List Char) : Option (Step × List Char) :=
  match cs.span (· ≠ ']') with
  | (inside, _ :: rest) =>
    match Text.trim inside with
    | '+' :: _ => none
    | digits => (Decimal.word? 10 digits).map fun i => (.index i, rest)
  | _ => none

def stepsFrom? : Nat → List Char → Option (List Step)
  | _, [] => some []
  | fuel + 1, '.' :: rest => do
    let (step, rest) ← name? rest
    return step :: (← stepsFrom? fuel rest)
  | fuel + 1, '[' :: rest => do
    let (step, rest) ← index? rest
    return step :: (← stepsFrom? fuel rest)
  | _, _ => none

def path? (key : String) : Option (List Step) := do
  let (first, rest) ← name? key.toList
  return first :: (← stepsFrom? rest.length rest)

def pathOf (key : String) : List Step := (path? key).getD [.name key]

def gather (old : Setting) (source : Keyed Setting) : Setting :=
  source.foldl (fun old entry => entry.2.put (pathOf entry.1) old) old

end IntentGate.Setting
