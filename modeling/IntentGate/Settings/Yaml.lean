import IntentGate.Decimal.Reading
import IntentGate.Settings.Setting
import IntentGate.Yaml.Content

set_option autoImplicit false

namespace IntentGate.Setting

open Yaml

def yamlInt? (cs : List Char) : Option Int :=
  let marked := match cs with
    | '0' :: 'x' :: digits => Decimal.word? 16 digits
    | '0' :: 'o' :: digits => Decimal.word? 8 digits
    | '+' :: digits => Decimal.word? 10 digits
    | _ => none
  marked.orElse fun _ => Decimal.word? 10 cs

def isRefusedFloat (s : String) : Bool := isSpecialFloat s && s ≠ ".NaN"

def ofFloat? (s : String) : Option Setting :=
  if isRefusedFloat s then none else some ((Decimal.read? s).elim (.text s) .float)

def ofPlain? (s : String) : Option Setting :=
  match s with
  | "" | "~" | "null" => some .nothing
  | "true" => some (.bool true)
  | "false" => some (.bool false)
  | s =>
    match yamlInt? s.toList with
    | some n => some (.int n)
    | none => ofFloat? s

def ofScalar? (tag : Option String) (s : String) (isPlain : Bool) : Option Setting :=
  if !isPlain then some (.text s)
  else
    match tag with
    | none => ofPlain? s
    | some "tag:yaml.org,2002:bool" =>
      some (if s = "true" then .bool true else if s = "false" then .bool false else .nothing)
    | some "tag:yaml.org,2002:int" => some ((Decimal.word? 10 s.toList).elim .nothing .int)
    | some "tag:yaml.org,2002:float" =>
      if isRefusedFloat s then none else some ((Decimal.read? s).elim .nothing .float)
    | some "tag:yaml.org,2002:null" => some .nothing
    | some _ => some (.text s)

def keyName? : Setting → Option String
  | .text s => some s
  | .int n => some (toString n)
  | _ => none

-- The setting that a node spells. An alias inside the node it stands for is nothing; `followed` holds
-- the aliases on the way to `n`. Each round goes one node down.
def ofNode? (d : Document) : (fuel : Nat) → (followed : List Nat) → (n : Node) → Option Setting
  | 0, _, _ => none
  | fuel + 1, followed, n => do
    match n with
    | .reference number =>
      if number ∈ followed then return .nothing
      else ofNode? d fuel (number :: followed) (← d.anchors.target? number)
    | .scalar tag s isPlain => ofScalar? tag s isPlain
    | .sequence _ items => return .list (← items.mapM (ofNode? d fuel followed))
    | .mapping _ entries =>
      let fields ← entries.mapM fun e => do
        return (← keyName? (← ofNode? d fuel followed e.1), ← ofNode? d fuel followed e.2)
      return .table (Keyed.ofList fields)

def ofYaml? (s : String) : Option (Keyed Setting) := do
  let d ← Document.ofText? s
  match d.root with
  | none => return []
  | some root =>
    match ← ofNode? d (d.size * d.size + 1) [] root with
    | .table entries => return entries
    | _ => none

end IntentGate.Setting
