import IntentGate.Decimal.Reading
import IntentGate.Json.Value

set_option autoImplicit false

namespace IntentGate.Yaml

open Decimal (wordBound)
open Json

def nullOf? (s : String) : Option Value :=
  if s ∈ ["null", "Null", "NULL", "~"] then some .null else none

def boolOf? (s : String) : Option Value :=
  if s ∈ ["true", "True", "TRUE"] then some (.bool true)
  else if s ∈ ["false", "False", "FALSE"] then some (.bool false)
  else none

def hasLeadingZero (cs : List Char) : Bool :=
  match (Decimal.splitSign cs).2 with
  | '0' :: d :: rest => (d :: rest).all Text.isDigit
  | _ => false

def basedNatural? : List Char → Option Nat
  | '0' :: 'x' :: cs => Text.natural? 16 cs
  | '0' :: 'o' :: cs => Text.natural? 8 cs
  | '0' :: 'b' :: cs => Text.natural? 2 cs
  | cs => Text.natural? 10 cs

def integerOf? (s : String) : Option Int :=
  let cs := s.toList
  if hasLeadingZero cs then none
  else
    let (negative, digits) := Decimal.splitSign cs
    (basedNatural? digits).map fun n => if negative then -(n : Int) else n

-- An integer of 64 bits is a number. One that only 128 bits hold has no place in JSON, and a larger
-- one is no integer.
def integer? (s : String) : Option (Option Value) := do
  let n ← integerOf? s
  if -wordBound 63 ≤ n ∧ n < wordBound 64 then some (some (.number (.int n)))
  else if -wordBound 127 ≤ n ∧ n < wordBound 128 then some none
  else none

def isSpecialFloat (s : String) : Bool :=
  s ∈ [".inf", ".Inf", ".INF", "+.inf", "+.Inf", "+.INF", "-.inf", "-.Inf", "-.INF",
    ".nan", ".NaN", ".NAN"]

def floatOf? (s : String) : Option Value :=
  if isSpecialFloat s then some .null
  else ((Decimal.read? s).filter Float.isFinite).map Value.ofFloat

def plainValue (s : String) : Option Value :=
  if s.isEmpty then some .null
  else
    match (nullOf? s).orElse fun _ => boolOf? s with
    | some v => some v
    | none =>
      match integer? s with
      | some v => v
      | none =>
        if hasLeadingZero s.toList then some (.text s) else some ((floatOf? s).getD (.text s))

def isLocal (tag : String) : Bool := tag.toList.head? = some '!'

def scalarValue? (tag : Option String) (s : String) (isPlain : Bool) : Option Value :=
  match tag with
  | none => if isPlain then plainValue s else some (.text s)
  | some "tag:yaml.org,2002:bool" => boolOf? s
  | some "tag:yaml.org,2002:int" => (integer? s).join
  | some "tag:yaml.org,2002:float" => floatOf? s
  | some "tag:yaml.org,2002:null" => nullOf? s
  | some tag => if isLocal tag then none else some (.text s)

end IntentGate.Yaml
