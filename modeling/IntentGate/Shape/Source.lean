import IntentGate.Json.Draft.Reading

set_option autoImplicit false

namespace IntentGate.Shape

open Json

structure Series (α : Type) where
  items : List α
  stop : Option Fault := none

def Series.finish {α : Type} (s : Series α) : Except Fault Unit :=
  match s.stop with
  | some fault => .error fault
  | none => .ok ()

-- A record is given by its fields, or by their values in the order of declaration.
inductive Body (δ : Type) where
  | members (fields : Series (String × δ))
  | items (values : Series δ)

-- `expected` names, for the error message, what should stand at the place.
class Source (δ : Type) where
  bool : δ → Except Fault Bool
  text : (expected : String) → δ → Except Fault String
  float : δ → Except Fault Float
  option : δ → Except Fault (Option δ)
  list : δ → Except Fault (Series δ)
  object : (expected : String) → δ → Except Fault (Series (String × δ))
  record : (expected : String) → δ → Except Fault (Body δ)
  skip : δ → Except Fault Unit
  surplus : (count : Nat) → Option Fault

structure Chosen (δ : Type) where
  name : String
  payload : Option δ
  close : Option Fault

class JsonSource (δ : Type) extends Source δ where
  value : δ → Except Fault Value
  chosen : δ → Except Fault (Chosen δ)
  payload : (type name : String) → δ → Except Fault (Body δ)
  null : δ → Except Fault Unit

variable {δ α : Type} [Source δ]

def listOf (read : δ → Except Fault α) (d : δ) : Except Fault (List α) := do
  let series ← Source.list d
  let items ← series.items.mapM read
  series.finish
  return items

def optionOf (read : δ → Except Fault α) (d : δ) : Except Fault (Option α) := do
  match ← Source.option d with
  | some d => return some (← read d)
  | none => return none

def mapOf (read : δ → Except Fault α) (d : δ) : Except Fault (Table α) := do
  let series ← Source.object "a map" d
  let entries ← series.items.mapM fun (key, d) => return (key, ← read d)
  series.finish
  return .ofList entries

def textOf (d : δ) : Except Fault String := Source.text "a string" d

end IntentGate.Shape
