import IntentGate.Shape.Record

set_option autoImplicit false

namespace IntentGate.Shape

open Json

variable {δ α β : Type} [JsonSource δ]

structure Variant (δ α : Type) where
  name : String
  read : Option δ → Except Fault α

def bare (name : String) (a : α) : Variant δ α where
  name
  read
    | none => .ok a
    | some d => do
      JsonSource.null d
      return a

def carrying (name : String) (read : δ → Except Fault β) (make : β → α) : Variant δ α where
  name
  read
    | none => wrongKind .bareVariant "newtype variant"
    | some d => return make (← read d)

def recordVariant (type name : String) (fields : List (Field δ β)) (start : β) (make : β → α) :
    Variant δ α where
  name
  read
    | none => wrongKind .bareVariant "struct variant"
    | some d => do
      let body ← JsonSource.payload type name d
      return make (← readBody s!"struct variant {type}::{name}" fields start body)

def readChoice (variants : List (Variant δ α)) (d : δ) : Except Fault α := do
  let chosen ← JsonSource.chosen d
  match variants.find? (·.name = chosen.name) with
  | none => throw (.data (.unknownVariant chosen.name (variants.map (·.name))))
  | some variant =>
    let value ← variant.read chosen.payload
    match chosen.close with
    | some fault => throw fault
    | none => return value

end IntentGate.Shape
