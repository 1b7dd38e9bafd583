import IntentGate.Keyed

set_option autoImplicit false

namespace IntentGate.Json

-- An integer of at most 64 bits, or a binary64 value.
inductive Number where
  | int (n : Int)
  | float (x : Float)
deriving DecidableEq

inductive Value where
  | null
  | bool (b : Bool)
  | number (n : Number)
  | text (s : String)
  | list (items : List Value)
  | object (fields : List (String × Value))
deriving Inhabited

abbrev Fields := Keyed Value

mutual
def Value.sorted : Value → Value
  | .list items => .list (sortedItems items)
  | .object fields => .object (Keyed.ofList (sortedFields fields))
  | v => v

def sortedItems : List Value → List Value
  | [] => []
  | v :: rest => v.sorted :: sortedItems rest

def sortedFields : Fields → Fields
  | [] => []
  | (k, v) :: rest => (k, v.sorted) :: sortedFields rest
end

def Value.ofFloat (x : Float) : Value := if x.isFinite then .number (.float x) else .null

def Value.ofOption {α : Type} (f : α → Value) : Option α → Value
  | some a => f a
  | none => .null

def Value.ofTexts (l : List String) : Value := .list (l.map .text)

end IntentGate.Json
