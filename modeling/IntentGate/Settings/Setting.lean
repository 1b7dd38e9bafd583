import IntentGate.Decimal.Reading
import IntentGate.Json.Value

set_option autoImplicit false

namespace IntentGate

open Json

inductive Setting where
  | nothing
  | bool (b : Bool)
  | int (n : Int)
  | float (x : Float)
  | text (s : String)
  | list (items : List Setting)
  | table (entries : List (String × Setting))
deriving Inhabited

namespace Setting

def entries : Setting → Keyed Setting
  | .table entries => entries
  | _ => []

mutual
def merge (old : Setting) : Setting → Setting
  | .table new => .table (mergeAll old.entries new)
  | new => new

def mergeAll (old : Keyed Setting) : List (String × Setting) → Keyed Setting
  | [] => old
  | (key, new) :: rest =>
    mergeAll (old.insert key (merge ((old.get? key).getD .nothing) new)) rest
end

-- A step into a table, or into a list; places below zero count from its end.
inductive Step where
  | name (key : String)
  | index (i : Int)

def items : Setting → List Setting
  | .list items => items
  | _ => []

def placeAt (i : Nat) (new : Setting) (items : List Setting) : List Setting :=
  (items ++ List.replicate (i + 1 - items.length) nothing).set i new

def put (new : Setting) : (path : List Step) → Setting → Setting
  | [], old => old.merge new
  | .name key :: path, old =>
    .table (old.entries.insert key (put new path ((old.entries.get? key).getD .nothing)))
  | .index i :: path, old =>
    let place := (if i < 0 then old.items.length + i else i).toNat
    .list (placeAt place (put new path (old.items[place]?.getD .nothing)) old.items)

def ofNumber : Number → Setting
  | .int n => if n < Decimal.wordBound 63 then .int n else .float (Float.ofInt n)
  | .float x => .float x

mutual
def ofJson : Value → Setting
  | .null => .nothing
  | .bool b => .bool b
  | .number n => ofNumber n
  | .text s => .text s
  | .list items => .list (ofItems items)
  | .object fields => .table (ofFields fields)

def ofItems : List Value → List Setting
  | [] => []
  | v :: rest => ofJson v :: ofItems rest

def ofFields : Fields → List (String × Setting)
  | [] => []
  | (key, v) :: rest => (key, ofJson v) :: ofFields rest
end

end Setting

end IntentGate
