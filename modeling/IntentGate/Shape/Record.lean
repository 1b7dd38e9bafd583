import IntentGate.Shape.Source

set_option autoImplicit false

namespace IntentGate.Shape

open Json

-- What happens when a field is not there. An optional one may be left out of the named form only.
inductive Need where
  | required
  | optional
  | defaulted
deriving DecidableEq

structure Field (δ α : Type) where
  name : String
  otherKey : Option String := none
  need : Need
  put : δ → α → Except Fault α

variable {δ α β : Type}

def Field.answers (f : Field δ α) (key : String) : Bool := key = f.name || f.otherKey = some key

def field (need : Need) (name : String) (read : δ → Except Fault β) (set : β → α → α) :
    Field δ α where
  name
  need
  put d a := return set (← read d) a

def Field.orKey (f : Field δ α) (key : String) : Field δ α := { f with otherKey := some key }

structure Partial (α : Type) where
  value : α
  seen : List String := []

def readMember (fields : List (Field δ α)) (other : String → δ → α → Except Fault α)
    (read : Partial α) (member : String × δ) : Except Fault (Partial α) := do
  match fields.find? (·.answers member.1) with
  | some f =>
    if f.name ∈ read.seen then throw (.data (.duplicate f.name))
    return { value := ← f.put member.2 read.value, seen := f.name :: read.seen }
  | none => return { read with value := ← other member.1 member.2 read.value }

def missing? (fields : List (Field δ α)) (seen : List String) : Option String :=
  (fields.find? fun f => f.need = .required && !seen.contains f.name).map (·.name)

def readMembers (fields : List (Field δ α)) (other : String → δ → α → Except Fault α) (start : α)
    (members : Series (String × δ)) : Except Fault α := do
  let read ← members.items.foldlM (readMember fields other) { value := start }
  members.finish
  match missing? fields read.seen with
  | some name => throw (.data (.missing name))
  | none => return read.value

def elements (n : Nat) : String := s!"{n} element" ++ if n = 1 then "" else "s"

def readValues (fields : List (Field δ α)) (short : Nat → Fault) (stop : Except Fault Unit)
    (count : Nat) (value : α) (items : List δ) : Except Fault (α × List δ) :=
  match fields, items with
  | [], items => .ok (value, items)
  | f :: fields, d :: items => do readValues fields short stop (count + 1) (← f.put d value) items
  | f :: fields, [] => do
    stop
    if f.need = .defaulted then readValues fields short stop (count + 1) value [] else throw (short count)

variable [Source δ]

def ignore (_ : String) (d : δ) (a : α) : Except Fault α := do
  Source.skip d
  return a

def readBody (expected : String) (fields : List (Field δ α)) (start : α) (body : Body δ) :
    Except Fault α := do
  match body with
  | .members members => readMembers fields ignore start members
  | .items series =>
    let short count := .data (.length count s!"{expected} with {elements fields.length}")
    let (value, rest) ← readValues fields short series.finish 0 start series.items
    match (Source.surplus δ series.items.length).filter fun _ => !rest.isEmpty with
    | some fault => throw fault
    | none =>
      series.finish
      return value

def readPlain (name : String) (fields : List (Field δ α)) (start : α) (d : δ) : Except Fault α := do
  let expected := "struct " ++ name
  readBody expected fields start (← Source.record expected d)

def readOpen {δ : Type} [JsonSource δ] (name : String) (fields : List (Field δ α))
    (keep : String → Value → α → α) (start : α) (d : δ) : Except Fault α := do
  let members ← Source.object ("struct " ++ name) d
  readMembers fields (fun key d a => return keep key (← JsonSource.value d) a) start members

end IntentGate.Shape
