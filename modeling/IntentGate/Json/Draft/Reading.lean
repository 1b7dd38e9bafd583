import IntentGate.Json.Draft

set_option autoImplicit false

namespace IntentGate.Json

def Stop.trouble? : Stop → Option Trouble
  | .closed => none
  | .separator t => some t
  | .key t _ => some t

def Stop.check (stop : Stop) : Except Trouble Unit :=
  match stop.trouble? with
  | some t => .error t
  | none => .ok ()

mutual
def Draft.value : Draft → Except Trouble Value
  | .null => .ok .null
  | .bool b => .ok (.bool b)
  | .number n => .ok (.number n)
  | .text s => .ok (.text s)
  | .list items stop => do
    let values ← readItems items
    stop.check
    return .list values
  | .object members stop => do
    let fields ← readFields members
    stop.check
    return .object (Keyed.ofList fields)
  | .faulty _ read _ => .error read

def readItems : List Draft → Except Trouble (List Value)
  | [] => .ok []
  | d :: rest => do return (← d.value) :: (← readItems rest)

def readFields : List (String × Draft) → Except Trouble (List (String × Value))
  | [] => .ok []
  | (key, d) :: rest => do return (key, ← d.value) :: (← readFields rest)
end

mutual
def Draft.skip : Draft → Except Trouble Unit
  | .list items stop => do
    skipItems items
    stop.check
  | .object members stop => do
    skipMembers members
    stop.check
  | .faulty _ _ (some t) => .error t
  | _ => .ok ()

def skipItems : List Draft → Except Trouble Unit
  | [] => .ok ()
  | d :: rest => do
    d.skip
    skipItems rest

def skipMembers : List (String × Draft) → Except Trouble Unit
  | [] => .ok ()
  | (_, d) :: rest => do
    d.skip
    skipMembers rest
end

def Draft.found : Draft → Except Trouble Found
  | .null => .ok .null
  | .bool b => .ok (.bool b)
  | .number n => .ok (.number n)
  | .text s => .ok (.text s)
  | .list _ _ => .ok .list
  | .object _ _ => .ok .object
  | .faulty _ read _ => .error read

end IntentGate.Json
