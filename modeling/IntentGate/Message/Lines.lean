import IntentGate.Files
import IntentGate.Message.Wire
import IntentGate.Shape.Json

set_option autoImplicit false

namespace IntentGate

open Json Shape Text

inductive InputError where
  | notText
  | malformed (line : Nat) (fault : Fault)
deriving DecidableEq

def InputError.message : InputError → String
  | .notText => s!"IO error: {FileFault.notText.message}"
  | .malformed line fault => s!"Invalid message on input line {line}: {reason fault}"
where
  reason : Fault → String
  | .trouble .eof => "the text ends too early"
  | .trouble .malformed => "malformed text"
  | .data m => m.message

def messageOn? (number : Nat) (line : Octets) : Except InputError (Option Message) :=
  match decode? line with
  | none => .error .notText
  | some s =>
    if isBlank s then .ok none
    else ((readText readMessage s).map some).mapError (.malformed number)

def messagesFrom (number : Nat) : List Octets → Except InputError (List Message)
  | [] => .ok []
  | line :: rest => do
    match ← messageOn? number line with
    | none => messagesFrom (number + 1) rest
    | some message => return message :: (← messagesFrom (number + 1) rest)

def readMessages (octets : Octets) : Except InputError (List Message) := messagesFrom 1 (lines octets)

def Message.output (m : Message) : Octets := encode m.line ++ [lineFeed]

end IntentGate
