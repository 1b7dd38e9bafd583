import IntentGate.Decimal.Layout
import IntentGate.Json.Value
import IntentGate.Text.Quoted

set_option autoImplicit false

namespace IntentGate.Json

def escapeChar (c : Char) : List Char :=
  match c with
  | '"' => ['\\', '"']
  | '\\' => ['\\', '\\']
  | '\n' => ['\\', 'n']
  | '\r' => ['\\', 'r']
  | '\t' => ['\\', 't']
  | c =>
    if c.toNat = 8 then ['\\', 'b']
    else if c.toNat = 12 then ['\\', 'f']
    else if c.toNat < 0x20 then
      ['\\', 'u', '0', '0', Text.hexDigit (c.toNat / 16), Text.hexDigit (c.toNat % 16)]
    else [c]

def writeText (s : String) : List Char := '"' :: s.toList.flatMap escapeChar ++ ['"']

def Number.write : Number → List Char
  | .int n => (toString n).toList
  | .float x => Decimal.finiteForm Decimal.document x

mutual
def Value.write : Value → List Char
  | .null => ['n', 'u', 'l', 'l']
  | .bool true => ['t', 'r', 'u', 'e']
  | .bool false => ['f', 'a', 'l', 's', 'e']
  | .number n => n.write
  | .text s => writeText s
  | .list items => '[' :: writeItems true items
  | .object fields => '\x7b' :: writeFields true fields

def writeItems (first : Bool) : List Value → List Char
  | [] => [']']
  | v :: rest => (if first then [] else [',']) ++ (v.write ++ writeItems false rest)

def writeFields (first : Bool) : Fields → List Char
  | [] => ['\x7d']
  | (k, v) :: rest =>
    (if first then [] else [',']) ++ (writeText k ++ ':' :: (v.write ++ writeFields false rest))
end

def Value.compact (v : Value) : String := String.ofList v.write

def Number.show (n : Number) : String := String.ofList n.write

end IntentGate.Json
