import IntentGate.Json.Printer

set_option autoImplicit false

namespace IntentGate.Json

inductive Trouble where
  | eof
  | malformed
deriving DecidableEq, Repr

inductive Found where
  | null
  | bool (b : Bool)
  | number (n : Number)
  | text (s : String)
  | list
  | object
  | bareVariant
deriving DecidableEq

inductive Mismatch where
  | kind (found : Found) (expected : String)
  | length (count : Nat) (expected : String)
  | severalKeys
  | missing (field : String)
  | duplicate (field : String)
  | unknownVariant (name : String) (known : List String)
  | noVariant (type : String)
deriving DecidableEq

inductive Fault where
  | trouble (t : Trouble)
  | data (m : Mismatch)
deriving DecidableEq

def Found.describe : Found → String
  | .null => "null"
  | .bool b => s!"boolean `{b}`"
  | .number (.int n) => s!"integer `{n}`"
  | .number (.float x) => s!"floating point `{(Number.float x).show}`"
  | .text s => "string " ++ Text.quoted s
  | .list => "sequence"
  | .object => "map"
  | .bareVariant => "unit variant"

def oneOf (names : List String) : String :=
  match names.map fun n => s!"`{n}`" with
  | [a, b] => s!"{a} or {b}"
  | [a] => a
  | ticked => "one of " ++ ", ".intercalate ticked

def Mismatch.message : Mismatch → String
  | .kind found expected => s!"invalid type: {found.describe}, expected {expected}"
  | .length count expected => s!"invalid length {count}, expected {expected}"
  | .severalKeys => "invalid value: map, expected map with a single key"
  | .missing field => s!"missing field `{field}`"
  | .duplicate field => s!"duplicate field `{field}`"
  | .unknownVariant name known => s!"unknown variant `{name}`, expected {oneOf known}"
  | .noVariant type => s!"data did not match any variant of untagged enum {type}"

def wrongKind {α : Type} (found : Found) (expected : String) : Except Fault α :=
  .error (.data (.kind found expected))

def Value.found : Value → Found
  | .null => .null
  | .bool b => .bool b
  | .number n => .number n
  | .text s => .text s
  | .list _ => .list
  | .object _ => .object

end IntentGate.Json
