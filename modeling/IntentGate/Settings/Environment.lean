import IntentGate.Decimal.Reading
import IntentGate.Settings.Setting

set_option autoImplicit false

namespace IntentGate

abbrev Environment := List (String × String)

namespace Environment

def get? (env : Environment) (name : String) : Option String := List.lookup name env

def marker : String := "utterance_gate__"

def listKey : String := "rejection.excluded_intents"

def settingKey? (name : String) : Option String :=
  let name := Text.lower name
  if name.startsWith marker then
    some (".".intercalate ((String.ofList (name.toList.drop marker.length)).splitOn "__"))
  else none

def bool? (s : String) : Option Bool :=
  let word := Text.lower s
  if word = "true" then some true else if word = "false" then some false else none

def settingValue (key s : String) : Setting :=
  match bool? s, Decimal.word? 10 s.toList, Decimal.read? s with
  | some b, _, _ => .bool b
  | none, some n, _ => .int n
  | none, none, some x => .float x
  | none, none, none => if key = listKey then .list ((s.splitOn ",").map .text) else .text s

def setting? (entry : String × String) : Option (String × Setting) :=
  (settingKey? entry.1).map fun key => (key, settingValue key entry.2)

def settings (env : Environment) : Keyed Setting := Keyed.ofList (env.filterMap setting?)

end Environment

end IntentGate
