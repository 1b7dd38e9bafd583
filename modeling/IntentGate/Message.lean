import IntentGate.Json.Printer

set_option autoImplicit false

namespace IntentGate

open Json

structure Intent where
  name : String
  confidence : Option Float := none
  requireEntities : Option (List Value) := none
  extra : Fields := []

structure RankedIntent where
  name : String
  confidence : Option Float := none
  extra : Fields := []

-- A role or a group. Extractors give texts or numbers, which are compared by their text.
inductive Label where
  | text (s : String)
  | number (n : Number)
deriving DecidableEq

def Label.show : Label → String
  | .text s => s
  | .number n => n.show

structure Entity where
  kind : String
  role : Option Label := none
  group : Option Label := none
  extra : Fields := []

structure Message where
  text : String := ""
  intent : Option Intent := none
  ranking : Option (List RankedIntent) := none
  entities : Option (List Entity) := none
  isFinal : Option Bool := none
  extra : Fields := []

def RankedIntent.ofIntent (intent : Intent) : RankedIntent :=
  { name := intent.name, confidence := intent.confidence }

namespace Message

def withIntent (name : String) (confidence : Float) (m : Message) : Message :=
  { m with intent := some { name, confidence := some confidence } }

def candidates (m : Message) : List RankedIntent := m.ranking.getD []

def mentions (m : Message) : List Entity := m.entities.getD []

def withRanked (name : String) (confidence : Float) (m : Message) : Message :=
  { m with ranking := some (m.candidates ++ [{ name, confidence := some confidence }]) }

def withEntity (entity : Entity) (m : Message) : Message :=
  { m with entities := some (m.mentions ++ [entity]) }

def finalized (m : Message) : Message := { m with isFinal := some true }

def wantsFinal (m : Message) : Bool := m.isFinal.getD false

end Message

end IntentGate
