import IntentGate.Shape.Record
import IntentGate.Text
import IntentGate.Yaml.Content

set_option autoImplicit false

namespace IntentGate

open Json Shape

structure DomainSchema where
  intents : List Value := []

def DomainSchema.isEmpty (schema : DomainSchema) : Bool := schema.intents.isEmpty

def DomainSchema.written (schema : DomainSchema) : Value :=
  .object [("intents", .list schema.intents)]

variable {δ : Type} [JsonSource δ]

def readDomainSchema (d : δ) : Except Fault DomainSchema :=
  readPlain "DomainSchema"
    [field .defaulted "intents" (listOf JsonSource.value) fun x _ => { intents := x }] {} d

def DomainSchema.ofYaml? (s : String) : Option DomainSchema :=
  if Text.isBlank s then some {}
  else do
    let intents ← (← Yaml.Document.ofText? s).listNamed? "intents"
    return { intents := intents.getD [] }

end IntentGate
