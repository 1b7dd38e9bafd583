import IntentGate.DomainSchema
import IntentGate.Event

set_option autoImplicit false

namespace IntentGate

inductive LoadError where
  | notFound (path : String)
  | io (reason : String)
  | malformed (reason : String)
deriving DecidableEq

def LoadError.message : LoadError → String
  | .notFound path => s!"Domain file not found: {path}"
  | .io reason => s!"IO error: {reason}"
  | .malformed reason => s!"Failed to parse domain: {reason}"

-- What a source answers to its first call, to its second, and so on. `path` is the file it reads.
structure Provider where
  answer : Nat → Except LoadError DomainSchema
  path : Option String := none

namespace Provider

def fixed (schema : DomainSchema) : Provider where
  answer _ := .ok schema

def scripted (first : Except LoadError DomainSchema)
    (rest : List (Except LoadError DomainSchema)) : Provider where
  answer call := (first :: rest)[min call rest.length]?.getD first

def events (provider : Provider) : Except LoadError DomainSchema → List Event
  | .ok schema => provider.path.toList.map fun path => .loadedDomain path schema.intents.length
  | .error _ => []

end Provider

structure CountedDomain where
  schema : DomainSchema := {}
  loads : Nat := 0

def CountedDomain.load (domain : CountedDomain) : DomainSchema × CountedDomain :=
  (domain.schema, { domain with loads := domain.loads + 1 })

end IntentGate
