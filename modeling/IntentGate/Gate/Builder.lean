import IntentGate.Gate.Events

set_option autoImplicit false

namespace IntentGate.Gate

structure Builder where
  config : RejectionConfig
  domain : Option DomainSchema := none
  index : Option RequirementIndex := none

inductive Supply where
  | domain (schema : DomainSchema)
  | index (index : RequirementIndex)

namespace Builder

def supply (builder : Builder) : Supply → Builder
  | .domain schema => { builder with domain := some schema }
  | .index index => { builder with index := some index }

def supplyAll (builder : Builder) (supplies : List Supply) : Builder := supplies.foldl supply builder

def build (builder : Builder) : Except GateError Gate := Gate.build builder.config builder.domain builder.index

def events (builder : Builder) : List Event :=
  match builder.config.validate with
  | .error _ => []
  | .ok () =>
    builder.config.unimplemented.map .ignoredFeature
      ++ match builder.index, builder.domain with
        | some index, _ => installEvents index
        | none, domain => offerEvents { config := builder.config } domain

end Builder

end IntentGate.Gate
