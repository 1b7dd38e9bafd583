import IntentGate.Keyed
import IntentGate.Text
import IntentGate.Decimal.Layout

set_option autoImplicit false

namespace IntentGate

def rejectionName : String := "nlu_fallback"

def defaultThreshold : Float := 0.3

def defaultAmbiguity : Float := 0.1

def defaultMethod : String := "Ignore"

def defaultExcluded : List String := [rejectionName]

-- `custom` replaces `default` for single intents. `unexpectedSlot` is accepted and has no effect.
structure Thresholds where
  default : Float := defaultThreshold
  ambiguity : Float := defaultAmbiguity
  custom : Table Float := .empty
  unexpectedSlot : Option Float := none
deriving DecidableEq

structure RejectionConfig where
  enabled : Bool := true
  thresholds : Thresholds := {}
  requireEntities : Bool := true
  method : String := defaultMethod
  forceFinal : Bool := true
  excluded : List String := defaultExcluded
deriving DecidableEq

inductive Feature where
  | unexpectedSlot
deriving DecidableEq

def Feature.name : Feature → String
  | .unexpectedSlot => "thresholds.unexpected_upon_requested_slot"

inductive ThresholdField where
  | default
  | ambiguity
  | unexpectedSlot
deriving DecidableEq

def ThresholdField.name : ThresholdField → String
  | .default => "thresholds.default"
  | .ambiguity => "thresholds.ambiguity_threshold"
  | .unexpectedSlot => "thresholds.unexpected_upon_requested_slot"

inductive NameList where
  | custom
  | excluded
deriving DecidableEq

def NameList.name : NameList → String
  | .custom => "thresholds.custom"
  | .excluded => "excluded_intents"

inductive InvalidSetting where
  | missingMethod
  | threshold (field : ThresholdField) (value : Float)
  | customThreshold (intent : String) (value : Float)
  | emptyIntentName (place : NameList)
  | logLevel (level : String)
deriving DecidableEq

def InvalidSetting.message : InvalidSetting → String
  | .missingMethod => "Required configuration missing: method"
  | .threshold field value =>
    s!"Threshold {field.name} must be within [0, 1], got {Decimal.phrase value}"
  | .customThreshold intent value =>
    "Custom threshold for intent '" ++ intent ++ "' must be within [0, 1], got " ++ Decimal.phrase value
  | .emptyIntentName place => s!"Empty intent name in {place.name}"
  | .logLevel level => s!"Invalid log level: {level}"

def inUnit (x : Float) : Bool := x.isFinite && 0 ≤ x && x ≤ 1

namespace RejectionConfig

def thresholdFor (config : RejectionConfig) (intent : String) : Float × Bool :=
  match config.thresholds.custom.get? intent with
  | some t => (t, true)
  | none => (config.thresholds.default, false)

def isExcluded (config : RejectionConfig) (intent : String) : Bool := intent ∈ config.excluded

def unimplemented (config : RejectionConfig) : List Feature :=
  if config.thresholds.unexpectedSlot.isSome then [.unexpectedSlot] else []

def checkThreshold (field : ThresholdField) (x : Float) : Except InvalidSetting Unit :=
  if inUnit x then .ok () else .error (.threshold field x)

def checkCustom (entry : String × Float) : Except InvalidSetting Unit :=
  if Text.isBlank entry.1 then .error (.emptyIntentName .custom)
  else if inUnit entry.2 then .ok ()
  else .error (.customThreshold entry.1 entry.2)

def checkExcluded (names : List String) : Except InvalidSetting Unit :=
  if names.any Text.isBlank then .error (.emptyIntentName .excluded) else .ok ()

def checkMethod (method : String) : Except InvalidSetting Unit :=
  if Text.isBlank method then .error .missingMethod else .ok ()

def validate (config : RejectionConfig) : Except InvalidSetting Unit := do
  checkThreshold .default config.thresholds.default
  checkThreshold .ambiguity config.thresholds.ambiguity
  config.thresholds.unexpectedSlot.forM (checkThreshold .unexpectedSlot)
  config.thresholds.custom.rows.forM checkCustom
  checkExcluded config.excluded
  checkMethod config.method

end RejectionConfig

end IntentGate
