import IntentGate.Config.Rejection
import IntentGate.Shape.Record

set_option autoImplicit false

namespace IntentGate

open Json Shape

def Thresholds.written (t : Thresholds) : Value :=
  .object ([("default", .ofFloat t.default), ("ambiguity_threshold", .ofFloat t.ambiguity),
      ("custom", .object (t.custom.rows.map fun e => (e.1, .ofFloat e.2)))]
    ++ match t.unexpectedSlot with
      | some x => [("unexpected_upon_requested_slot", .ofFloat x)]
      | none => [])

def RejectionConfig.written (c : RejectionConfig) : Value :=
  .object [("enabled", .bool c.enabled), ("thresholds", c.thresholds.written),
    ("require_entities_enabled", .bool c.requireEntities), ("method", .text c.method),
    ("force_final_enabled", .bool c.forceFinal), ("excluded_intents", .ofTexts c.excluded)]

-- What a field is when a document does not name it. Each field has a default of its own for that, apart
-- from the settings that hold when there is no document.
def defaultSwitch : Bool := true

def Thresholds.unnamed : Thresholds where
  default := defaultThreshold
  ambiguity := defaultAmbiguity
  custom := .empty
  unexpectedSlot := none

def RejectionConfig.unnamed : RejectionConfig where
  enabled := defaultSwitch
  thresholds := {}
  requireEntities := defaultSwitch
  method := defaultMethod
  forceFinal := defaultSwitch
  excluded := defaultExcluded

variable {δ : Type} [Source δ]

def thresholdFields : List (Field δ Thresholds) :=
  [field .defaulted "default" Source.float fun x t => { t with default := x },
   (field .defaulted "ambiguity_threshold" Source.float fun x t => { t with ambiguity := x }).orKey
     "ambiguity",
   field .defaulted "custom" (mapOf Source.float) fun x t => { t with custom := x },
   field .defaulted "unexpected_upon_requested_slot" (optionOf Source.float) fun x t =>
     { t with unexpectedSlot := x }]

def readThresholds (d : δ) : Except Fault Thresholds :=
  readPlain "Thresholds" thresholdFields .unnamed d

def rejectionFields : List (Field δ RejectionConfig) :=
  [field .defaulted "enabled" Source.bool fun x c => { c with enabled := x },
   field .defaulted "thresholds" readThresholds fun x c => { c with thresholds := x },
   field .defaulted "require_entities_enabled" Source.bool fun x c => { c with requireEntities := x },
   field .defaulted "method" textOf fun x c => { c with method := x },
   field .defaulted "force_final_enabled" Source.bool fun x c => { c with forceFinal := x },
   field .defaulted "excluded_intents" (listOf textOf) fun x c => { c with excluded := x }]

def readRejectionConfig (d : δ) : Except Fault RejectionConfig :=
  readPlain "RejectionConfig" rejectionFields .unnamed d

end IntentGate
