import IntentGate.Proofs.Batch
import IntentGate.Proofs.Disabled
import IntentGate.Proofs.OpenIndex
import IntentGate.Proofs.ValidSettings

set_option autoImplicit false

namespace IntentGate

def InvalidSetting.particulars : InvalidSetting → List String
  | .missingMethod => ["method"]
  | .threshold .default value => ["thresholds.default", Decimal.phrase value]
  | .threshold .ambiguity value => ["thresholds.ambiguity_threshold", Decimal.phrase value]
  | .threshold .unexpectedSlot value => ["thresholds.unexpected_upon_requested_slot", Decimal.phrase value]
  | .customThreshold intent value => [intent, Decimal.phrase value]
  | .emptyIntentName .custom => ["thresholds.custom"]
  | .emptyIntentName .excluded => ["excluded_intents"]
  | .logLevel level => [level]

def Shows (text part : String) : Prop := ∃ before after, text = before ++ part ++ after

theorem threshold_shows (name : String) (value : Float) :
    ∀ part ∈ [name, Decimal.phrase value],
      Shows ("Threshold " ++ name ++ " must be within [0, 1], got " ++ Decimal.phrase value) part := by
  intro part named
  rcases List.mem_pair.mp named with rfl | rfl
  · exact ⟨"Threshold ", " must be within [0, 1], got " ++ Decimal.phrase value, String.append_assoc ..⟩
  · exact ⟨"Threshold " ++ name ++ " must be within [0, 1], got ", "", String.append_empty.symm⟩

theorem empty_name_shows (place : String) : ∀ part ∈ [place], Shows ("Empty intent name in " ++ place) part := by
  intro part named
  rw [List.mem_singleton.mp named]
  exact ⟨"Empty intent name in ", "", String.append_empty.symm⟩

theorem message_shows (e : InvalidSetting) : ∀ part ∈ e.particulars, Shows e.message part := by
  intro part named
  cases e with
  | missingMethod =>
      rw [List.mem_singleton.mp named]
      exact ⟨"Required configuration missing: ", "", by decide⟩
  | threshold field value => cases field <;> exact threshold_shows _ value part named
  | customThreshold intent value =>
      rcases List.mem_pair.mp named with rfl | rfl
      · exact ⟨"Custom threshold for intent '", "' must be within [0, 1], got " ++ Decimal.phrase value,
          (String.append_assoc ..)⟩
      · exact ⟨"Custom threshold for intent '" ++ intent ++ "' must be within [0, 1], got ", "",
          String.append_empty.symm⟩
  | emptyIntentName place => cases place <;> exact empty_name_shows _ part named
  | logLevel level =>
      rw [List.mem_singleton.mp named]
      exact ⟨"Invalid log level: ", "", String.append_empty.symm⟩

namespace Gate

structure Judgeable (message : Message) : Prop where
  scored : ∃ intent c, message.intent = some intent ∧ intent.confidence = some c ∧ InUnit c
  judged : ∀ gate : Gate, ∃ verdict, gate.evaluate message = .ok verdict

theorem scored_judged (gate : Gate) (message : Message) (intent : Intent) (c : Float)
    (predicted : message.intent = some intent) (scored : intent.confidence = some c) :
    ∃ verdict, gate.evaluate message = .ok verdict := by
  have settled := evaluate_settles gate message
  generalize gate.evaluate message = result at settled
  cases settled with
  | disabled | forcedFinal | excluded | judged => exact ⟨_, rfl⟩
  | unpredicted _ absent =>
      rw [predicted] at absent
      cases absent
  | unscored _ other given _ absent =>
      cases predicted.symm.trans given
      rw [scored] at absent
      cases absent

theorem build_bare_error_iff (config : RejectionConfig) (e : GateError) :
    Gate.build config none none = .error e ↔ ∃ s, config.validate = .error s ∧ .configuration (.invalid s) = e := by
  unfold Gate.build
  rw [bind_error_iff, map_error_error_iff]
  constructor
  · rintro (refused | ⟨_, -, bare⟩)
    · exact refused
    · cases bare
  · exact .inl

theorem supply_all_config (builder : Builder) (supplies : List Supply) :
    (builder.supplyAll supplies).config = builder.config := by
  induction supplies generalizing builder with
  | nil => rfl
  | cons supply rest ih =>
      change ((builder.supply supply).supplyAll rest).config = _
      rw [ih]
      cases supply <;> rfl

theorem built_safe (builder : Builder) (gate : Gate) (built : builder.build = .ok gate) :
    gate.config = builder.config ∧ builder.config.Safe := by
  obtain ⟨⟨⟩, valid, made⟩ := (bind_ok_iff _ _ _).mp built
  refine ⟨?_, (RejectionConfig.validate_ok_iff _).mp ((map_error_ok_iff _ _ _).mp valid)⟩
  cases given : builder.index with
  | some index =>
      rw [given] at made
      cases made
      rfl
  | none =>
      rw [given] at made
      rw [offer_ok _ gate builder.domain made, ensure_index_config]

theorem replaced_judgeable (threshold : Float) (within : InUnit threshold) (message output : Message)
    (replaced : Replaced threshold message output) : Judgeable output :=
  ⟨⟨_, threshold, replaced.intent, rfl, within⟩, fun gate => scored_judged gate output _ threshold replaced.intent rfl⟩

theorem rejected_judgeable (gate : Gate) (within : InUnit gate.config.thresholds.default) (messages : List Message)
    (domain : Option DomainSchema) (decided : List (Message × Verdict))
    (processed : (gate.processWithVerdicts messages domain).result = .ok decided) (entry : Message × Verdict)
    (member : entry ∈ decided) (rejected : entry.2.isReject = true) : Judgeable entry.1 := by
  obtain ⟨-, length, pointwise⟩ := (process_with_verdicts_pointwise_iff _ _ _ _).mp processed
  obtain ⟨i, inResult, rfl⟩ := List.mem_iff_getElem.mp member
  have replaced := (pointwise i (length ▸ inResult) inResult).replaced rejected
  rw [ensure_index_config] at replaced
  exact replaced_judgeable _ within _ _ replaced

theorem validation_admits_safe (config : RejectionConfig) :
    (config.validate = .ok () ↔ config.Safe) ∧
    (config.SingleFault → ∀ e, config.validate = .error e ↔ config.FirstBroken e) ∧
    (∀ e, config.validate = .error e → ∀ part ∈ e.particulars, Shows e.message part) ∧
    (∀ gate, Gate.build config none none = .ok gate ↔ config.Safe ∧ gate = { config }) ∧
    (∀ e, Gate.build config none none = .error e ↔
      ∃ s, config.validate = .error s ∧ .configuration (.invalid s) = e) ∧
    ∀ supplies gate, (Builder.supplyAll { config } supplies).build = .ok gate → ∀ requests,
      let state := gate.after requests
      (∃ c, state.rejectionIntent.confidence = some c ∧ InUnit c) ∧
      (∀ message, Judgeable (state.applyRejection message)) ∧
      ∀ messages domain decided, (state.processWithVerdicts messages domain).result = .ok decided →
        ∀ entry ∈ decided, entry.2.isReject = true → Judgeable entry.1 := by
  refine ⟨RejectionConfig.validate_ok_iff config, RejectionConfig.validate_error_iff config,
    fun e _ => message_shows e, fun gate => ?_, build_bare_error_iff config, ?_⟩
  · rw [build_bare_iff, RejectionConfig.validate_ok_iff]
  intro supplies gate built requests state
  obtain ⟨same, safe⟩ := built_safe _ gate built
  have settings : state.config = config := (after_config gate requests).trans (same.trans (supply_all_config _ supplies))
  rw [supply_all_config] at safe
  have within : InUnit state.config.thresholds.default := settings ▸ safe .default
  refine ⟨⟨_, rfl, within⟩, fun message => ?_, rejected_judgeable state within⟩
  exact replaced_judgeable _ within message _ (apply_rejection_replaces state message)

theorem validation_admits_safe_signed :
    let broken : RejectionConfig :=
      { thresholds := { custom := .ofList [(" ", 0 / 0), ("greet", 1)] }, method := "", excluded := ["\t"] }
    let config : RejectionConfig := { thresholds := { default := -0.0 } }
    let gate : Gate := { config, index := some {} }
    let doubtful : Message := { intent := some { name := "greet", confidence := some (-1) } }
    (broken.SingleFault ∧ broken.validate = .error (.emptyIntentName .custom) ∧
      ∀ part ∈ (InvalidSetting.emptyIntentName .custom).particulars,
        Shows (InvalidSetting.emptyIntentName .custom).message part) ∧
      (Builder.supplyAll { config } [.domain { intents := [.null] }, .index {}]).build = .ok gate ∧
      Judgeable ((gate.after [.process [{}] none]).applyRejection {}) ∧
      ∃ output reason, (gate.processWithVerdicts [doubtful] none).result = .ok [(output, .reject reason)] ∧
        Judgeable output := by
  intro broken config gate doubtful
  have greeting : RejectionConfig.EntrySound ("greet", 1) := ⟨by decide, by decide⟩
  have single : broken.SingleFault := by
    intro first one second two unsound unsoundToo
    rcases List.mem_pair.mp one with rfl | rfl
    · rcases List.mem_pair.mp two with rfl | rfl
      · rfl
      · exact absurd greeting unsoundToo
    · exact absurd greeting unsound
  have firstBroken : broken.FirstBroken (.emptyIntentName .custom) := by
    refine ⟨[.default, .ambiguity, .unexpectedSlot], .custom, [.excluded, .method], rfl, ?_,
      .custom _ List.mem_cons_self _ (.nameless (by decide))⟩
    simp only [List.forall_mem_cons, List.not_mem_nil, false_implies, implies_true, and_true]
    refine ⟨?_, ?_, ?_⟩
    · change InUnit ({} : Thresholds).default
      decide
    · change InUnit ({} : Thresholds).ambiguity
      decide
    · rintro x ⟨⟩
  have built : (Builder.supplyAll { config } [.domain { intents := [.null] }, .index {}]).build = .ok gate := by
    unfold gate config
    rfl
  have processed : (gate.processWithVerdicts [doubtful] none).result =
      .ok [(gate.applyRejection doubtful, .reject (.belowDefaultThreshold (-1) (-0.0)))] := by
    unfold gate config doubtful
    rfl
  obtain ⟨-, errors, shown, -⟩ := validation_admits_safe broken
  have refused := (errors single _).mpr firstBroken
  obtain ⟨-, -, -, -, -, lives⟩ := validation_admits_safe config
  obtain ⟨-, rewritten, -⟩ := lives _ gate built [.process [{}] none]
  obtain ⟨-, -, batches⟩ := lives _ gate built []
  exact ⟨⟨single, refused, shown _ refused⟩, built, rewritten {}, _, _, processed,
    batches [doubtful] none _ processed _ List.mem_cons_self rfl⟩

end Gate

end IntentGate
