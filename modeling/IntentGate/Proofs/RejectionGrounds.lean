import IntentGate.Proofs.Acceptance

set_option autoImplicit false

namespace IntentGate

inductive Disputes (config : RejectionConfig) (ranking : List RankedIntent) (intent : String) (confidence : Float) :
    RejectReason → Prop where
  | belowCustom (threshold : Float) (custom : config.thresholds.custom.get? intent = some threshold)
      (below : confidence < threshold) :
      Disputes config ranking intent confidence (.belowCustomThreshold confidence threshold)
  | belowDefault (uncustomized : config.thresholds.custom.get? intent = none)
      (below : confidence < config.thresholds.default) :
      Disputes config ranking intent confidence (.belowDefaultThreshold confidence config.thresholds.default)
  | ambiguous (uncustomized : config.thresholds.custom.get? intent = none)
      (reached : ¬ confidence < config.thresholds.default) (first second : RankedIntent)
      (leads : Leads config.excluded ranking first second)
      (near : first.weight - second.weight < config.thresholds.ambiguity) :
      Disputes config ranking intent confidence
        (.ambiguous (first.weight - second.weight) config.thresholds.ambiguity)

theorem disputes_reason (config : RejectionConfig) (ranking : List RankedIntent) (intent : String)
    (confidence : Float) (reason : RejectReason) (disputes : Disputes config ranking intent confidence reason) :
    RejectReason.ofThreshold (.of config intent confidence ranking) = some reason := by
  cases disputes with
  | belowCustom threshold custom below =>
      simp [ThresholdCheck.of, RejectionConfig.thresholdFor, custom, below, RejectReason.ofThreshold]
  | belowDefault uncustomized below =>
      simp [ThresholdCheck.of, RejectionConfig.thresholdFor, uncustomized, below, RejectReason.ofThreshold]
  | ambiguous uncustomized reached first second leads near =>
      have delta := confidence_delta_of_leads ranking config.excluded first second leads
      simp [ThresholdCheck.of, RejectionConfig.thresholdFor, uncustomized, reached, delta, near,
        RejectReason.ofThreshold]

theorem confident_or_disputed (config : RejectionConfig) (ranking : List RankedIntent) (intent : String)
    (confidence : Float) :
    Confident config ranking intent confidence ∨ ∃ reason, Disputes config ranking intent confidence reason := by
  cases custom : config.thresholds.custom.get? intent with
  | some threshold =>
      by_cases below : confidence < threshold
      · exact .inr ⟨_, .belowCustom threshold custom below⟩
      · left
        simpa only [Confident, custom] using below
  | none =>
      by_cases below : confidence < config.thresholds.default
      · exact .inr ⟨_, .belowDefault custom below⟩
      · by_cases near : ∃ first second, Leads config.excluded ranking first second ∧
            first.weight - second.weight < config.thresholds.ambiguity
        · obtain ⟨first, second, leads, near⟩ := near
          exact .inr ⟨_, .ambiguous custom below first second leads near⟩
        · left
          simp only [Confident, custom]
          exact ⟨below, fun first second leads close => near ⟨first, second, leads, close⟩⟩

theorem threshold_reason_iff (config : RejectionConfig) (ranking : List RankedIntent) (intent : String)
    (confidence : Float) (reason : RejectReason) :
    RejectReason.ofThreshold (.of config intent confidence ranking) = some reason ↔
      Disputes config ranking intent confidence reason := by
  refine ⟨fun found => ?_, disputes_reason config ranking intent confidence reason⟩
  rcases confident_or_disputed config ranking intent confidence with confident | ⟨other, disputes⟩
  · have passed := (threshold_passed_iff config intent confidence ranking).mpr confident
    rw [passed] at found
    cases found
  · have given := disputes_reason config ranking intent confidence other disputes
    rw [Option.some.inj (found.symm.trans given)]
    exact disputes

theorem undisputed_iff (config : RejectionConfig) (ranking : List RankedIntent) (intent : String)
    (confidence : Float) :
    (∀ reason, ¬ Disputes config ranking intent confidence reason) ↔ Confident config ranking intent confidence := by
  rw [← threshold_passed_iff, ← Gate.of_threshold_none_iff, Option.eq_none_iff_forall_ne_some]
  simp only [ne_eq, threshold_reason_iff]

namespace Gate

structure Mismatch (gate : Gate) (predicted : List Entity) (intent : String) (missing extra : List Requirement) :
    Prop where
  asked : gate.config.requireEntities = true
  compared : ∃ index required, gate.index = some index ∧ (intent, required) ∈ index.entries.rows ∧
    missing = required.filter (fun r => r ∉ projections predicted) ∧
    extra = (projections predicted).filter fun r => r ∉ required
  differ : ¬ (missing = [] ∧ extra = [])

theorem entity_reason_iff (gate : Gate) (message : Message) (intent : String) (reason : RejectReason) :
    gate.entityReason message intent = some reason ↔
      ∃ missing extra, reason = .entityMismatch missing extra ∧
        Mismatch gate (message.entities.getD []) intent missing extra := by
  unfold entityReason Message.mentions
  generalize message.entities.getD [] = predicted
  constructor
  · intro found
    by_cases asked : gate.config.requireEntities = true
    · rw [if_pos asked] at found
      by_cases entry : ∃ required, (intent, required) ∈ (gate.index.getD {}).entries.rows
      · obtain ⟨required, listed⟩ := entry
        rw [of_entry _ intent predicted required listed] at found
        by_cases same : SameEntities required predicted
        · rw [compare_same required predicted same] at found
          cases found
        · rw [compare_different required predicted same] at found
          refine ⟨_, _, (Option.some.inj found).symm, asked, ?_, ?_⟩
          · cases installed : gate.index with
            | none => simp [installed] at listed
            | some index =>
                rw [installed] at listed
                exact ⟨index, required, rfl, listed, rfl, rfl⟩
          · simpa only [← missing_of_eq, ← extra_of_eq, nothing_differs_iff] using same
      · rw [(of_unconstrained_iff _ intent predicted).mpr (not_exists.mp entry)] at found
        cases found
    · rw [if_neg asked] at found
      cases found
  · rintro ⟨missing, extra, rfl, asked, ⟨index, required, installed, entry, rfl, rfl⟩, differ⟩
    have different : ¬ SameEntities required predicted := by
      simpa only [← missing_of_eq, ← extra_of_eq, nothing_differs_iff] using differ
    rw [if_pos asked, installed, Option.getD_some, of_entry index intent predicted required entry,
      compare_different required predicted different, RejectReason.ofEntities]

theorem judge_rejects_iff (gate : Gate) (message : Message) (intent : String) (confidence : Float)
    (reason : RejectReason) :
    gate.judge message intent confidence = .reject reason ↔
      Disputes gate.config (message.ranking.getD []) intent confidence reason ∨
        Confident gate.config (message.ranking.getD []) intent confidence ∧
          ∃ missing extra, reason = .entityMismatch missing extra ∧
            Mismatch gate (message.entities.getD []) intent missing extra := by
  rw [← threshold_reason_iff, ← threshold_passed_iff, ← of_threshold_none_iff, ← entity_reason_iff]
  simp only [judge, thresholdReason, Message.candidates]
  cases RejectReason.ofThreshold (.of gate.config intent confidence (message.ranking.getD [])) with
  | some other => simp
  | none => cases gate.entityReason message intent <;> simp

-- Why a message with a prediction is rejected once it is looked at. An excluded intent needs no confidence, and what
-- the thresholds have against a message comes before its entities.
inductive Grounds (gate : Gate) (message : Message) (intent : Intent) : RejectReason → Prop where
  | excluded (listed : intent.name ∈ gate.config.excluded) :
      Grounds gate message intent (.excludedIntent intent.name)
  | disputed (allowed : intent.name ∉ gate.config.excluded) (confidence : Float)
      (scored : intent.confidence = some confidence) (reason : RejectReason)
      (disputes : Disputes gate.config (message.ranking.getD []) intent.name confidence reason) :
      Grounds gate message intent reason
  | mismatched (allowed : intent.name ∉ gate.config.excluded) (confidence : Float)
      (scored : intent.confidence = some confidence)
      (undisputed : ∀ reason, ¬ Disputes gate.config (message.ranking.getD []) intent.name confidence reason)
      (missing extra : List Requirement)
      (mismatch : Mismatch gate (message.entities.getD []) intent.name missing extra) :
      Grounds gate message intent (.entityMismatch missing extra)

theorem grounds_iff (gate : Gate) (message : Message) (intent : Intent) (reason : RejectReason) :
    Grounds gate message intent reason ↔
      (intent.name ∈ gate.config.excluded ∧ reason = .excludedIntent intent.name) ∨
        (intent.name ∉ gate.config.excluded ∧ ∃ confidence, intent.confidence = some confidence ∧
          gate.judge message intent.name confidence = .reject reason) := by
  constructor
  · intro grounds
    cases grounds with
    | excluded listed => exact .inl ⟨listed, rfl⟩
    | disputed allowed confidence scored reason disputes =>
        exact .inr ⟨allowed, confidence, scored, (judge_rejects_iff _ _ _ _ _).mpr (.inl disputes)⟩
    | mismatched allowed confidence scored undisputed missing extra mismatch =>
        have confident := (undisputed_iff _ _ _ _).mp undisputed
        exact .inr ⟨allowed, confidence, scored,
          (judge_rejects_iff _ _ _ _ _).mpr (.inr ⟨confident, missing, extra, rfl, mismatch⟩)⟩
  · rintro (⟨listed, rfl⟩ | ⟨allowed, confidence, scored, judged⟩)
    · exact .excluded listed
    · rcases (judge_rejects_iff _ _ _ _ _).mp judged with disputes | ⟨confident, missing, extra, rfl, mismatch⟩
      · exact .disputed allowed confidence scored reason disputes
      · exact .mismatched allowed confidence scored ((undisputed_iff _ _ _ _).mpr confident) missing extra mismatch

theorem grounds_unique (gate : Gate) (message : Message) (intent : Intent) (reason other : RejectReason)
    (grounds : Grounds gate message intent reason) (others : Grounds gate message intent other) : reason = other := by
  rcases (grounds_iff gate message intent reason).mp grounds with ⟨listed, same⟩ | ⟨allowed, confidence, scored, judged⟩
  · rcases (grounds_iff gate message intent other).mp others with ⟨-, otherSame⟩ | ⟨allowed, -⟩
    · rw [same, otherSame]
    · exact absurd listed allowed
  · rcases (grounds_iff gate message intent other).mp others with ⟨listed, -⟩ | ⟨-, again, alsoScored, alsoJudged⟩
    · exact absurd listed allowed
    · rw [Option.some.inj (scored.symm.trans alsoScored), alsoJudged] at judged
      exact (Verdict.reject.inj judged).symm

theorem rejects_iff_grounds (gate : Gate) (message : Message) (reason : RejectReason) :
    gate.evaluate message = .ok (.reject reason) ↔
      Examines gate message ∧ ∃ intent, message.intent = some intent ∧ Grounds gate message intent reason := by
  constructor
  · intro rejected
    obtain ⟨examined, intent, predicted, cause⟩ := rejected_cases gate message reason rejected
    exact ⟨examined, intent, predicted, (grounds_iff gate message intent reason).mpr cause⟩
  · rintro ⟨examined, intent, predicted, grounds⟩
    rcases (grounds_iff gate message intent reason).mp grounds with ⟨listed, rfl⟩ | ⟨allowed, confidence, scored, judged⟩
    · exact evaluate_of_settles gate message _ (.excluded examined intent predicted listed)
    · rw [← judged]
      exact evaluate_of_settles gate message _ (.judged examined intent confidence predicted allowed scored)

theorem rejection_grounded (gate : Gate) (message : Message) :
    (∀ reason, gate.evaluate message = .ok (.reject reason) ↔
      Examines gate message ∧ ∃ intent, message.intent = some intent ∧ Grounds gate message intent reason) ∧
    (∀ reason intent, gate.evaluate message = .ok (.reject reason) → message.intent = some intent →
      ∀ claimed, reason = claimed ↔ Grounds gate message intent claimed) ∧
    ∀ intent one other, Grounds gate message intent one → Grounds gate message intent other → one = other := by
  refine ⟨rejects_iff_grounds gate message, fun reason intent rejected predicted claimed => ?_, grounds_unique gate message⟩
  obtain ⟨-, given, found, grounds⟩ := (rejects_iff_grounds gate message reason).mp rejected
  rw [Option.some.inj (found.symm.trans predicted)] at grounds
  constructor
  · intro same
    exact same ▸ grounds
  · intro others
    exact grounds_unique gate message intent reason claimed grounds others

theorem rejection_grounded_close :
    let gate : Gate := { config := {}, index := some { entries := .ofList [("book", [{ entity := "city" }])] } }
    let intent : Intent := { name := "book", confidence := some 0.5 }
    let ranking : List RankedIntent :=
      [{ name := "nlu_fallback", confidence := some 0.75 }, { name := "book", confidence := some 0.5 }, { name := "greet" }]
    let message : Message := { intent := some intent, ranking := some ranking }
    gate.evaluate message = .ok (.reject (.ambiguous (-0.5) 0.1)) ∧
      Grounds gate message intent (.ambiguous (-0.5) 0.1) ∧
      ∀ missing extra, ¬ Grounds gate message intent (.entityMismatch missing extra) := by
  intro gate intent ranking message
  have rejected : gate.evaluate message = .ok (.reject (.ambiguous (-0.5) 0.1)) := by
    unfold gate message ranking intent
    rfl
  obtain ⟨-, claims, -⟩ := rejection_grounded gate message
  have settled := claims _ intent rejected rfl
  refine ⟨rejected, (settled _).mp rfl, fun missing extra grounds => ?_⟩
  cases (settled _).mpr grounds

end Gate

end IntentGate
