import IntentGate.Proofs.Acceptance
import IntentGate.Proofs.BatchFailure
import IntentGate.Proofs.FiniteMap
import IntentGate.Proofs.FloatOrder

set_option autoImplicit false

namespace IntentGate.Gate

structure Stricter (strict lenient : RejectionConfig) : Prop where
  enabled : strict.enabled = lenient.enabled
  requireEntities : strict.requireEntities = lenient.requireEntities
  method : strict.method = lenient.method
  forceFinal : strict.forceFinal = lenient.forceFinal
  excluded : strict.excluded = lenient.excluded
  default : lenient.thresholds.default ≤ strict.thresholds.default
  ambiguity : lenient.thresholds.ambiguity ≤ strict.thresholds.ambiguity
  sameIntents : ∀ intent, (lenient.thresholds.custom.get? intent).isSome = (strict.thresholds.custom.get? intent).isSome
  custom : ∀ intent low high, lenient.thresholds.custom.get? intent = some low →
    strict.thresholds.custom.get? intent = some high → low ≤ high

variable {strict lenient : RejectionConfig} {index : Option RequirementIndex}

theorem stricter_confident (stricter : Stricter strict lenient) (ranking : List RankedIntent) (intent : String)
    (confidence : Float) (confident : Confident strict ranking intent confidence) :
    Confident lenient ranking intent confidence := by
  have same := stricter.sameIntents intent
  unfold Confident at confident ⊢
  cases low : lenient.thresholds.custom.get? intent with
  | some lower =>
      rw [low, Option.isSome_some] at same
      obtain ⟨higher, high⟩ := Option.isSome_iff_exists.mp same.symm
      rw [high] at confident
      exact fun below => confident (lt_of_lt_le _ _ _ below (stricter.custom intent lower higher low high))
  | none =>
      rw [low, Option.isSome_none] at same
      have high : strict.thresholds.custom.get? intent = none := by simpa using same.symm
      rw [high, stricter.excluded] at confident
      obtain ⟨reached, apart⟩ := confident
      refine ⟨fun below => reached (lt_of_lt_le _ _ _ below stricter.default), fun first second leads near => ?_⟩
      exact apart first second leads (lt_of_lt_le _ _ _ near stricter.ambiguity)

theorem stricter_examines (stricter : Stricter strict lenient) (message : Message) :
    Examines { config := strict, index } message ↔ Examines { config := lenient, index } message := by
  constructor
  · rintro ⟨on, unforced⟩
    exact ⟨stricter.enabled ▸ on, stricter.forceFinal ▸ unforced⟩
  · rintro ⟨on, unforced⟩
    exact ⟨stricter.enabled.symm ▸ on, stricter.forceFinal.symm ▸ unforced⟩

theorem stricter_full (stricter : Stricter strict lenient) (message : Message) (intent : Intent) (confidence : Float)
    (full : FullUtterance { config := strict, index } message intent confidence) :
    FullUtterance { config := lenient, index } message intent confidence := by
  obtain ⟨enabled, unforced⟩ := (stricter_examines stricter message).mp ⟨full.enabled, full.unforced⟩
  have allowed : intent.name ∉ lenient.excluded := stricter.excluded ▸ full.allowed
  have confident := stricter_confident stricter message.candidates intent.name confidence full.confident
  refine ⟨enabled, unforced, full.predicted, full.scored, allowed, confident, fun required => ?_⟩
  exact full.entities (stricter.requireEntities.trans required)

theorem stricter_accepts (stricter : Stricter strict lenient) (message : Message) (reason : AcceptReason)
    (accepted : evaluate { config := strict, index } message = .ok (.accept reason)) :
    evaluate { config := lenient, index } message = .ok (.accept reason) := by
  rcases accepted_cases _ message reason accepted with
    ⟨rfl, off⟩ | ⟨rfl, on, forces, final⟩ | ⟨rfl, intent, confidence, full⟩
  · exact evaluate_of_settles _ message _ (.disabled (stricter.enabled ▸ off))
  · exact evaluate_of_settles _ message _ (.forcedFinal (stricter.enabled ▸ on) (stricter.forceFinal ▸ forces) final)
  · exact evaluate_of_full _ message intent confidence (stricter_full stricter message intent confidence full)

theorem stricter_lacks (stricter : Stricter strict lenient) (message : Message) (field : NeededField) :
    Lacks { config := strict, index } message field ↔ Lacks { config := lenient, index } message field := by
  have examined : Examines { config := strict, index } message ↔ Examines { config := lenient, index } message :=
    stricter_examines stricter message
  constructor
  · rintro (⟨looked, absent⟩ | ⟨looked, intent, predicted, allowed, absent⟩)
    · exact .intent (examined.mp looked) absent
    · exact .confidence (examined.mp looked) intent predicted (stricter.excluded ▸ allowed) absent
  · rintro (⟨looked, absent⟩ | ⟨looked, intent, predicted, allowed, absent⟩)
    · exact .intent (examined.mpr looked) absent
    · exact .confidence (examined.mpr looked) intent predicted (stricter.excluded.symm ▸ allowed) absent

theorem stricter_fails_iff (stricter : Stricter strict lenient) (message : Message) (e : GateError) :
    evaluate { config := strict, index } message = .error e ↔
      evaluate { config := lenient, index } message = .error e := by
  rw [evaluate_error_iff, evaluate_error_iff]
  simp only [stricter_lacks stricter message]

theorem stricter_rejects (stricter : Stricter strict lenient) (message : Message) (reason : RejectReason)
    (rejected : evaluate { config := lenient, index } message = .ok (.reject reason)) :
    ∃ other, evaluate { config := strict, index } message = .ok (.reject other) := by
  cases settled : evaluate { config := strict, index } message with
  | error e =>
      rw [(stricter_fails_iff stricter message e).mp settled] at rejected
      cases rejected
  | ok verdict =>
      cases verdict with
      | reject other => exact ⟨other, rfl⟩
      | accept other =>
          rw [stricter_accepts stricter message other settled] at rejected
          cases rejected

theorem raised_confident (config : RejectionConfig) (ranking : List RankedIntent) (intent : String)
    (lower higher : Float) (raised : lower ≤ higher) (confident : Confident config ranking intent lower) :
    Confident config ranking intent higher := by
  unfold Confident at confident ⊢
  cases custom : config.thresholds.custom.get? intent with
  | some threshold =>
      rw [custom] at confident
      exact fun below => confident (lt_of_le_lt _ _ _ raised below)
  | none =>
      rw [custom] at confident
      exact ⟨fun below => confident.1 (lt_of_le_lt _ _ _ raised below), confident.2⟩

def scoring (message : Message) (intent : Intent) (confidence : Float) : Message :=
  { message with intent := some { intent with confidence := some confidence } }

theorem raised_accepts (gate : Gate) (message : Message) (intent : Intent) (lower higher : Float)
    (raised : lower ≤ higher) (reason : AcceptReason)
    (accepted : gate.evaluate (scoring message intent lower) = .ok (.accept reason)) :
    gate.evaluate (scoring message intent higher) = .ok (.accept reason) := by
  rcases accepted_cases _ _ reason accepted with ⟨rfl, off⟩ | ⟨rfl, on, forces, final⟩ | ⟨rfl, found, confidence, full⟩
  · exact evaluate_of_settles _ _ _ (.disabled off)
  · exact evaluate_of_settles _ _ _ (.forcedFinal on forces final)
  · obtain ⟨on, unforced, predicted, scored, allowed, confident, entities⟩ := full
    cases predicted
    cases scored
    exact evaluate_of_full _ _ { intent with confidence := some higher } higher ⟨on, unforced, rfl, rfl, allowed,
      raised_confident _ _ _ _ _ raised confident, entities⟩

theorem strictness_monotone :
    (∀ (strict lenient : RejectionConfig) (index : Option RequirementIndex) (message : Message),
      Stricter strict lenient →
        (∀ reason, evaluate { config := strict, index } message = .ok (.accept reason) →
          evaluate { config := lenient, index } message = .ok (.accept reason)) ∧
        (∀ reason, evaluate { config := lenient, index } message = .ok (.reject reason) →
          ∃ other, evaluate { config := strict, index } message = .ok (.reject other)) ∧
        ∀ e, evaluate { config := strict, index } message = .error e ↔
          evaluate { config := lenient, index } message = .error e) ∧
    ∀ (gate : Gate) (message : Message) (intent : Intent) (lower higher : Float), lower ≤ higher →
      ∀ reason, gate.evaluate (scoring message intent lower) = .ok (.accept reason) →
        gate.evaluate (scoring message intent higher) = .ok (.accept reason) := by
  refine ⟨fun strict lenient index message stricter => ?_, raised_accepts⟩
  exact ⟨stricter_accepts stricter message, stricter_rejects stricter message, stricter_fails_iff stricter message⟩

theorem strictness_monotone_booking :
    let strict : RejectionConfig := { thresholds := { default := 0.75, ambiguity := 0.5, custom := .ofList [("book", 0.5)] } }
    let lenient : RejectionConfig := { thresholds := { default := 0.5, ambiguity := 0.25, custom := .ofList [("book", 0.25)] } }
    let booking : Message := { intent := some { name := "book", confidence := some 0.5 } }
    let unsure : Message := { intent := some { name := "greet", confidence := some 0 } }
    let certain : Message := { intent := some { name := "book", confidence := some 1 } }
    Stricter strict lenient ∧
      evaluate { config := strict } booking = .ok (.accept .fullUtterance) ∧
      evaluate { config := lenient } booking = .ok (.accept .fullUtterance) ∧
      evaluate { config := lenient } unsure = .ok (.reject (.belowDefaultThreshold 0 0.5)) ∧
      (∃ other, evaluate { config := strict } unsure = .ok (.reject other)) ∧
      evaluate { config := strict } {} = .error (.missingField .intent) ∧
      evaluate { config := lenient } {} = .error (.missingField .intent) ∧
      evaluate { config := strict } certain = .ok (.accept .fullUtterance) := by
  intro strict lenient booking unsure certain
  have stricter : Stricter strict lenient := by
    refine ⟨rfl, rfl, rfl, rfl, rfl, by decide +kernel, by decide +kernel, fun intent => ?_, fun intent low high => ?_⟩
    · simp only [strict, lenient, Table.get_singleton]
      split <;> simp
    · simp only [strict, lenient, Table.get_singleton]
      split
      · intro lower higher
        rw [← Option.some.inj lower, ← Option.some.inj higher]
        decide +kernel
      · intro absent
        exact (Option.some_ne_none low absent.symm).elim
  have accepted : evaluate { config := strict } booking = .ok (.accept .fullUtterance) :=
    accepted_of_passed _ booking _ 0.5 ⟨rfl, by decide⟩ rfl rfl (by decide) (by decide +kernel) rfl
  have rejected : evaluate { config := lenient } unsure = .ok (.reject (.belowDefaultThreshold 0 0.5)) := by
    unfold lenient unsure
    rfl
  have failed : evaluate { config := strict } {} = .error (.missingField .intent) := rfl
  obtain ⟨thresholds, confidences⟩ := strictness_monotone
  obtain ⟨-, rejects, -⟩ := thresholds strict lenient none unsure stricter
  obtain ⟨-, -, fails⟩ := thresholds strict lenient none {} stricter
  exact ⟨stricter, accepted, (thresholds strict lenient none booking stricter).1 _ accepted, rejected,
    rejects _ rejected, failed, (fails _).mp failed,
    confidences _ booking { name := "book" } 0.5 1 (by decide +kernel) _ accepted⟩

end IntentGate.Gate
