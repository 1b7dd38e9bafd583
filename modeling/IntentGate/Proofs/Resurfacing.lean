import IntentGate.Proofs.FloatOrder
import IntentGate.Proofs.RejectionGrounds

set_option autoImplicit false

namespace IntentGate

-- The rejection intent stands up to the thresholds. Its own confidence reaches the default one, so that without a
-- custom threshold only the entry behind it can be too near.
def PassesAgain (config : RejectionConfig) (ranking : List RankedIntent) : Prop :=
  match config.thresholds.custom.get? "nlu_fallback" with
  | some threshold => ¬ config.thresholds.default < threshold
  | none => (∀ r ∈ ranking, r.name ∈ config.excluded) ∨
      ∃ next, Foremost config.excluded ranking next ∧
        ¬ config.thresholds.default - next.weight < config.thresholds.ambiguity

inductive DisputesAgain (config : RejectionConfig) (ranking : List RankedIntent) : RejectReason → Prop where
  | belowCustom (threshold : Float) (custom : config.thresholds.custom.get? "nlu_fallback" = some threshold)
      (below : config.thresholds.default < threshold) :
      DisputesAgain config ranking (.belowCustomThreshold config.thresholds.default threshold)
  | ambiguous (uncustomized : config.thresholds.custom.get? "nlu_fallback" = none) (next : RankedIntent)
      (foremost : Foremost config.excluded ranking next)
      (near : config.thresholds.default - next.weight < config.thresholds.ambiguity) :
      DisputesAgain config ranking
        (.ambiguous (config.thresholds.default - next.weight) config.thresholds.ambiguity)

namespace Gate

variable (gate : Gate) (ranking : List RankedIntent)

theorem rejection_weight : (RankedIntent.ofIntent gate.rejectionIntent).weight = gate.config.thresholds.default := rfl

theorem leads_rejection_iff (allowed : "nlu_fallback" ∉ gate.config.excluded) (first second : RankedIntent) :
    Leads gate.config.excluded (.ofIntent gate.rejectionIntent :: ranking) first second ↔
      first = .ofIntent gate.rejectionIntent ∧ Foremost gate.config.excluded ranking second :=
  leads_cons_iff gate.config.excluded ranking (.ofIntent gate.rejectionIntent) first second allowed

theorem disputes_again_iff (allowed : "nlu_fallback" ∉ gate.config.excluded) (reason : RejectReason) :
    Disputes gate.config (.ofIntent gate.rejectionIntent :: ranking) "nlu_fallback" gate.config.thresholds.default
        reason ↔
      DisputesAgain gate.config ranking reason := by
  constructor
  · intro disputes
    cases disputes with
    | belowCustom threshold custom below => exact .belowCustom threshold custom below
    | belowDefault uncustomized below => exact absurd below (not_lt_self _)
    | ambiguous uncustomized reached first second leads near =>
        obtain ⟨rfl, foremost⟩ := (leads_rejection_iff gate ranking allowed first second).mp leads
        rw [rejection_weight] at near ⊢
        exact .ambiguous uncustomized second foremost near
  · intro disputes
    cases disputes with
    | belowCustom threshold custom below => exact .belowCustom threshold custom below
    | ambiguous uncustomized next foremost near =>
        have leads := (leads_rejection_iff gate ranking allowed _ next).mpr ⟨rfl, foremost⟩
        rw [← rejection_weight] at near ⊢
        exact .ambiguous uncustomized (not_lt_self _) _ next leads near

theorem confident_again_iff (allowed : "nlu_fallback" ∉ gate.config.excluded) :
    Confident gate.config (.ofIntent gate.rejectionIntent :: ranking) "nlu_fallback" gate.config.thresholds.default ↔
      PassesAgain gate.config ranking := by
  rw [← undisputed_iff]
  simp only [disputes_again_iff gate ranking allowed]
  constructor
  · intro undisputed
    cases custom : gate.config.thresholds.custom.get? "nlu_fallback" with
    | some threshold =>
        simp only [PassesAgain, custom]
        exact fun below => undisputed _ (.belowCustom threshold custom below)
    | none =>
        simp only [PassesAgain, custom]
        apply (excluded_or_foremost gate.config.excluded ranking).imp_right
        intro found
        obtain ⟨next, foremost⟩ := found
        exact ⟨next, foremost, fun near => undisputed _ (.ambiguous custom next foremost near)⟩
  · intro passes reason disputes
    cases disputes with
    | belowCustom threshold custom below =>
        simp only [PassesAgain, custom] at passes
        exact passes below
    | ambiguous uncustomized next foremost near =>
        simp only [PassesAgain, uncustomized] at passes
        rcases passes with excluded | ⟨other, others, apart⟩
        · obtain ⟨before, after, rfl, -, named⟩ := foremost
          exact named (excluded next (by simp))
        · rw [foremost_unique gate.config.excluded ranking next other foremost others] at near
          exact apart near

theorem evaluate_again (message : Message) (reason : RejectReason) (allowed : "nlu_fallback" ∉ gate.config.excluded)
    (rejected : gate.evaluate message = .ok (.reject reason)) :
    gate.evaluate (gate.applyRejection message) =
      .ok (gate.judge (gate.applyRejection message) "nlu_fallback" gate.config.thresholds.default) := by
  have examined := (rejected_cases gate message reason rejected).1
  have again : Examines gate (gate.applyRejection message) := ⟨examined.enabled, examined.unforced⟩
  exact evaluate_of_settles gate _ _ (.judged again gate.rejectionIntent _ rfl allowed rfl)

theorem resurfacing_exact (message : Message) (reason : RejectReason) (allowed : "nlu_fallback" ∉ gate.config.excluded)
    (rejected : gate.evaluate message = .ok (.reject reason)) :
    let again := gate.evaluate (gate.applyRejection message)
    (∀ e, again ≠ .error e) ∧
    (∀ accepted, again = .ok (.accept accepted) ↔ accepted = .fullUtterance ∧
      PassesAgain gate.config (message.ranking.getD []) ∧ MeetsRequirements gate message "nlu_fallback") ∧
    ∀ next, again = .ok (.reject next) ↔
      DisputesAgain gate.config (message.ranking.getD []) next ∨
        PassesAgain gate.config (message.ranking.getD []) ∧
          ∃ missing extra, next = .entityMismatch missing extra ∧
            Mismatch gate (message.entities.getD []) "nlu_fallback" missing extra := by
  intro again
  have judged : again = .ok _ := evaluate_again gate message reason allowed rejected
  have passes := confident_again_iff gate (message.ranking.getD []) allowed
  refine ⟨fun e failed => ?_, fun accepted => ?_, fun next => ?_⟩
  · cases judged.symm.trans failed
  · rw [judged, Except.ok.injEq, ← passes]
    constructor
    · intro accepts
      have full := judge_accepts_full gate _ _ _ accepted accepts
      subst full
      exact ⟨rfl, (judge_accepts_iff gate _ _ _).mp accepts⟩
    · intro accepts
      rw [accepts.1]
      exact (judge_accepts_iff gate _ _ _).mpr accepts.2
  · rw [judged, Except.ok.injEq, judge_rejects_iff, ← passes, ← disputes_again_iff gate (message.ranking.getD []) allowed]
    rfl

theorem resurfacing_exact_doubtful :
    let gate : Gate := { config := { excluded := ["bye"] } }
    let doubtful : Message := { intent := some { name := "book", confidence := some 0.25 } }
    let bye : RankedIntent := { name := "bye", confidence := some 0.5 }
    let book : RankedIntent := { name := "book", confidence := some 0.25 }
    let ranked : Message := { doubtful with ranking := some [bye, book] }
    gate.evaluate doubtful = .ok (.reject (.belowDefaultThreshold 0.25 0.3)) ∧
      gate.evaluate (gate.applyRejection doubtful) = .ok (.accept .fullUtterance) ∧
      gate.evaluate ranked = .ok (.reject (.belowDefaultThreshold 0.25 0.3)) ∧
      gate.evaluate (gate.applyRejection ranked) = .ok (.reject (.ambiguous (0.3 - 0.25) 0.1)) := by
  intro gate doubtful bye book ranked
  have allowed : "nlu_fallback" ∉ gate.config.excluded := by decide
  have rejected : gate.evaluate doubtful = .ok (.reject (.belowDefaultThreshold 0.25 0.3)) := by
    unfold gate doubtful
    rfl
  have rejectedRanked : gate.evaluate ranked = .ok (.reject (.belowDefaultThreshold 0.25 0.3)) := by
    unfold gate ranked doubtful
    rfl
  have near : gate.config.thresholds.default - book.weight < gate.config.thresholds.ambiguity := by
    unfold gate book
    decide +kernel
  have foremost : Foremost gate.config.excluded ranked.candidates book := ⟨[bye], [], rfl, by decide, by decide⟩
  obtain ⟨-, accepts, -⟩ := resurfacing_exact gate doubtful _ allowed rejected
  obtain ⟨-, -, rejects⟩ := resurfacing_exact gate ranked _ allowed rejectedRanked
  refine ⟨rejected, (accepts .fullUtterance).mpr ⟨rfl, ?_, ?_⟩, rejectedRanked, ?_⟩
  · left
    intro r member
    cases member
  · intro _ index installed
    cases installed
  · exact (rejects _).mpr (.inl (.ambiguous rfl book foremost near))

end Gate

end IntentGate
