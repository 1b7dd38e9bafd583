import IntentGate.Proofs.RejectionGrounds
import Mathlib.Logic.Relation

set_option autoImplicit false

namespace IntentGate

open Relation

inductive Edit (excluded : List String) : List RankedIntent → List RankedIntent → Prop where
  | insert (before after : List RankedIntent) (r : RankedIntent) (listed : r.name ∈ excluded) :
      Edit excluded (before ++ after) (before ++ r :: after)
  | remove (before after : List RankedIntent) (r : RankedIntent) (listed : r.name ∈ excluded) :
      Edit excluded (before ++ r :: after) (before ++ after)
  -- Both candidates stand in front, so that anything may stand behind them.
  | behind (front after other : List RankedIntent) (enough : 2 ≤ front.countP fun r => r.name ∉ excluded) :
      Edit excluded (front ++ after) (front ++ other)
  | assume (before after : List RankedIntent) (r : RankedIntent) (absent : r.confidence = none) :
      Edit excluded (before ++ r :: after) (before ++ { r with confidence := some 1 } :: after)
  | forget (before after : List RankedIntent) (r : RankedIntent) (certain : r.confidence = some 1) :
      Edit excluded (before ++ r :: after) (before ++ { r with confidence := none } :: after)

def contenders (excluded : List String) (ranking : List RankedIntent) : List Float :=
  ((ranking.filter fun r => r.name ∉ excluded).map (·.weight)).take 2

def gap? : List Float → Option Float
  | [first, second] => some (first - second)
  | _ => none

theorem confidence_delta_contenders (ranking : List RankedIntent) (excluded : List String) :
    confidenceDelta ranking excluded = gap? (contenders excluded ranking) := by
  unfold confidenceDelta contenders
  generalize (ranking.filter fun r => r.name ∉ excluded).map (·.weight) = weights
  match weights with
  | [] | [_] | _ :: _ :: _ => rfl

section Steps

variable (excluded : List String) (before after : List RankedIntent)

theorem contenders_excluded (r : RankedIntent) (listed : r.name ∈ excluded) :
    contenders excluded (before ++ r :: after) = contenders excluded (before ++ after) := by
  simp [contenders, listed]

theorem contenders_behind (other : List RankedIntent) (enough : 2 ≤ before.countP fun r => r.name ∉ excluded) :
    contenders excluded (before ++ after) = contenders excluded (before ++ other) := by
  have front : 2 ≤ ((before.filter fun r => r.name ∉ excluded).map (·.weight)).length := by
    rw [List.length_map, ← List.countP_eq_length_filter]
    exact enough
  unfold contenders
  rw [List.filter_append, List.map_append, List.filter_append, List.map_append, List.take_append_of_le_length front,
    List.take_append_of_le_length front]

theorem contenders_replaced (r other : RankedIntent) (named : other.name = r.name) (weighs : other.weight = r.weight) :
    contenders excluded (before ++ other :: after) = contenders excluded (before ++ r :: after) := by
  unfold contenders
  rw [List.filter_append, List.filter_append, List.filter_cons, List.filter_cons, named]
  split <;> simp [weighs]

end Steps

theorem edit_contenders (excluded : List String) (ranking other : List RankedIntent)
    (edit : Edit excluded ranking other) : contenders excluded other = contenders excluded ranking := by
  cases edit with
  | insert before after r listed => exact contenders_excluded excluded before after r listed
  | remove before after r listed => exact (contenders_excluded excluded before after r listed).symm
  | behind front after other enough => exact contenders_behind excluded front other after enough
  | assume before after r absent =>
      refine contenders_replaced excluded before after r _ rfl ?_
      simp only [RankedIntent.weight, absent, Option.getD_some, Option.getD_none]
  | forget before after r certain =>
      refine contenders_replaced excluded before after r _ rfl ?_
      simp only [RankedIntent.weight, certain, Option.getD_some, Option.getD_none]

theorem edits_contenders (excluded : List String) (ranking other : List RankedIntent)
    (edits : ReflTransGen (Edit excluded) ranking other) : contenders excluded other = contenders excluded ranking := by
  induction edits with
  | refl => rfl
  | tail _ edit ih => exact (edit_contenders excluded _ _ edit).trans ih

theorem edits_confidence_delta (excluded : List String) (ranking other : List RankedIntent)
    (edits : ReflTransGen (Edit excluded) ranking other) :
    confidenceDelta other excluded = confidenceDelta ranking excluded := by
  rw [confidence_delta_contenders, confidence_delta_contenders, edits_contenders excluded ranking other edits]

theorem threshold_check_delta (config : RejectionConfig) (intent : String) (confidence : Float)
    (ranking other : List RankedIntent)
    (same : confidenceDelta other config.excluded = confidenceDelta ranking config.excluded) :
    ThresholdCheck.of config intent confidence other = ThresholdCheck.of config intent confidence ranking := by
  unfold ThresholdCheck.of
  rw [same]

theorem threshold_check_custom (config : RejectionConfig) (intent : String) (confidence threshold : Float)
    (ranking : List RankedIntent) (custom : config.thresholds.custom.get? intent = some threshold) :
    ThresholdCheck.of config intent confidence ranking =
      if confidence < threshold then .belowCustom confidence threshold else .passed := by
  unfold ThresholdCheck.of RejectionConfig.thresholdFor
  rw [custom]

theorem ambiguous_iff (config : RejectionConfig) (intent : String) (confidence : Float) (ranking : List RankedIntent)
    (delta threshold : Float) :
    ThresholdCheck.of config intent confidence ranking = .ambiguous delta threshold ↔
      Disputes config ranking intent confidence (.ambiguous delta threshold) := by
  rw [← threshold_reason_iff]
  cases ThresholdCheck.of config intent confidence ranking <;> simp [RejectReason.ofThreshold]

theorem leads_enough (excluded : List String) (ranking : List RankedIntent) (first second : RankedIntent)
    (leads : Leads excluded ranking first second) : 2 ≤ ranking.countP fun r => r.name ∉ excluded := by
  obtain ⟨rest, kept⟩ := (leads_iff_filter excluded ranking first second).mp leads
  rw [List.countP_eq_length_filter, kept]
  simp

def rewritten (gates : List Gate) (message : Message) : Message :=
  gates.foldl (fun message gate => gate.applyRejection message) message

-- The rejection intent is put in front, and is one of the excluded ones.
theorem rewritten_edits (excluded : List String) (listed : "nlu_fallback" ∈ excluded) (gates : List Gate)
    (message : Message) :
    ReflTransGen (Edit excluded) (message.ranking.getD []) ((rewritten gates message).ranking.getD []) := by
  induction gates generalizing message with
  | nil => exact .refl
  | cons gate rest ih =>
      have first : Edit excluded (message.ranking.getD []) ((gate.applyRejection message).ranking.getD []) :=
        .insert [] (message.ranking.getD []) (.ofIntent gate.rejectionIntent) listed
      exact .head first (ih (gate.applyRejection message))

theorem contenders_decide (config : RejectionConfig) (intent : String) (confidence : Float)
    (ranking : List RankedIntent) :
    (∀ other, ReflTransGen (Edit config.excluded) ranking other →
      ThresholdCheck.of config intent confidence other = ThresholdCheck.of config intent confidence ranking) ∧
    (∀ delta threshold, ThresholdCheck.of config intent confidence ranking = .ambiguous delta threshold ↔
      Disputes config ranking intent confidence (.ambiguous delta threshold)) ∧
    ((ranking.countP fun r => r.name ∉ config.excluded) < 2 → ∀ delta threshold,
      ThresholdCheck.of config intent confidence ranking ≠ .ambiguous delta threshold) ∧
    (∀ threshold, config.thresholds.custom.get? intent = some threshold →
      ∀ (others : RejectionConfig) (other : List RankedIntent), others.thresholds.custom.get? intent = some threshold →
        ThresholdCheck.of others intent confidence other = ThresholdCheck.of config intent confidence ranking) ∧
    ("nlu_fallback" ∈ config.excluded → ∀ gates message,
      confidenceDelta ((rewritten gates message).ranking.getD []) config.excluded =
        confidenceDelta (message.ranking.getD []) config.excluded) := by
  refine ⟨fun other edits => ?_, ambiguous_iff config intent confidence ranking, ?_, ?_, ?_⟩
  · exact threshold_check_delta config intent confidence ranking other
      (edits_confidence_delta config.excluded ranking other edits)
  · intro few delta threshold ambiguous
    cases (ambiguous_iff config intent confidence ranking delta threshold).mp ambiguous with
    | ambiguous _ _ first second leads _ => exact absurd (leads_enough _ _ first second leads) (Nat.not_le.mpr few)
  · intro threshold custom others other customToo
    rw [threshold_check_custom others intent confidence threshold other customToo,
      threshold_check_custom config intent confidence threshold ranking custom]
  · intro listed gates message
    exact edits_confidence_delta config.excluded _ _ (rewritten_edits config.excluded listed gates message)

theorem contenders_decide_close :
    let config : RejectionConfig := { thresholds := { custom := .ofList [("stop", 0.5)] } }
    let strict : RejectionConfig :=
      { thresholds := { default := 1, ambiguity := 1, custom := .ofList [("stop", 0.5)] }, excluded := [] }
    let fallback : RankedIntent := { name := "nlu_fallback", confidence := some 0.3 }
    let greet : RankedIntent := { name := "greet", confidence := some 1 }
    let stop : RankedIntent := { name := "stop" }
    let bye : RankedIntent := { name := "bye", confidence := some 0 }
    ThresholdCheck.of config "greet" 1 [greet, stop, bye] = .ambiguous 0 0.1 ∧
      ThresholdCheck.of config "greet" 1 [fallback, greet, { stop with confidence := some 1 }] = .ambiguous 0 0.1 ∧
      (∀ delta threshold, ThresholdCheck.of config "greet" 1 [fallback, greet] ≠ .ambiguous delta threshold) ∧
      ThresholdCheck.of strict "stop" 0.6 [greet, stop] = ThresholdCheck.of config "stop" 0.6 [] ∧
      confidenceDelta ((rewritten [{ config }, { config }] { ranking := some [greet, stop] }).ranking.getD [])
        config.excluded = confidenceDelta [greet, stop] config.excluded := by
  intro config strict fallback greet stop bye
  have close : ThresholdCheck.of config "greet" 1 [greet, stop, bye] = .ambiguous 0 0.1 := by
    unfold config greet stop bye
    rfl
  have inserted : Edit config.excluded [greet, stop, bye] [fallback, greet, stop, bye] :=
    .insert [] [greet, stop, bye] fallback (by decide)
  have cut : Edit config.excluded [fallback, greet, stop, bye] [fallback, greet, stop] :=
    .behind [fallback, greet, stop] [bye] [] (by decide)
  have assumed : Edit config.excluded [fallback, greet, stop] [fallback, greet, { stop with confidence := some 1 }] :=
    .assume [fallback, greet] [] stop rfl
  obtain ⟨same, -, -, -, stays⟩ := contenders_decide config "greet" 1 [greet, stop, bye]
  obtain ⟨-, -, few, -, -⟩ := contenders_decide config "greet" 1 [fallback, greet]
  obtain ⟨-, -, -, alone, -⟩ := contenders_decide config "stop" 0.6 []
  have edited := same _ (.head inserted (.head cut (.single assumed)))
  exact ⟨close, edited.trans close, few (by decide), alone 0.5 (by decide) strict [greet, stop] (by decide),
    stays (by decide) [{ config }, { config }] { ranking := some [greet, stop] }⟩

end IntentGate
