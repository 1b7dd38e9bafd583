import IntentGate.ThresholdCheck

set_option autoImplicit false

namespace IntentGate

-- `first` and `second` are the foremost entries of the ranking whose names are
-- not excluded: everything before and between them is.
def Leads (excluded : List String) (ranking : List RankedIntent) (first second : RankedIntent) : Prop :=
  ∃ before between after, ranking = before ++ first :: between ++ second :: after ∧
    (∀ r ∈ before, r.name ∈ excluded) ∧ first.name ∉ excluded ∧
    (∀ r ∈ between, r.name ∈ excluded) ∧ second.name ∉ excluded

theorem filter_of_excluded (excluded : List String) (ranking : List RankedIntent)
    (all : ∀ r ∈ ranking, r.name ∈ excluded) : (ranking.filter fun r => r.name ∉ excluded) = [] := by
  rw [List.filter_eq_nil_iff]
  intro r member
  simpa using all r member

theorem leads_iff_filter (excluded : List String) (ranking : List RankedIntent) (first second : RankedIntent) :
    Leads excluded ranking first second ↔
      ∃ rest, (ranking.filter fun r => r.name ∉ excluded) = first :: second :: rest := by
  constructor
  · rintro ⟨before, between, after, rfl, beforeOut, firstIn, betweenOut, secondIn⟩
    refine ⟨after.filter fun r => r.name ∉ excluded, ?_⟩
    simp only [List.filter_append, List.filter_cons, filter_of_excluded excluded before beforeOut,
      filter_of_excluded excluded between betweenOut, firstIn, secondIn, not_false_eq_true, decide_true,
      if_true, List.nil_append, List.cons_append]
  · rintro ⟨rest, kept⟩
    obtain ⟨before, tail, rfl, beforeOut, firstIn, kept⟩ := List.filter_eq_cons_iff.mp kept
    obtain ⟨between, after, rfl, betweenOut, secondIn, -⟩ := List.filter_eq_cons_iff.mp kept
    refine ⟨before, between, after, by simp, ?_, by simpa using firstIn, ?_, by simpa using secondIn⟩
    · intro r member
      simpa using beforeOut r member
    · intro r member
      simpa using betweenOut r member

def Foremost (excluded : List String) (ranking : List RankedIntent) (r : RankedIntent) : Prop :=
  ∃ before after, ranking = before ++ r :: after ∧ (∀ e ∈ before, e.name ∈ excluded) ∧ r.name ∉ excluded

theorem foremost_iff_filter (excluded : List String) (ranking : List RankedIntent) (r : RankedIntent) :
    Foremost excluded ranking r ↔ ∃ rest, (ranking.filter fun e => e.name ∉ excluded) = r :: rest := by
  constructor
  · intro foremost
    obtain ⟨before, after, rfl, beforeOut, allowed⟩ := foremost
    refine ⟨after.filter fun e => e.name ∉ excluded, ?_⟩
    simp only [List.filter_append, List.filter_cons, filter_of_excluded excluded before beforeOut, allowed,
      not_false_eq_true, decide_true, if_true, List.nil_append]
  · intro kept
    obtain ⟨rest, kept⟩ := kept
    obtain ⟨before, after, same, beforeOut, allowed, -⟩ := List.filter_eq_cons_iff.mp kept
    exact ⟨before, after, same, fun e member => by simpa using beforeOut e member, by simpa using allowed⟩

theorem foremost_unique (excluded : List String) (ranking : List RankedIntent) (r other : RankedIntent)
    (foremost : Foremost excluded ranking r) (others : Foremost excluded ranking other) : r = other := by
  obtain ⟨rest, kept⟩ := (foremost_iff_filter excluded ranking r).mp foremost
  obtain ⟨otherRest, otherKept⟩ := (foremost_iff_filter excluded ranking other).mp others
  exact (List.cons.inj (kept.symm.trans otherKept)).1

theorem excluded_or_foremost (excluded : List String) (ranking : List RankedIntent) :
    (∀ r ∈ ranking, r.name ∈ excluded) ∨ ∃ r, Foremost excluded ranking r := by
  cases kept : ranking.filter fun e => e.name ∉ excluded with
  | nil =>
      left
      intro r member
      simpa using List.filter_eq_nil_iff.mp kept r member
  | cons r rest => exact .inr ⟨r, (foremost_iff_filter excluded ranking r).mpr ⟨rest, kept⟩⟩

theorem leads_cons_iff (excluded : List String) (ranking : List RankedIntent) (front first second : RankedIntent)
    (allowed : front.name ∉ excluded) :
    Leads excluded (front :: ranking) first second ↔ first = front ∧ Foremost excluded ranking second := by
  constructor
  · intro leads
    obtain ⟨before, between, after, same, beforeOut, -, betweenOut, secondIn⟩ := leads
    cases before with
    | nil =>
        cases same
        exact ⟨rfl, between, after, rfl, betweenOut, secondIn⟩
    | cons e rest =>
        cases same
        exact absurd (beforeOut front List.mem_cons_self) allowed
  · intro leads
    obtain ⟨rfl, between, after, rfl, betweenOut, secondIn⟩ := leads
    exact ⟨[], between, after, rfl, by simp, allowed, betweenOut, secondIn⟩

theorem confidence_delta_of_leads (ranking : List RankedIntent) (excluded : List String)
    (first second : RankedIntent) (leads : Leads excluded ranking first second) :
    confidenceDelta ranking excluded = some (first.weight - second.weight) := by
  obtain ⟨rest, kept⟩ := (leads_iff_filter excluded ranking first second).mp leads
  simp only [confidenceDelta, kept, List.map_cons]

theorem confidence_delta_cases (ranking : List RankedIntent) (excluded : List String) :
    (confidenceDelta ranking excluded = none ∧ ∀ first second, ¬ Leads excluded ranking first second) ∨
      ∃ first second, Leads excluded ranking first second ∧
        confidenceDelta ranking excluded = some (first.weight - second.weight) := by
  cases found : confidenceDelta ranking excluded with
  | none =>
      refine .inl ⟨rfl, fun first second leads => ?_⟩
      simp [confidence_delta_of_leads ranking excluded first second leads] at found
  | some delta =>
      simp only [confidenceDelta] at found
      split at found
      · rename_i x y rest weights
        obtain ⟨first, tail, kept, -, left⟩ := List.map_eq_cons_iff.mp weights
        obtain ⟨second, rest, rfl, -, -⟩ := List.map_eq_cons_iff.mp left
        have leads := (leads_iff_filter excluded ranking first second).mpr ⟨rest, kept⟩
        refine .inr ⟨first, second, leads, ?_⟩
        rw [← found, ← confidence_delta_of_leads ranking excluded first second leads]
        simp only [confidenceDelta, weights]
      · cases found

-- A custom threshold decides alone. Without one the default counts, and the
-- leaders of the ranking must not lie too close together.
def Confident (config : RejectionConfig) (ranking : List RankedIntent) (intent : String)
    (confidence : Float) : Prop :=
  match config.thresholds.custom.get? intent with
  | some threshold => ¬ confidence < threshold
  | none => ¬ confidence < config.thresholds.default ∧
      ∀ first second, Leads config.excluded ranking first second →
        ¬ first.weight - second.weight < config.thresholds.ambiguity

theorem threshold_passed_iff (config : RejectionConfig) (intent : String) (confidence : Float)
    (ranking : List RankedIntent) :
    ThresholdCheck.of config intent confidence ranking = .passed ↔
      Confident config ranking intent confidence := by
  unfold ThresholdCheck.of RejectionConfig.thresholdFor Confident
  cases config.thresholds.custom.get? intent with
  | some threshold => by_cases below : confidence < threshold <;> simp [below]
  | none =>
      by_cases below : confidence < config.thresholds.default
      · simp [below]
      · simp only [below, if_false, not_false_eq_true, true_and]
        rcases confidence_delta_cases ranking config.excluded with ⟨none, few⟩ | ⟨first, second, leads, some⟩
        · simp [none, few]
        · rw [some]
          constructor
          · intro passed other next otherLeads near
            have same := confidence_delta_of_leads ranking config.excluded other next otherLeads
            rw [← Option.some.inj (some.symm.trans same)] at near
            simp [near] at passed
          · intro apart
            simp [apart first second leads]

end IntentGate
