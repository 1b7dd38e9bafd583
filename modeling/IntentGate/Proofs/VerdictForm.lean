import IntentGate.Proofs.Fidelity
import IntentGate.Verdict.Wire

set_option autoImplicit false

namespace IntentGate

open Json Shape

def ThresholdCheck.floats : ThresholdCheck → List Float
  | .passed => []
  | .belowCustom confidence threshold => [confidence, threshold]
  | .belowDefault confidence threshold => [confidence, threshold]
  | .ambiguous delta threshold => [delta, threshold]

def RejectReason.floats : RejectReason → List Float
  | .excludedIntent _ => []
  | .belowCustomThreshold confidence threshold => [confidence, threshold]
  | .belowDefaultThreshold confidence threshold => [confidence, threshold]
  | .ambiguous delta threshold => [delta, threshold]
  | .entityMismatch _ _ => []

def Verdict.floats : Verdict → List Float
  | .accept _ => []
  | .reject reason => reason.floats

def requirementFields : List (Field Value Requirement) :=
  [field .required "entity" textOf fun x r => { r with entity := x },
   field .optional "role" (optionOf textOf) fun x r => { r with role := x },
   field .optional "group" (optionOf textOf) fun x r => { r with group := x }]

theorem requirement_faithful (r : Requirement) : Faithful readRequirement r.written.sorted [] r := by
  intro found
  have distinct : ([("entity", Value.text r.entity), ("role", Value.ofOption .text r.role),
      ("group", Value.ofOption .text r.group)].map (·.1)).Nodup := by simp
  obtain ⟨members, sorted, ascending, got⟩ := sorted_object _ distinct
  have entity : Keyed.get? members "entity" = some (Value.text r.entity).sorted := got "entity"
  have role : Keyed.get? members "role" = some (Value.ofOption .text r.role).sorted := got "role"
  have group : Keyed.get? members "group" = some (Value.ofOption .text r.group).sorted := got "group"
  have independent : requirementFields.Pairwise Independent := by
    simp only [requirementFields, List.pairwise_cons, List.forall_mem_cons, List.not_mem_nil, false_implies, implies_true,
      and_true, List.Pairwise.nil]
    refine ⟨⟨?_, ?_⟩, ?_⟩ <;> exact fields_independent _ _ _ _ _ _ _ _ (by decide) fun _ _ _ => rfl
  have unrepeated : Unrepeated requirementFields members := by
    simp only [Unrepeated, requirementFields, List.forall_mem_cons, List.not_mem_nil, false_implies, implies_true,
      and_true, field_unrepeated _ _ _ _ members ascending]
  have complete : Complete requirementFields members := by
    simp only [Complete, requirementFields, List.forall_mem_cons, List.not_mem_nil, false_implies, implies_true, and_true,
      field_given, entity]
    simp [field]
  rw [Requirement.written, sorted]
  refine (read_plain_iff "EntityRequirement" requirementFields { entity := "" } members independent found).trans ?_
  rw [and_iff_right unrepeated, and_iff_right complete]
  refine (fill_faithful "" rfl entity (text_faithful r.entity)).trans (and_congr_right fun _ => ?_)
  refine (fill_faithful none rfl role (label_faithful r.role)).trans ((and_iff_right all_finite_nil).trans ?_)
  refine (fill_faithful none rfl group (label_faithful r.group)).trans ((and_iff_right all_finite_nil).trans ?_)
  exact Option.some_inj.trans eq_comm

theorem requirements_faithful (l : List Requirement) :
    Faithful (listOf readRequirement) (Value.list (l.map Requirement.written)).sorted [] l :=
  floatless_list_faithful readRequirement Requirement.written l fun r _ => requirement_faithful r

section Variants

variable {α : Type} (type name : String)

theorem two_floats_faithful (first second : String) (different : first ≠ second) (make : Float → Float → α) (x y : Float) :
    Faithful (fun v => (twoFloatVariant type name first second make).read (some v)) (twoFloats first second x y).sorted
      [x, y] (make x y) :=
  record_variant_faithful type name (twoFloatFields first second) _ _ _ _ _ <|
    pair_faithful first second different Source.float Source.float _ _ _ _ x y (float_faithful x) (float_faithful y) (0, 0)

theorem mismatch_faithful (make : List Requirement → List Requirement → α) (missing extra : List Requirement) :
    Faithful (fun v => (mismatchVariant type name make).read (some v)) (mismatch missing extra).sorted []
      (make missing extra) :=
  record_variant_faithful type name mismatchFields _ _ _ _ _ <|
    pair_faithful "missing" "extra" (by decide) (listOf readRequirement) (listOf readRequirement) _ _ _ _ missing extra
      (requirements_faithful missing) (requirements_faithful extra) ([], [])

end Variants

theorem threshold_check_faithful (check : ThresholdCheck) :
    Faithful readThresholdCheck check.written.sorted check.floats check := by
  cases check with
  | passed => exact bare_faithful _ "Passed" _ rfl
  | belowCustom c t => exact tagged_faithful _ "BelowCustom" _ _ _ _ rfl (two_floats_faithful _ _ _ _ (by decide) _ c t)
  | belowDefault c t => exact tagged_faithful _ "BelowDefault" _ _ _ _ rfl (two_floats_faithful _ _ _ _ (by decide) _ c t)
  | ambiguous d t => exact tagged_faithful _ "Ambiguous" _ _ _ _ rfl (two_floats_faithful _ _ _ _ (by decide) _ d t)

theorem entity_check_faithful (check : EntityCheck) : Faithful readEntityCheck check.written.sorted [] check := by
  cases check with
  | unconstrained => exact bare_faithful _ "Unconstrained" _ rfl
  | satisfied => exact bare_faithful _ "Satisfied" _ rfl
  | unsatisfied missing extra =>
      exact tagged_faithful _ "Unsatisfied" _ _ _ _ rfl (mismatch_faithful _ _ _ missing extra)

theorem accept_reason_faithful (reason : AcceptReason) : Faithful readAcceptReason reason.written.sorted [] reason := by
  cases reason with
  | disabled => exact bare_faithful _ "Disabled" _ rfl
  | forcedFinal => exact bare_faithful _ "ForcedFinal" _ rfl
  | fullUtterance => exact bare_faithful _ "FullUtterance" _ rfl

theorem excluded_intent_faithful (intent : String) :
    Faithful (readPlain "" [field .required "intent" textOf fun x _ => x] "") (Value.object [("intent", .text intent)]).sorted
      [] intent :=
  floatless_faithful _ _ intent rfl

theorem reject_reason_faithful (reason : RejectReason) :
    Faithful readRejectReason reason.written.sorted reason.floats reason := by
  cases reason with
  | excludedIntent intent =>
      exact tagged_faithful _ "ExcludedIntent" _ _ _ _ rfl
        (record_variant_faithful _ _ _ _ _ _ _ _ (excluded_intent_faithful intent))
  | belowCustomThreshold c t =>
      exact tagged_faithful _ "BelowCustomThreshold" _ _ _ _ rfl (two_floats_faithful _ _ _ _ (by decide) _ c t)
  | belowDefaultThreshold c t =>
      exact tagged_faithful _ "BelowDefaultThreshold" _ _ _ _ rfl (two_floats_faithful _ _ _ _ (by decide) _ c t)
  | ambiguous d t => exact tagged_faithful _ "Ambiguous" _ _ _ _ rfl (two_floats_faithful _ _ _ _ (by decide) _ d t)
  | entityMismatch missing extra =>
      exact tagged_faithful _ "EntityMismatch" _ _ _ _ rfl (mismatch_faithful _ _ _ missing extra)

theorem verdict_faithful (verdict : Verdict) : Faithful readVerdict verdict.written.sorted verdict.floats verdict := by
  cases verdict with
  | accept reason =>
      exact tagged_faithful _ "Accept" _ _ _ _ rfl (make_faithful _ Verdict.accept _ _ _ (accept_reason_faithful reason))
  | reject reason =>
      exact tagged_faithful _ "Reject" _ _ _ _ rfl (make_faithful _ Verdict.reject _ _ _ (reject_reason_faithful reason))

end IntentGate
