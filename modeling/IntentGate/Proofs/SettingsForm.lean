import IntentGate.Gate.Builder
import IntentGate.Proofs.OptionMerging
import IntentGate.Proofs.ValidSettings
import IntentGate.Proofs.VerdictForm

set_option autoImplicit false

namespace IntentGate

open Json Shape

def Thresholds.required (t : Thresholds) : List Float := [t.default, t.ambiguity] ++ t.custom.rows.map (·.2)

def Thresholds.floats (t : Thresholds) : List Float := t.required ++ t.unexpectedSlot.toList

def Thresholds.kept (t : Thresholds) : Thresholds := { t with unexpectedSlot := t.unexpectedSlot.filter Float.isFinite }

def RejectionConfig.kept (config : RejectionConfig) : RejectionConfig := { config with thresholds := config.thresholds.kept }

theorem all_finite_pair (x y : Float) : AllFinite [x, y] ↔ AllFinite [x] ∧ AllFinite [y] := all_finite_append [x] [y]

theorem object_sorted_proper (fields : Fields) (each : ∀ f ∈ fields, f.2.sorted.Proper) :
    (Value.object fields).sorted.Proper := by
  rw [Value.sorted]
  refine .object _ (Keyed.ascending_of_list _) fun f member => ?_
  have listed := Keyed.mem_of_list _ f member
  rw [sorted_fields_eq] at listed
  obtain ⟨source, among, rfl⟩ := List.mem_map.mp listed
  exact each source among

theorem sorted_record (fields : Fields) (distinct : (fields.map (·.1)).Nodup)
    (proper : (Value.object fields).sorted.Proper) :
    ∃ record : Record, (Value.object fields).sorted = .object record.rows ∧
      ∀ key, Keyed.get? record.rows key = (Keyed.get? fields key).map Value.sorted := by
  obtain ⟨entries, sorted, -, got⟩ := sorted_object fields distinct
  rw [sorted] at proper
  exact ⟨.ofProper entries proper, sorted, got⟩

theorem parts_sorted_proper (parts : List (String × Option Value))
    (each : ∀ p ∈ parts, ∀ v, p.2 = some v → v.sorted.Proper) : (Value.object (present parts)).sorted.Proper := by
  refine object_sorted_proper _ fun f member => ?_
  obtain ⟨p, listed, found⟩ := List.mem_filterMap.mp member
  obtain ⟨v, there, rfl⟩ := Option.map_eq_some_iff.mp found
  exact each p listed v there

theorem float_sorted_proper (x : Float) : (Value.ofFloat x).sorted.Proper := by
  unfold Value.ofFloat
  split
  · rename_i finite
    exact .float x finite
  · exact .null

theorem slot_obtained_iff (slot x : Option Float) :
    Obtained (optionOf Source.float) none ((slot.map Value.ofFloat).map Value.sorted) x ↔
      x = slot.filter Float.isFinite := by
  cases slot with
  | none =>
      constructor
      · rintro ⟨⟩
        rfl
      · rintro rfl
        exact .absent
  | some y =>
      rw [Option.map_some, Option.map_some, obtained_some_iff, Value.ofFloat, Option.filter_some]
      split
      · have read : optionOf Source.float (Value.number (.float y)).sorted = .ok (some y) := rfl
        rw [read, Except.ok.injEq]
        exact eq_comm
      · have read : optionOf Source.float Value.null.sorted = .ok none := rfl
        rw [read, Except.ok.injEq]
        exact eq_comm

section Thresholds

variable (t : Thresholds)

def thresholdParts : List (String × Option Value) :=
  [("default", some (.ofFloat t.default)), ("ambiguity_threshold", some (.ofFloat t.ambiguity)),
   ("custom", some (.object (t.custom.rows.map fun e => (e.1, .ofFloat e.2)))),
   ("unexpected_upon_requested_slot", t.unexpectedSlot.map .ofFloat)]

theorem thresholds_written : t.written = .object (present (thresholdParts t)) := by
  unfold Thresholds.written thresholdParts
  cases t.unexpectedSlot <;> rfl

theorem thresholds_proper : t.written.sorted.Proper := by
  rw [thresholds_written]
  apply parts_sorted_proper
  simp only [thresholdParts, List.forall_mem_cons, List.not_mem_nil, false_implies, implies_true, and_true,
    Option.some.injEq, forall_eq', Option.map_eq_some_iff]
  refine ⟨float_sorted_proper _, float_sorted_proper _, object_sorted_proper _ fun f member => ?_, ?_⟩
  · obtain ⟨entry, -, rfl⟩ := List.mem_map.mp member
    exact float_sorted_proper entry.2
  · rintro _ ⟨x, -, rfl⟩
    exact float_sorted_proper x

theorem thresholds_faithful : Faithful readThresholds t.written.sorted t.required t.kept := by
  intro found
  have distinct : ((thresholdParts t).map (·.1)).Nodup := by simp [thresholdParts]
  obtain ⟨record, sorted, got⟩ := sorted_record (present (thresholdParts t))
    (distinct.sublist (present_keys (thresholdParts t))) (thresholds_written t ▸ thresholds_proper t)
  have part (key : String) (given : Option Value) (listed : Keyed.get? (thresholdParts t) key = some given) :
      Keyed.get? record.rows key = given.map Value.sorted := by
    rw [got, get_present _ distinct, listed]
    rfl
  have older : Keyed.get? record.rows "ambiguity" = none := by
    rw [got, get_present _ distinct]
    rfl
  have current : ambiguityGiven? record.rows = some (Value.ofFloat t.ambiguity).sorted := by
    rw [ambiguityGiven?, older, Option.or_none, part "ambiguity_threshold" _ rfl]
    rfl
  have customs := map_faithful Source.float Value.ofFloat (fun x => [x]) t.custom fun e _ => float_faithful e.2
  rw [thresholds_written, sorted, read_thresholds_iff record, part "default" _ rfl, current, part "custom" _ rfl,
    part "unexpected_upon_requested_slot" _ rfl, slot_obtained_iff, Option.map_some, Option.map_some,
    and_iff_right (.inr older)]
  simp only [obtained_some_iff, float_faithful _ _, customs _]
  rw [Thresholds.required, all_finite_append, List.map_eq_flatMap, all_finite_pair]
  constructor
  · rintro ⟨⟨d, default⟩, ⟨a, ambiguity⟩, ⟨c, custom⟩, slot⟩
    refine ⟨⟨⟨d, a⟩, c⟩, ?_⟩
    rw [Thresholds.kept, ← default, ← ambiguity, ← custom, ← slot]
  · rintro ⟨⟨⟨d, a⟩, c⟩, rfl⟩
    exact ⟨⟨d, rfl⟩, ⟨a, rfl⟩, ⟨c, rfl⟩, rfl⟩

end Thresholds

section Settings

variable (config : RejectionConfig)

def settingParts : List (String × Value) :=
  [("enabled", .bool config.enabled), ("thresholds", config.thresholds.written),
   ("require_entities_enabled", .bool config.requireEntities), ("method", .text config.method),
   ("force_final_enabled", .bool config.forceFinal), ("excluded_intents", .ofTexts config.excluded)]

theorem settings_proper : config.written.sorted.Proper := by
  refine object_sorted_proper (settingParts config) ?_
  simp only [settingParts, List.forall_mem_cons, List.not_mem_nil, false_implies, implies_true, and_true]
  refine ⟨.bool _, thresholds_proper _, .bool _, .text _, .bool _, ?_⟩
  rw [Value.ofTexts, Value.sorted, sorted_items_eq]
  refine .list _ fun v member => ?_
  simp only [List.map_map, List.mem_map] at member
  obtain ⟨s, -, rfl⟩ := member
  exact .text s

theorem texts_faithful (l : List String) : Faithful (listOf textOf) (Value.ofTexts l).sorted [] l :=
  floatless_list_faithful textOf Value.text l fun s _ => text_faithful s

theorem settings_faithful :
    Faithful readRejectionConfig config.written.sorted config.thresholds.required config.kept := by
  intro found
  have distinct : ((settingParts config).map (·.1)).Nodup := by simp [settingParts]
  obtain ⟨record, sorted, got⟩ := sorted_record (settingParts config) distinct (settings_proper config)
  have part (key : String) (v : Value) (listed : Keyed.get? (settingParts config) key = some v) :
      Keyed.get? record.rows key = some v.sorted := by
    rw [got, listed]
    rfl
  have written : config.written = .object (settingParts config) := rfl
  rw [written, sorted, read_options_iff record, part "enabled" _ rfl, part "thresholds" _ rfl,
    part "require_entities_enabled" _ rfl, part "method" _ rfl, part "force_final_enabled" _ rfl,
    part "excluded_intents" _ rfl]
  simp only [obtained_some_iff, flag_faithful _ _, thresholds_faithful _ _, text_faithful _ _,
    texts_faithful _ _, and_iff_right all_finite_nil]
  constructor
  · rintro ⟨enabled, ⟨finite, thresholds⟩, require, method, force, excluded⟩
    refine ⟨finite, ?_⟩
    rw [RejectionConfig.kept, ← enabled, ← thresholds, ← require, ← method, ← force, ← excluded]
  · rintro ⟨finite, rfl⟩
    exact ⟨rfl, ⟨finite, rfl⟩, rfl, rfl, rfl, rfl⟩

theorem settings_kept_iff : config.kept = config ↔ AllFinite config.thresholds.unexpectedSlot.toList := by
  have slot : config.kept = config ↔
      config.thresholds.unexpectedSlot.filter Float.isFinite = config.thresholds.unexpectedSlot := by
    constructor
    · exact congrArg fun c : RejectionConfig => c.thresholds.unexpectedSlot
    · intro same
      rw [RejectionConfig.kept, Thresholds.kept, same]
  rw [slot]
  cases config.thresholds.unexpectedSlot with
  | none => simp [AllFinite]
  | some x => simp [AllFinite]

theorem settings_restored_iff :
    RejectionConfig.ofOptions config.written.sorted = .ok config ↔ AllFinite config.thresholds.floats := by
  rw [of_options_ok_iff, settings_faithful config, Thresholds.floats, all_finite_append, ← settings_kept_iff,
    eq_comm]

theorem valid_finite (valid : config.validate = .ok ()) : AllFinite config.thresholds.floats := by
  have safe := (RejectionConfig.validate_ok_iff config).mp valid
  simp only [Thresholds.floats, Thresholds.required, all_finite_append, all_finite_pair]
  refine ⟨⟨⟨?_, ?_⟩, ?_⟩, ?_⟩
  · exact List.forall_mem_singleton.mpr (safe .default).finite
  · exact List.forall_mem_singleton.mpr (safe .ambiguity).finite
  · intro x member
    obtain ⟨entry, listed, rfl⟩ := List.mem_map.mp member
    exact (safe .custom entry listed).within.finite
  · intro x member
    exact (safe .unexpectedSlot x (Option.mem_toList.mp member)).finite

theorem settings_restored (valid : config.validate = .ok ()) :
    RejectionConfig.ofOptions config.written.sorted = .ok config :=
  (settings_restored_iff config).mpr (valid_finite config valid)

end Settings

theorem written_forms_restore :
    (∀ config : RejectionConfig,
      (RejectionConfig.ofOptions config.written.sorted = .ok config ↔ AllFinite config.thresholds.floats) ∧
      (config.validate = .ok () → RejectionConfig.ofOptions config.written.sorted = .ok config ∧
        ∀ restored, RejectionConfig.ofOptions config.written.sorted = .ok restored → ∀ supplies gate,
          (Gate.Builder.supplyAll { config } supplies).build = .ok gate →
            ∃ other, (Gate.Builder.supplyAll { config := restored } supplies).build = .ok other ∧
              ∀ messages domain, other.processWithVerdicts messages domain = gate.processWithVerdicts messages domain)) ∧
    (∀ verdict : Verdict, Faithful readVerdict verdict.written.sorted verdict.floats verdict) ∧
    (∀ reason : RejectReason, Faithful readRejectReason reason.written.sorted reason.floats reason) ∧
    (∀ check : ThresholdCheck, Faithful readThresholdCheck check.written.sorted check.floats check) ∧
    ∀ check : EntityCheck, Faithful readEntityCheck check.written.sorted [] check := by
  refine ⟨fun config => ⟨settings_restored_iff config, fun valid => ?_⟩, verdict_faithful,
    reject_reason_faithful, threshold_check_faithful, entity_check_faithful⟩
  have back := settings_restored config valid
  refine ⟨back, fun restored read supplies gate built => ?_⟩
  cases back.symm.trans read
  exact ⟨gate, built, fun _ _ => rfl⟩

theorem written_forms_restore_mixed :
    let config : RejectionConfig :=
      { thresholds := { custom := .ofList [("book", 0.25), ("greet", 1)] }, excluded := [], forceFinal := false }
    let endless : RejectionConfig := { thresholds := { unexpectedSlot := some (0 / 0) } }
    let verdict : Verdict :=
      .reject (.entityMismatch [{ entity := "city" }, { entity := "city", role := some "to", group := some "" }] [])
    let undecided : Verdict := .reject (.ambiguous (0 / 0) 0.5)
    config.validate = .ok () ∧ RejectionConfig.ofOptions config.written.sorted = .ok config ∧
      RejectionConfig.ofOptions endless.written.sorted ≠ .ok endless ∧
      readVerdict verdict.written.sorted = .ok verdict ∧ ∀ v, readVerdict undecided.written.sorted ≠ .ok v := by
  intro config endless verdict undecided
  have infinite : (0 / 0 : Float).isFinite = false := by decide
  have valid : config.validate = .ok () := by
    unfold config
    rfl
  obtain ⟨settings, verdicts, -⟩ := written_forms_restore
  obtain ⟨-, back⟩ := settings config
  obtain ⟨exact, -⟩ := settings endless
  refine ⟨valid, (back valid).1, fun restored => ?_, (verdicts verdict verdict).mpr ⟨all_finite_nil, rfl⟩, fun v read => ?_⟩
  · have finite := exact.mp restored (0 / 0) (by simp [endless, Thresholds.floats])
    cases infinite.symm.trans finite
  · have finite := ((verdicts undecided v).mp read).1 (0 / 0) (by simp [undecided, Verdict.floats, RejectReason.floats])
    cases infinite.symm.trans finite

end IntentGate
