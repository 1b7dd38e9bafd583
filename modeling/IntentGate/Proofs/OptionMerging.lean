import IntentGate.Gate.Error
import IntentGate.Proofs.DefaultedRecord
import IntentGate.Proofs.ShapeFault

set_option autoImplicit false

namespace IntentGate

open Json Shape

def GivesFlag (v : Value) (b : Bool) : Prop := v = .bool b

def GivesText (v : Value) (s : String) : Prop := v = .text s

def GivesTexts (v : Value) (l : List String) : Prop := v = .list (l.map .text)

def GivesNumber (v : Value) (x : Float) : Prop := ∃ n : Number, v = .number n ∧ x = Number.toFloat n

def GivesNumbers (v : Value) (map : Table Float) : Prop :=
  ∃ numbers : Keyed Number,
    v = .object (numbers.map fun e => (e.1, .number e.2)) ∧ map.rows = numbers.map fun e => (e.1, Number.toFloat e.2)

def GivesSlot (v : Value) (x : Option Float) : Prop := (v = .null ∧ x = none) ∨ ∃ y, GivesNumber v y ∧ x = some y

-- The threshold has an older key as well. Both at once are one too many.
def ambiguityGiven? (fields : Fields) : Option Value :=
  (Keyed.get? fields "ambiguity_threshold").or (Keyed.get? fields "ambiguity")

structure ThresholdsShaped (fields : Fields) : Prop where
  default : Fits GivesNumber (Keyed.get? fields "default")
  ambiguity : Fits GivesNumber (ambiguityGiven? fields)
  single : Keyed.get? fields "ambiguity_threshold" = none ∨ Keyed.get? fields "ambiguity" = none
  custom : Fits GivesNumbers (Keyed.get? fields "custom")
  unexpectedSlot : Fits GivesSlot (Keyed.get? fields "unexpected_upon_requested_slot")

structure ThresholdsMerged (fields : Fields) (t : Thresholds) : Prop where
  default : Merged GivesNumber ({} : Thresholds).default (Keyed.get? fields "default") t.default
  ambiguity : Merged GivesNumber ({} : Thresholds).ambiguity (ambiguityGiven? fields) t.ambiguity
  custom : Merged GivesNumbers ({} : Thresholds).custom (Keyed.get? fields "custom") t.custom
  unexpectedSlot : Merged GivesSlot ({} : Thresholds).unexpectedSlot
    (Keyed.get? fields "unexpected_upon_requested_slot") t.unexpectedSlot

structure OptionsShaped (options : Fields) : Prop where
  enabled : Fits GivesFlag (Keyed.get? options "enabled")
  thresholds : ∀ v, Keyed.get? options "thresholds" = some v → ∃ fields, v = .object fields ∧ ThresholdsShaped fields
  requireEntities : Fits GivesFlag (Keyed.get? options "require_entities_enabled")
  method : Fits GivesText (Keyed.get? options "method")
  forceFinal : Fits GivesFlag (Keyed.get? options "force_final_enabled")
  excluded : Fits GivesTexts (Keyed.get? options "excluded_intents")

structure OptionsMerged (options : Fields) (config : RejectionConfig) : Prop where
  enabled : Merged GivesFlag ({} : RejectionConfig).enabled (Keyed.get? options "enabled") config.enabled
  thresholds : Merged (fun v t => ∃ fields, v = .object fields ∧ ThresholdsMerged fields t)
    ({} : RejectionConfig).thresholds (Keyed.get? options "thresholds") config.thresholds
  requireEntities : Merged GivesFlag ({} : RejectionConfig).requireEntities
    (Keyed.get? options "require_entities_enabled") config.requireEntities
  method : Merged GivesText ({} : RejectionConfig).method (Keyed.get? options "method") config.method
  forceFinal : Merged GivesFlag ({} : RejectionConfig).forceFinal (Keyed.get? options "force_final_enabled")
    config.forceFinal
  excluded : Merged GivesTexts ({} : RejectionConfig).excluded (Keyed.get? options "excluded_intents") config.excluded

theorem thresholds_unnamed : Thresholds.unnamed = {} := rfl

theorem options_unnamed : RejectionConfig.unnamed = {} := rfl

theorem read_flag_iff (v : Value) (b : Bool) : Source.bool v = .ok b ↔ GivesFlag v b := by
  constructor
  · intro read
    cases v with
    | bool b =>
        cases read
        exact rfl
    | _ => cases read
  · intro given
    cases given
    rfl

theorem read_text_iff (v : Value) (s : String) : textOf v = .ok s ↔ GivesText v s := by
  constructor
  · intro read
    cases v with
    | text s =>
        cases read
        exact rfl
    | _ => cases read
  · intro given
    cases given
    rfl

theorem read_number_iff (v : Value) (x : Float) : Source.float v = .ok x ↔ GivesNumber v x := by
  constructor
  · intro read
    cases v with
    | number n =>
        cases read
        exact ⟨n, rfl, rfl⟩
    | _ => cases read
  · rintro ⟨n, rfl, rfl⟩
    rfl

theorem read_texts_iff (v : Value) (l : List String) : listOf textOf v = .ok l ↔ GivesTexts v l := by
  have reads (v : Value) (s : String) : textOf v = .ok s ↔ ∃ c, v = .text c ∧ s = id c := by
    simp [read_text_iff, GivesText]
  simp [list_written_iff textOf .text id reads, GivesTexts]

theorem read_numbers_iff (v : Value) (proper : v.Proper) (map : Table Float) :
    mapOf Source.float v = .ok map ↔ GivesNumbers v map :=
  map_written_iff Source.float .number Number.toFloat read_number_iff v proper map

theorem read_slot_iff (v : Value) (x : Option Float) : optionOf Source.float v = .ok x ↔ GivesSlot v x := by
  constructor
  · intro read
    rcases option_of_ok Source.float v x read with ⟨rfl, rfl⟩ | ⟨-, y, found, rfl⟩
    · exact .inl ⟨rfl, rfl⟩
    · exact .inr ⟨y, (read_number_iff v y).mp found, rfl⟩
  · rintro (⟨rfl, rfl⟩ | ⟨y, ⟨n, rfl, rfl⟩, rfl⟩)
    · rfl
    · rfl

theorem thresholds_independent : (thresholdFields (δ := Value)).Pairwise Independent := by
  simp only [thresholdFields, List.pairwise_cons, List.forall_mem_cons, List.not_mem_nil, false_implies, implies_true,
    and_true, List.Pairwise.nil]
  refine ⟨⟨?_, ?_, ?_⟩, ⟨?_, ?_⟩, ?_⟩
  · exact independent_symm _ _ (either_independent _ _ _ _ _ _ _ _ _ (by decide) (by decide) fun _ _ _ => rfl)
  · exact fields_independent _ _ _ _ _ _ _ _ (by decide) fun _ _ _ => rfl
  · exact fields_independent _ _ _ _ _ _ _ _ (by decide) fun _ _ _ => rfl
  · exact either_independent _ _ _ _ _ _ _ _ _ (by decide) (by decide) fun _ _ _ => rfl
  · exact either_independent _ _ _ _ _ _ _ _ _ (by decide) (by decide) fun _ _ _ => rfl
  · exact fields_independent _ _ _ _ _ _ _ _ (by decide) fun _ _ _ => rfl

theorem options_independent : (rejectionFields (δ := Value)).Pairwise Independent := by
  simp only [rejectionFields, List.pairwise_cons, List.forall_mem_cons, List.not_mem_nil, false_implies, implies_true,
    and_true, List.Pairwise.nil]
  refine ⟨⟨?_, ?_, ?_, ?_, ?_⟩, ⟨?_, ?_, ?_, ?_⟩, ⟨?_, ?_, ?_⟩, ⟨?_, ?_⟩, ?_⟩ <;>
    exact fields_independent _ _ _ _ _ _ _ _ (by decide) fun _ _ _ => rfl

section Thresholds

variable (fields : Record)

theorem read_thresholds_iff (t : Thresholds) :
    readThresholds (Value.object fields.rows) = .ok t ↔
      (Keyed.get? fields.rows "ambiguity_threshold" = none ∨ Keyed.get? fields.rows "ambiguity" = none) ∧
      Obtained Source.float ({} : Thresholds).default (Keyed.get? fields.rows "default") t.default ∧
      Obtained Source.float ({} : Thresholds).ambiguity (ambiguityGiven? fields.rows) t.ambiguity ∧
      Obtained (mapOf Source.float) ({} : Thresholds).custom (Keyed.get? fields.rows "custom") t.custom ∧
      Obtained (optionOf Source.float) ({} : Thresholds).unexpectedSlot
        (Keyed.get? fields.rows "unexpected_upon_requested_slot") t.unexpectedSlot := by
  have unrepeated : Unrepeated (thresholdFields (δ := Value)) fields.rows ↔
      Keyed.get? fields.rows "ambiguity_threshold" = none ∨ Keyed.get? fields.rows "ambiguity" = none := by
    simp only [Unrepeated, thresholdFields, List.forall_mem_cons, List.not_mem_nil, false_implies, implies_true, and_true,
      field_unrepeated _ _ _ _ fields.rows fields.ascending, true_and]
    exact either_unrepeated_iff _ _ _ _ _ fields.rows fields.ascending (by decide)
  have complete : Complete (thresholdFields (δ := Value)) fields.rows := by
    simp [Complete, thresholdFields, field, Field.orKey]
  rw [readThresholds, thresholds_unnamed, read_plain_iff "Thresholds" thresholdFields {} fields.rows thresholds_independent,
    unrepeated]
  refine and_congr_right fun single => (and_iff_right complete).trans ?_
  constructor
  · intro filled
    obtain ⟨default, d, filled⟩ := (fill_named_iff _ _ _ _ _ _ ({} : Thresholds).default _ _ rfl).mp filled
    obtain ⟨ambiguity, a, filled⟩ :=
      (fill_either_iff _ _ _ _ _ _ _ single ({} : Thresholds).ambiguity _ _ rfl).mp filled
    obtain ⟨custom, c, filled⟩ := (fill_named_iff _ _ _ _ _ _ ({} : Thresholds).custom _ _ rfl).mp filled
    obtain ⟨slot, s, filled⟩ := (fill_named_iff _ _ _ _ _ _ ({} : Thresholds).unexpectedSlot _ _ rfl).mp filled
    cases filled
    exact ⟨d, a, c, s⟩
  · rintro ⟨d, a, c, s⟩
    apply (fill_named_iff _ _ _ _ _ _ ({} : Thresholds).default _ _ rfl).mpr
    refine ⟨t.default, d, ?_⟩
    apply (fill_either_iff _ _ _ _ _ _ _ single ({} : Thresholds).ambiguity _ _ rfl).mpr
    refine ⟨t.ambiguity, a, ?_⟩
    apply (fill_named_iff _ _ _ _ _ _ ({} : Thresholds).custom _ _ rfl).mpr
    refine ⟨t.custom, c, ?_⟩
    apply (fill_named_iff _ _ _ _ _ _ ({} : Thresholds).unexpectedSlot _ _ rfl).mpr
    exact ⟨t.unexpectedSlot, s, rfl⟩

theorem thresholds_pass_iff : (∃ t, readThresholds (Value.object fields.rows) = .ok t) ↔ ThresholdsShaped fields.rows := by
  have numbers (v : Value) (found : Keyed.get? fields.rows "custom" = some v) :=
    read_numbers_iff v (fields.get_proper "custom" v found)
  simp only [read_thresholds_iff fields]
  constructor
  · rintro ⟨t, single, d, a, c, s⟩
    exact {
      default := (obtained_iff_fits _ fun v _ => read_number_iff v).mp ⟨_, d⟩
      ambiguity := (obtained_iff_fits _ fun v _ => read_number_iff v).mp ⟨_, a⟩
      single
      custom := (obtained_iff_fits _ numbers).mp ⟨_, c⟩
      unexpectedSlot := (obtained_iff_fits _ fun v _ => read_slot_iff v).mp ⟨_, s⟩ }
  · rintro ⟨d, a, single, c, s⟩
    obtain ⟨default, d⟩ := (obtained_iff_fits ({} : Thresholds).default fun v _ => read_number_iff v).mpr d
    obtain ⟨ambiguity, a⟩ := (obtained_iff_fits ({} : Thresholds).ambiguity fun v _ => read_number_iff v).mpr a
    obtain ⟨custom, c⟩ := (obtained_iff_fits ({} : Thresholds).custom numbers).mpr c
    obtain ⟨slot, s⟩ := (obtained_iff_fits ({} : Thresholds).unexpectedSlot fun v _ => read_slot_iff v).mpr s
    exact ⟨⟨default, ambiguity, custom, slot⟩, single, d, a, c, s⟩

theorem thresholds_merged (t : Thresholds) (read : readThresholds (Value.object fields.rows) = .ok t) :
    ThresholdsMerged fields.rows t := by
  obtain ⟨-, d, a, c, s⟩ := (read_thresholds_iff fields t).mp read
  exact {
    default := obtained_merged _ (fun v x _ => (read_number_iff v x).mp) _ d
    ambiguity := obtained_merged _ (fun v x _ => (read_number_iff v x).mp) _ a
    custom := obtained_merged _ (fun v map found =>
      (read_numbers_iff v (fields.get_proper "custom" v found) map).mp) _ c
    unexpectedSlot := obtained_merged _ (fun v x _ => (read_slot_iff v x).mp) _ s }

end Thresholds

section Options

variable (options : Record)

theorem read_options_iff (config : RejectionConfig) :
    readRejectionConfig (Value.object options.rows) = .ok config ↔
      Obtained Source.bool ({} : RejectionConfig).enabled (Keyed.get? options.rows "enabled") config.enabled ∧
      Obtained readThresholds ({} : RejectionConfig).thresholds (Keyed.get? options.rows "thresholds") config.thresholds ∧
      Obtained Source.bool ({} : RejectionConfig).requireEntities (Keyed.get? options.rows "require_entities_enabled")
        config.requireEntities ∧
      Obtained textOf ({} : RejectionConfig).method (Keyed.get? options.rows "method") config.method ∧
      Obtained Source.bool ({} : RejectionConfig).forceFinal (Keyed.get? options.rows "force_final_enabled")
        config.forceFinal ∧
      Obtained (listOf textOf) ({} : RejectionConfig).excluded (Keyed.get? options.rows "excluded_intents")
        config.excluded := by
  have unrepeated : Unrepeated (rejectionFields (δ := Value)) options.rows := by
    simp only [Unrepeated, rejectionFields, List.forall_mem_cons, List.not_mem_nil, false_implies, implies_true, and_true,
      field_unrepeated _ _ _ _ options.rows options.ascending]
  have complete : Complete (rejectionFields (δ := Value)) options.rows := by
    simp [Complete, rejectionFields, field]
  rw [readRejectionConfig, options_unnamed,
    read_plain_iff "RejectionConfig" rejectionFields {} options.rows options_independent,
    and_iff_right unrepeated, and_iff_right complete]
  constructor
  · intro filled
    obtain ⟨enabled, e, filled⟩ := (fill_named_iff _ _ _ _ _ _ ({} : RejectionConfig).enabled _ _ rfl).mp filled
    obtain ⟨thresholds, t, filled⟩ := (fill_named_iff _ _ _ _ _ _ ({} : RejectionConfig).thresholds _ _ rfl).mp filled
    obtain ⟨require, r, filled⟩ :=
      (fill_named_iff _ _ _ _ _ _ ({} : RejectionConfig).requireEntities _ _ rfl).mp filled
    obtain ⟨method, m, filled⟩ := (fill_named_iff _ _ _ _ _ _ ({} : RejectionConfig).method _ _ rfl).mp filled
    obtain ⟨force, f, filled⟩ := (fill_named_iff _ _ _ _ _ _ ({} : RejectionConfig).forceFinal _ _ rfl).mp filled
    obtain ⟨excluded, x, filled⟩ := (fill_named_iff _ _ _ _ _ _ ({} : RejectionConfig).excluded _ _ rfl).mp filled
    cases filled
    exact ⟨e, t, r, m, f, x⟩
  · rintro ⟨e, t, r, m, f, x⟩
    apply (fill_named_iff _ _ _ _ _ _ ({} : RejectionConfig).enabled _ _ rfl).mpr
    refine ⟨config.enabled, e, ?_⟩
    apply (fill_named_iff _ _ _ _ _ _ ({} : RejectionConfig).thresholds _ _ rfl).mpr
    refine ⟨config.thresholds, t, ?_⟩
    apply (fill_named_iff _ _ _ _ _ _ ({} : RejectionConfig).requireEntities _ _ rfl).mpr
    refine ⟨config.requireEntities, r, ?_⟩
    apply (fill_named_iff _ _ _ _ _ _ ({} : RejectionConfig).method _ _ rfl).mpr
    refine ⟨config.method, m, ?_⟩
    apply (fill_named_iff _ _ _ _ _ _ ({} : RejectionConfig).forceFinal _ _ rfl).mpr
    refine ⟨config.forceFinal, f, ?_⟩
    apply (fill_named_iff _ _ _ _ _ _ ({} : RejectionConfig).excluded _ _ rfl).mpr
    exact ⟨config.excluded, x, rfl⟩

variable (aside : ∀ items, Keyed.get? options.rows "thresholds" ≠ some (.list items))

include aside

theorem thresholds_given (v : Value) (found : Keyed.get? options.rows "thresholds" = some v) (t : Thresholds)
    (read : readThresholds v = .ok t) : ∃ fields : Record, v = .object fields.rows := by
  have whole := options.get_proper "thresholds" v found
  cases v with
  | object fields => exact ⟨.ofProper fields whole, rfl⟩
  | list items => exact absurd found (aside items)
  | _ => cases read

theorem options_pass_iff :
    (∃ config, readRejectionConfig (Value.object options.rows) = .ok config) ↔ OptionsShaped options.rows := by
  simp only [read_options_iff options]
  constructor
  · rintro ⟨config, e, t, r, m, f, x⟩
    have thresholds (v : Value) (found : Keyed.get? options.rows "thresholds" = some v) :
        ∃ fields, v = .object fields ∧ ThresholdsShaped fields := by
      obtain ⟨given, read⟩ := (obtained_iff_reads _).mp ⟨_, t⟩ v found
      obtain ⟨fields, rfl⟩ := thresholds_given options aside v found given read
      exact ⟨fields.rows, rfl, (thresholds_pass_iff fields).mp ⟨given, read⟩⟩
    exact {
      enabled := (obtained_iff_fits _ fun v _ => read_flag_iff v).mp ⟨_, e⟩
      thresholds
      requireEntities := (obtained_iff_fits _ fun v _ => read_flag_iff v).mp ⟨_, r⟩
      method := (obtained_iff_fits _ fun v _ => read_text_iff v).mp ⟨_, m⟩
      forceFinal := (obtained_iff_fits _ fun v _ => read_flag_iff v).mp ⟨_, f⟩
      excluded := (obtained_iff_fits _ fun v _ => read_texts_iff v).mp ⟨_, x⟩ }
  · rintro ⟨e, t, r, m, f, x⟩
    have thresholds (v : Value) (found : Keyed.get? options.rows "thresholds" = some v) : ∃ t, readThresholds v = .ok t := by
      obtain ⟨fields, rfl, shaped⟩ := t v found
      exact (thresholds_pass_iff (.ofProper fields (options.get_proper "thresholds" _ found))).mpr shaped
    obtain ⟨enabled, e⟩ := (obtained_iff_fits ({} : RejectionConfig).enabled fun v _ => read_flag_iff v).mpr e
    obtain ⟨given, t⟩ := (obtained_iff_reads ({} : RejectionConfig).thresholds).mpr thresholds
    obtain ⟨require, r⟩ := (obtained_iff_fits ({} : RejectionConfig).requireEntities fun v _ => read_flag_iff v).mpr r
    obtain ⟨method, m⟩ := (obtained_iff_fits ({} : RejectionConfig).method fun v _ => read_text_iff v).mpr m
    obtain ⟨force, f⟩ := (obtained_iff_fits ({} : RejectionConfig).forceFinal fun v _ => read_flag_iff v).mpr f
    obtain ⟨excluded, x⟩ := (obtained_iff_fits ({} : RejectionConfig).excluded fun v _ => read_texts_iff v).mpr x
    exact ⟨⟨enabled, given, require, method, force, excluded⟩, e, t, r, m, f, x⟩

theorem options_merged (config : RejectionConfig) (read : readRejectionConfig (Value.object options.rows) = .ok config) :
    OptionsMerged options.rows config := by
  obtain ⟨e, t, r, m, f, x⟩ := (read_options_iff options config).mp read
  have thresholds (v : Value) (given : Thresholds) (found : Keyed.get? options.rows "thresholds" = some v)
      (read_given : readThresholds v = .ok given) : ∃ fields, v = .object fields ∧ ThresholdsMerged fields given := by
    obtain ⟨fields, rfl⟩ := thresholds_given options aside v found given read_given
    exact ⟨fields.rows, rfl, thresholds_merged fields given read_given⟩
  exact {
    enabled := obtained_merged _ (fun v b _ => (read_flag_iff v b).mp) _ e
    thresholds := obtained_merged _ thresholds _ t
    requireEntities := obtained_merged _ (fun v b _ => (read_flag_iff v b).mp) _ r
    method := obtained_merged _ (fun v s _ => (read_text_iff v s).mp) _ m
    forceFinal := obtained_merged _ (fun v b _ => (read_flag_iff v b).mp) _ f
    excluded := obtained_merged _ (fun v l _ => (read_texts_iff v l).mp) _ x }

end Options

theorem flag_readable (v : Value) : Readable (Source.bool v) := by
  cases v with
  | bool b => exact readable_ok b
  | _ => exact readable_mismatch _

theorem text_readable (v : Value) : Readable (textOf v) := by
  cases v with
  | text s => exact readable_ok s
  | _ => exact readable_mismatch _

theorem number_readable (v : Value) : Readable (Source.float v) := by
  cases v with
  | number n => exact readable_ok (Number.toFloat n)
  | _ => exact readable_mismatch _

theorem thresholds_readable (v : Value) : Readable (readThresholds v) := by
  apply read_plain_readable
  simp only [thresholdFields, List.forall_mem_cons, List.not_mem_nil, false_implies, implies_true, and_true]
  refine ⟨?_, ?_, ?_, ?_⟩
  · exact put_readable Source.float number_readable _ _ rfl
  · exact put_readable Source.float number_readable _ _ rfl
  · exact put_readable (mapOf Source.float) (map_readable Source.float number_readable) _ _ rfl
  · exact put_readable (optionOf Source.float) (option_readable Source.float number_readable) _ _ rfl

theorem options_readable (v : Value) : Readable (readRejectionConfig v) := by
  apply read_plain_readable
  simp only [rejectionFields, List.forall_mem_cons, List.not_mem_nil, false_implies, implies_true, and_true]
  refine ⟨?_, ?_, ?_, ?_, ?_, ?_⟩
  · exact put_readable Source.bool flag_readable _ _ rfl
  · exact put_readable readThresholds thresholds_readable _ _ rfl
  · exact put_readable Source.bool flag_readable _ _ rfl
  · exact put_readable textOf text_readable _ _ rfl
  · exact put_readable Source.bool flag_readable _ _ rfl
  · exact put_readable (listOf textOf) (list_readable textOf text_readable) _ _ rfl

def thresholdKeys : List String :=
  ["default", "ambiguity_threshold", "ambiguity", "custom", "unexpected_upon_requested_slot"]

def optionKeys : List String :=
  ["enabled", "thresholds", "require_entities_enabled", "method", "force_final_enabled", "excluded_intents"]

def knownThresholds : Value → Value
  | .object fields => .object (fields.filter fun f => thresholdKeys.contains f.1)
  | v => v

def knownOption (option : String × Value) : String × Value :=
  if option.1 = "thresholds" then (option.1, knownThresholds option.2) else option

def knownOptions (options : Fields) : Fields := (options.filter fun f => optionKeys.contains f.1).map knownOption

theorem read_known_thresholds (v : Value) : readThresholds (knownThresholds v) = readThresholds v := by
  cases v with
  | object fields =>
      have claimed : ∀ f ∈ thresholdFields (δ := Value), ∀ key, f.answers key = true → thresholdKeys.contains key = true := by
        simp +contextual [thresholdFields, Field.answers, Field.orKey, field, thresholdKeys]
      exact read_members_known thresholdFields .unnamed fields thresholdKeys.contains claimed
  | _ => rfl

theorem read_known_option (read : Partial RejectionConfig) (option : String × Value) :
    readMember rejectionFields ignore read (knownOption option) = readMember rejectionFields ignore read option := by
  obtain ⟨key, v⟩ := option
  unfold knownOption
  by_cases named : key = "thresholds"
  · subst named
    have answered (w : Value) := read_member_answered rejectionFields ignore options_independent
      (field .defaulted "thresholds" readThresholds fun x c => { c with thresholds := x })
      (List.mem_cons_of_mem _ List.mem_cons_self) "thresholds" (answers_name _) w read
    rw [if_pos rfl, answered, answered]
    simp only [field, read_known_thresholds]
    rfl
  · rw [if_neg named]

theorem read_known_options (options : Fields) :
    readRejectionConfig (Value.object (knownOptions options)) = readRejectionConfig (Value.object options) := by
  have claimed : ∀ f ∈ rejectionFields (δ := Value), ∀ key, f.answers key = true → optionKeys.contains key = true := by
    simp [rejectionFields, Field.answers, field, optionKeys]
  rw [readRejectionConfig, readRejectionConfig, read_plain_members, read_plain_members, knownOptions,
    read_members_same rejectionFields .unnamed _ knownOption read_known_option,
    read_members_known rejectionFields .unnamed options optionKeys.contains claimed]

theorem of_options_ok_iff (options : Value) (config : RejectionConfig) :
    RejectionConfig.ofOptions options = .ok config ↔ readRejectionConfig options = .ok config := by
  unfold RejectionConfig.ofOptions
  cases readRejectionConfig options with
  | ok found => simp
  | error fault => cases fault <;> simp

theorem of_options_error (options : Value) (e : GateError) (failed : RejectionConfig.ofOptions options = .error e) :
    ∃ mismatch, e = .configuration (.shape mismatch) := by
  have readable := options_readable options
  unfold RejectionConfig.ofOptions at failed
  generalize readRejectionConfig options = read at readable failed
  cases read with
  | ok config => cases failed
  | error fault =>
      cases fault with
      | trouble t => exact absurd rfl (readable t)
      | data mismatch =>
          cases failed
          exact ⟨mismatch, rfl⟩

theorem options_merge :
    (∀ options : Record, (∀ items, Keyed.get? options.rows "thresholds" ≠ some (.list items)) →
      ((∃ config, RejectionConfig.ofOptions (.object options.rows) = .ok config) ↔ OptionsShaped options.rows) ∧
      ∀ config, RejectionConfig.ofOptions (.object options.rows) = .ok config → OptionsMerged options.rows config) ∧
    ∀ options : Fields,
      (∀ e, RejectionConfig.ofOptions (.object options) = .error e → ∃ mismatch, e = .configuration (.shape mismatch)) ∧
      RejectionConfig.ofOptions (.object (knownOptions options)) = RejectionConfig.ofOptions (.object options) := by
  refine ⟨fun options aside => ?_, fun options => ⟨of_options_error (.object options), ?_⟩⟩
  · simp only [of_options_ok_iff]
    exact ⟨options_pass_iff options aside, options_merged options aside⟩
  · rw [RejectionConfig.ofOptions, read_known_options]
    rfl

theorem options_merge_travel :
    let options : Fields :=
      [("enabled", .bool false), ("future", .null),
        ("thresholds", .object [("ambiguity", .number (.int 0)), ("custom", .object [("greet", .number (.int 1))]),
          ("note", .text "later")])]
    let config : RejectionConfig :=
      { enabled := false, thresholds := { ambiguity := Float.ofInt 0, custom := .ofList [("greet", Float.ofInt 1)] } }
    RejectionConfig.ofOptions (.object options) = .ok config ∧ OptionsShaped options ∧ OptionsMerged options config ∧
      RejectionConfig.ofOptions (.object (knownOptions options)) = .ok config := by
  intro options config
  have proper : (Value.object options).Proper := by
    simp only [options, object_proper_iff, List.forall_mem_cons, List.not_mem_nil, false_implies, implies_true, and_true]
    refine ⟨by decide, .bool false, .null, by decide, .int 0 (by decide) (by decide), ⟨by decide, ?_⟩, .text "later"⟩
    exact .int 1 (by decide) (by decide)
  have aside (items : List Value) : Keyed.get? options "thresholds" ≠ some (.list items) := by
    simp [options, Keyed.get_cons]
  have read : RejectionConfig.ofOptions (.object options) = .ok config := by with_unfolding_all rfl
  obtain ⟨merges, known⟩ := options_merge
  obtain ⟨passes, merged⟩ := merges (.ofProper options proper) aside
  exact ⟨read, passes.mp ⟨config, read⟩, merged config read, (known options).2.trans read⟩

end IntentGate
