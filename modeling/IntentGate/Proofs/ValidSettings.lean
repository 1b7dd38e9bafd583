import IntentGate.Config.Rejection
import IntentGate.Proofs.FiniteMap
import IntentGate.Proofs.FirstFault

set_option autoImplicit false

namespace IntentGate

structure InUnit (x : Float) : Prop where
  finite : x.isFinite = true
  low : 0 ≤ x
  high : x ≤ 1

theorem in_unit_iff (x : Float) : inUnit x = true ↔ InUnit x := by
  simp only [inUnit, Bool.and_eq_true, decide_eq_true_eq]
  exact ⟨fun ⟨⟨finite, low⟩, high⟩ => ⟨finite, low, high⟩, fun within => ⟨⟨within.finite, within.low⟩, within.high⟩⟩

instance (x : Float) : Decidable (InUnit x) := decidable_of_iff _ (in_unit_iff x)

theorem in_unit_finite (x : Float) (within : inUnit x = true) : x.isFinite = true := ((in_unit_iff x).mp within).finite

def Nameless (s : String) : Prop := ∀ c ∈ s.toList, Text.isBlankChar c = true

theorem nameless_iff (s : String) : Text.isBlank s = true ↔ Nameless s := List.all_eq_true

instance (s : String) : Decidable (Nameless s) := decidable_of_iff _ (nameless_iff s)

namespace RejectionConfig

structure EntrySound (entry : String × Float) : Prop where
  named : ¬ Nameless entry.1
  within : InUnit entry.2

inductive EntryBroken (entry : String × Float) : InvalidSetting → Prop where
  | nameless (nameless : Nameless entry.1) : EntryBroken entry (.emptyIntentName .custom)
  | outside (named : ¬ Nameless entry.1) (outside : ¬ InUnit entry.2) :
      EntryBroken entry (.customThreshold entry.1 entry.2)

inductive Rule where
  | default
  | ambiguity
  | unexpectedSlot
  | custom
  | excluded
  | method
deriving DecidableEq

namespace Rule

def inOrder : List Rule := [.default, .ambiguity, .unexpectedSlot, .custom, .excluded, .method]

def Kept (config : RejectionConfig) : Rule → Prop
  | default => InUnit config.thresholds.default
  | ambiguity => InUnit config.thresholds.ambiguity
  | unexpectedSlot => ∀ x, config.thresholds.unexpectedSlot = some x → InUnit x
  | custom => ∀ entry ∈ config.thresholds.custom.rows, EntrySound entry
  | excluded => ∀ name ∈ config.excluded, ¬ Nameless name
  | method => ¬ Nameless config.method

inductive Broken (config : RejectionConfig) : Rule → InvalidSetting → Prop where
  | default (outside : ¬ InUnit config.thresholds.default) :
      Broken config default (.threshold .default config.thresholds.default)
  | ambiguity (outside : ¬ InUnit config.thresholds.ambiguity) :
      Broken config ambiguity (.threshold .ambiguity config.thresholds.ambiguity)
  | unexpectedSlot (x : Float) (given : config.thresholds.unexpectedSlot = some x) (outside : ¬ InUnit x) :
      Broken config unexpectedSlot (.threshold .unexpectedSlot x)
  | custom (entry : String × Float) (member : entry ∈ config.thresholds.custom.rows) (e : InvalidSetting)
      (broken : EntryBroken entry e) : Broken config custom e
  | excluded (name : String) (member : name ∈ config.excluded) (nameless : Nameless name) :
      Broken config excluded (.emptyIntentName .excluded)
  | method (nameless : Nameless config.method) : Broken config method .missingMethod

def check (config : RejectionConfig) : Rule → Except InvalidSetting Unit
  | default => checkThreshold .default config.thresholds.default
  | ambiguity => checkThreshold .ambiguity config.thresholds.ambiguity
  | unexpectedSlot => config.thresholds.unexpectedSlot.forM (checkThreshold .unexpectedSlot)
  | custom => config.thresholds.custom.rows.forM checkCustom
  | excluded => checkExcluded config.excluded
  | method => checkMethod config.method

end Rule

def Safe (config : RejectionConfig) : Prop := ∀ rule : Rule, rule.Kept config

def FirstBroken (config : RejectionConfig) (e : InvalidSetting) : Prop :=
  FirstFault (Rule.Kept config) (Rule.Broken config) Rule.inOrder e

-- Which of two unsound thresholds in a map is met first is left open, so there is one at most.
def SingleFault (config : RejectionConfig) : Prop :=
  ∀ first ∈ config.thresholds.custom.rows, ∀ second ∈ config.thresholds.custom.rows,
    ¬ EntrySound first → ¬ EntrySound second → first = second

theorem validate_eq (config : RejectionConfig) : config.validate = Rule.inOrder.forM (Rule.check config) := by
  have last : config.validate = (do
      checkThreshold .default config.thresholds.default
      checkThreshold .ambiguity config.thresholds.ambiguity
      config.thresholds.unexpectedSlot.forM (checkThreshold .unexpectedSlot)
      config.thresholds.custom.rows.forM checkCustom
      checkExcluded config.excluded
      checkMethod config.method >>= pure) := by
    rw [bind_pure]
    rfl
  exact last

theorem check_threshold_ok_iff (field : ThresholdField) (x : Float) : checkThreshold field x = .ok () ↔ InUnit x := by
  unfold checkThreshold
  rw [← in_unit_iff]
  split <;> simp_all

theorem check_threshold_error_iff (field : ThresholdField) (x : Float) (e : InvalidSetting) :
    checkThreshold field x = .error e ↔ ¬ InUnit x ∧ .threshold field x = e := by
  unfold checkThreshold
  rw [← in_unit_iff]
  split <;> simp_all

theorem check_custom_ok_iff (entry : String × Float) : checkCustom entry = .ok () ↔ EntrySound entry := by
  unfold checkCustom
  split
  · rename_i nameless
    refine ⟨fun passed => ?_, fun sound => absurd ((nameless_iff _).mp nameless) sound.named⟩
    cases passed
  · rename_i named
    rw [nameless_iff] at named
    split
    · rename_i within
      exact ⟨fun _ => ⟨named, (in_unit_iff _).mp within⟩, fun _ => rfl⟩
    · rename_i outside
      refine ⟨fun passed => ?_, fun sound => absurd ((in_unit_iff _).mpr sound.within) outside⟩
      cases passed

theorem check_custom_error_iff (entry : String × Float) (e : InvalidSetting) :
    checkCustom entry = .error e ↔ EntryBroken entry e := by
  unfold checkCustom
  constructor
  · intro failed
    split at failed
    · rename_i nameless
      cases failed
      exact .nameless ((nameless_iff _).mp nameless)
    · rename_i named
      split at failed
      · cases failed
      · rename_i outside
        cases failed
        rw [nameless_iff] at named
        rw [in_unit_iff] at outside
        exact .outside named outside
  · intro broken
    cases broken with
    | nameless nameless => rw [if_pos ((nameless_iff _).mpr nameless)]
    | outside named outside =>
        rw [if_neg fun blank => named ((nameless_iff _).mp blank),
          if_neg fun within => outside ((in_unit_iff _).mp within)]

theorem entry_broken_unsound (entry : String × Float) (e : InvalidSetting) (broken : EntryBroken entry e) :
    ¬ EntrySound entry := by
  cases broken with
  | nameless nameless => exact fun sound => sound.named nameless
  | outside named outside => exact fun sound => outside sound.within

theorem check_ok_iff (config : RejectionConfig) (rule : Rule) : rule.check config = .ok () ↔ rule.Kept config := by
  cases rule with
  | default | ambiguity => exact check_threshold_ok_iff _ _
  | unexpectedSlot =>
      unfold Rule.check Rule.Kept
      cases config.thresholds.unexpectedSlot with
      | none => exact ⟨fun _ => by simp, fun _ => rfl⟩
      | some x => simpa using check_threshold_ok_iff .unexpectedSlot x
  | custom => exact for_m_ok_iff checkCustom check_custom_ok_iff _
  | excluded =>
      simp only [Rule.check, Rule.Kept, checkExcluded, ← nameless_iff]
      split <;> simp_all
  | method =>
      simp only [Rule.check, Rule.Kept, checkMethod, ← nameless_iff]
      split <;> simp_all

theorem check_customs_error_iff (config : RejectionConfig) (single : SingleFault config) (e : InvalidSetting) :
    config.thresholds.custom.rows.forM checkCustom = .error e ↔
      ∃ entry ∈ config.thresholds.custom.rows, EntryBroken entry e := by
  rw [for_m_error_iff checkCustom check_custom_ok_iff check_custom_error_iff]
  constructor
  · rintro ⟨earlier, entry, later, split, -, broken⟩
    exact ⟨entry, by simp [split], broken⟩
  · rintro ⟨entry, member, broken⟩
    obtain ⟨earlier, later, split, fresh⟩ := List.eq_append_cons_of_mem member
    refine ⟨earlier, entry, later, split, fun other before => ?_, broken⟩
    by_contra unsound
    have listed : other ∈ config.thresholds.custom.rows := by simp [split, before]
    have same := single other listed entry member unsound (entry_broken_unsound entry e broken)
    exact fresh (same ▸ before)

theorem check_slot_error_iff (slot : Option Float) (e : InvalidSetting) :
    slot.forM (checkThreshold .unexpectedSlot) = .error e ↔
      ∃ x, slot = some x ∧ ¬ InUnit x ∧ .threshold .unexpectedSlot x = e := by
  cases slot with
  | none =>
      constructor
      · intro failed
        cases failed
      · rintro ⟨x, given, -⟩
        cases given
  | some x => simpa using check_threshold_error_iff .unexpectedSlot x e

theorem check_excluded_error_iff (names : List String) (e : InvalidSetting) :
    checkExcluded names = .error e ↔ (∃ name ∈ names, Nameless name) ∧ .emptyIntentName .excluded = e := by
  simp only [checkExcluded, ← nameless_iff, ← List.any_eq_true]
  split <;> simp_all

theorem check_method_error_iff (method : String) (e : InvalidSetting) :
    checkMethod method = .error e ↔ Nameless method ∧ .missingMethod = e := by
  simp only [checkMethod, ← nameless_iff]
  split <;> simp_all

theorem check_error_iff (config : RejectionConfig) (single : SingleFault config) (rule : Rule) (e : InvalidSetting) :
    rule.check config = .error e ↔ rule.Broken config e := by
  cases rule with
  | default =>
      rw [Rule.check, check_threshold_error_iff]
      constructor
      · rintro ⟨outside, rfl⟩
        exact .default outside
      · rintro ⟨outside⟩
        exact ⟨outside, rfl⟩
  | ambiguity =>
      rw [Rule.check, check_threshold_error_iff]
      constructor
      · rintro ⟨outside, rfl⟩
        exact .ambiguity outside
      · rintro (_ | ⟨outside⟩)
        exact ⟨outside, rfl⟩
  | unexpectedSlot =>
      rw [Rule.check, check_slot_error_iff]
      constructor
      · rintro ⟨x, given, outside, rfl⟩
        exact .unexpectedSlot x given outside
      · rintro (_ | _ | ⟨x, given, outside⟩)
        exact ⟨x, given, outside, rfl⟩
  | custom =>
      rw [Rule.check, check_customs_error_iff config single]
      constructor
      · rintro ⟨entry, member, broken⟩
        exact .custom entry member e broken
      · rintro (_ | _ | _ | ⟨entry, member, _, broken⟩)
        exact ⟨entry, member, broken⟩
  | excluded =>
      rw [Rule.check, check_excluded_error_iff]
      constructor
      · rintro ⟨⟨name, member, nameless⟩, rfl⟩
        exact .excluded name member nameless
      · rintro (_ | _ | _ | _ | ⟨name, member, nameless⟩)
        exact ⟨⟨name, member, nameless⟩, rfl⟩
  | method =>
      rw [Rule.check, check_method_error_iff]
      constructor
      · rintro ⟨nameless, rfl⟩
        exact .method nameless
      · rintro (_ | _ | _ | _ | _ | ⟨nameless⟩)
        exact ⟨nameless, rfl⟩

theorem validate_ok_iff (config : RejectionConfig) : config.validate = .ok () ↔ Safe config := by
  rw [validate_eq, for_m_ok_iff _ (check_ok_iff config)]
  exact ⟨fun kept rule => kept rule (by cases rule <;> decide), fun safe rule _ => safe rule⟩

theorem validate_error_iff (config : RejectionConfig) (single : SingleFault config) (e : InvalidSetting) :
    config.validate = .error e ↔ FirstBroken config e := by
  rw [validate_eq]
  exact for_m_error_iff _ (check_ok_iff config) (check_error_iff config single) _ e

structure Bounded (config : RejectionConfig) : Prop where
  default : inUnit config.thresholds.default = true
  ambiguity : inUnit config.thresholds.ambiguity = true
  custom : ∀ entry ∈ config.thresholds.custom.rows, inUnit entry.2 = true

theorem valid_bounded (config : RejectionConfig) (valid : config.validate = .ok ()) : Bounded config := by
  have safe := (validate_ok_iff config).mp valid
  refine ⟨(in_unit_iff _).mpr (safe .default), (in_unit_iff _).mpr (safe .ambiguity), fun entry member => ?_⟩
  exact (in_unit_iff _).mpr (safe .custom entry member).within

end RejectionConfig

end IntentGate
