import IntentGate.Proofs.Sequencing
import IntentGate.Requirement

set_option autoImplicit false

namespace IntentGate

open Json

def Visible (s : String) : Prop := ∃ c ∈ s.toList, Text.isBlankChar c = false

-- What is given as the type: the newer key counts, and the older one only where the newer is missing.
def typeGiven? (fields : Fields) : Option Value := (Keyed.get? fields "entity").or (Keyed.get? fields "type")

inductive Labelled : Option Value → Option String → Prop where
  | absent : Labelled none none
  | null : Labelled (some .null) none
  | text (s : String) : Labelled (some (.text s)) (some s)
  | number (n : Number) : Labelled (some (.number n)) (some n.show)

inductive Describes : Value → Requirement → Prop where
  | name (entity : String) (visible : Visible entity) : Describes (.text entity) { entity }
  | object (fields : Fields) (entity : String) (role group : Option String)
      (typed : typeGiven? fields = some (.text entity)) (visible : Visible entity)
      (playing : Labelled (Keyed.get? fields "role") role) (grouped : Labelled (Keyed.get? fields "group") group) :
      Describes (.object fields) { entity, role, group }

def WellFormed (v : Value) : Prop := ∃ r, Describes v r

def Unlabelled (fields : Fields) (key : String) (v : Value) : Prop :=
  Keyed.get? fields key = some v ∧ ∀ label, ¬ Labelled (some v) label

inductive Malformed : Value → DeclarationFault → Prop where
  | blankName (s : String) (blank : ¬ Visible s) : Malformed (.text s) .emptyType
  | untyped (fields : Fields) (absent : typeGiven? fields = none) : Malformed (.object fields) .noType
  | typeNotText (fields : Fields) (v : Value) (given : typeGiven? fields = some v) (other : ∀ s, v ≠ .text s) :
      Malformed (.object fields) (.typeNotText v)
  | blankType (fields : Fields) (s : String) (given : typeGiven? fields = some (.text s)) (blank : ¬ Visible s) :
      Malformed (.object fields) .emptyType
  | role (fields : Fields) (s : String) (v : Value) (typed : typeGiven? fields = some (.text s)) (visible : Visible s)
      (bad : Unlabelled fields "role" v) : Malformed (.object fields) (.labelNotText .role v)
  | group (fields : Fields) (s : String) (role : Option String) (v : Value)
      (typed : typeGiven? fields = some (.text s)) (visible : Visible s)
      (playing : Labelled (Keyed.get? fields "role") role) (bad : Unlabelled fields "group" v) :
      Malformed (.object fields) (.labelNotText .group v)
  | neither (v : Value) (notText : ∀ s, v ≠ .text s) (notObject : ∀ fields, v ≠ .object fields) :
      Malformed v (.notEntity v)

theorem visible_iff (s : String) : Visible s ↔ Text.isBlank s = false := by
  simp [Visible, Text.isBlank]

theorem type_name_ok_iff (s entity : String) : typeName s = .ok entity ↔ Visible s ∧ s = entity := by
  rw [typeName, visible_iff]
  cases Text.isBlank s <;> simp

theorem type_name_error_iff (s : String) (fault : DeclarationFault) :
    typeName s = .error fault ↔ ¬ Visible s ∧ fault = .emptyType := by
  rw [typeName, visible_iff]
  cases Text.isBlank s <;> simp [eq_comm]

theorem type_given_eq (fields : Fields) :
    ((Keyed.get? fields "entity").orElse fun _ => Keyed.get? fields "type") = typeGiven? fields :=
  Option.orElse_eq_or

theorem declared_type_ok_iff (fields : Fields) (entity : String) :
    declaredType fields = .ok entity ↔ typeGiven? fields = some (.text entity) ∧ Visible entity := by
  rw [declaredType, type_given_eq]
  cases given : typeGiven? fields with
  | none => simp
  | some v =>
      cases v with
      | text s =>
          simp only [type_name_ok_iff, Option.some.injEq, Value.text.injEq]
          constructor
          · rintro ⟨visible, rfl⟩
            exact ⟨rfl, visible⟩
          · rintro ⟨rfl, visible⟩
            exact ⟨visible, rfl⟩
      | _ => simp

theorem declared_type_error_iff (fields : Fields) (fault : DeclarationFault) :
    declaredType fields = .error fault ↔
      (typeGiven? fields = none ∧ fault = .noType) ∨
      (∃ v, typeGiven? fields = some v ∧ (∀ s, v ≠ .text s) ∧ fault = .typeNotText v) ∨
      ∃ s, typeGiven? fields = some (.text s) ∧ ¬ Visible s ∧ fault = .emptyType := by
  rw [declaredType, type_given_eq]
  cases given : typeGiven? fields with
  | none => simp [eq_comm]
  | some v =>
      cases v with
      | text s => simp [type_name_error_iff]
      | _ => simp [eq_comm]

theorem declared_label_ok_iff (fields : Fields) (key : LabelKey) (label : Option String) :
    declaredLabel fields key = .ok label ↔ Labelled (Keyed.get? fields key.name) label := by
  rw [declaredLabel]
  constructor
  · intro read
    cases given : Keyed.get? fields key.name with
    | none =>
        rw [given] at read
        cases read
        exact .absent
    | some v =>
        rw [given] at read
        cases v with
        | null =>
            cases read
            exact .null
        | text s =>
            cases read
            exact .text s
        | number n =>
            cases read
            exact .number n
        | _ => cases read
  · intro labelled
    generalize Keyed.get? fields key.name = given at labelled ⊢
    cases labelled <;> rfl

theorem declared_label_error_iff (fields : Fields) (key : LabelKey) (fault : DeclarationFault) :
    declaredLabel fields key = .error fault ↔ ∃ v, Unlabelled fields key.name v ∧ fault = .labelNotText key v := by
  constructor
  · intro failed
    have refused (label : Option String) : ¬ Labelled (Keyed.get? fields key.name) label := by
      intro labelled
      rw [(declared_label_ok_iff fields key label).mpr labelled] at failed
      cases failed
    rw [declaredLabel] at failed
    cases given : Keyed.get? fields key.name with
    | none => exact absurd (given ▸ .absent) (refused none)
    | some v =>
        rw [given] at failed refused
        refine ⟨v, ⟨given, refused⟩, ?_⟩
        cases v with
        | null | text | number => cases failed
        | _ =>
            cases failed
            rfl
  · rintro ⟨v, ⟨given, unlabelled⟩, rfl⟩
    rw [declaredLabel, given]
    cases v with
    | null => exact absurd .null (unlabelled none)
    | text s => exact absurd (.text s) (unlabelled (some s))
    | number n => exact absurd (.number n) (unlabelled (some n.show))
    | _ => rfl

theorem normalize_text (s : String) :
    Requirement.normalize (.text s) = (typeName s).map fun entity => { entity } := by
  rw [Requirement.normalize]
  cases typeName s <;> rfl

theorem normalize_ok_iff (v : Value) (r : Requirement) : Requirement.normalize v = .ok r ↔ Describes v r := by
  constructor
  · intro read
    cases v with
    | text s =>
        rw [normalize_text, map_ok_iff] at read
        obtain ⟨entity, named, rfl⟩ := read
        obtain ⟨visible, rfl⟩ := (type_name_ok_iff s entity).mp named
        exact .name s visible
    | object fields =>
        obtain ⟨entity, typed, read⟩ := (bind_ok_iff _ _ _).mp read
        obtain ⟨role, playing, read⟩ := (bind_ok_iff _ _ _).mp read
        obtain ⟨group, grouped, read⟩ := (bind_ok_iff _ _ _).mp read
        cases read
        obtain ⟨given, visible⟩ := (declared_type_ok_iff fields entity).mp typed
        exact .object fields entity role group given visible ((declared_label_ok_iff fields .role role).mp playing)
          ((declared_label_ok_iff fields .group group).mp grouped)
    | _ => cases read
  · intro described
    cases described with
    | name entity visible => rw [normalize_text, (type_name_ok_iff entity entity).mpr ⟨visible, rfl⟩, Except.map]
    | object fields entity role group typed visible playing grouped =>
        have typed := (declared_type_ok_iff fields entity).mpr ⟨typed, visible⟩
        have playing := (declared_label_ok_iff fields .role role).mpr playing
        have grouped := (declared_label_ok_iff fields .group group).mpr grouped
        simp only [Requirement.normalize, typed, playing, grouped, bind, Except.bind]
        rfl

theorem normalize_passes_iff (v : Value) : (∃ r, Requirement.normalize v = .ok r) ↔ WellFormed v :=
  exists_congr (normalize_ok_iff v)

theorem malformed_of_failed (v : Value) (fault : DeclarationFault) (failed : Requirement.normalize v = .error fault) :
    Malformed v fault := by
  cases v with
  | text s =>
      rw [normalize_text, map_failed_iff, type_name_error_iff] at failed
      obtain ⟨blank, rfl⟩ := failed
      exact .blankName s blank
  | object fields =>
      rcases (bind_error_iff _ _ _).mp failed with untyped | ⟨entity, typed, failed⟩
      · rcases (declared_type_error_iff fields fault).mp untyped with
          ⟨absent, rfl⟩ | ⟨v, given, other, rfl⟩ | ⟨s, given, blank, rfl⟩
        · exact .untyped fields absent
        · exact .typeNotText fields v given other
        · exact .blankType fields s given blank
      obtain ⟨given, visible⟩ := (declared_type_ok_iff fields entity).mp typed
      rcases (bind_error_iff _ _ _).mp failed with bad | ⟨role, playing, failed⟩
      · obtain ⟨v, unlabelled, rfl⟩ := (declared_label_error_iff fields .role fault).mp bad
        exact .role fields entity v given visible unlabelled
      have playing := (declared_label_ok_iff fields .role role).mp playing
      rcases (bind_error_iff _ _ _).mp failed with bad | ⟨group, -, failed⟩
      · obtain ⟨v, unlabelled, rfl⟩ := (declared_label_error_iff fields .group fault).mp bad
        exact .group fields entity role v given visible playing unlabelled
      · cases failed
  | _ =>
      cases failed
      exact .neither _ (fun s same => Value.noConfusion same) fun fields same => Value.noConfusion same

theorem normalize_malformed (v : Value) (fault : DeclarationFault) (malformed : Malformed v fault) :
    Requirement.normalize v = .error fault := by
  cases malformed with
  | blankName s blank =>
      rw [normalize_text, map_failed_iff]
      exact (type_name_error_iff s _).mpr ⟨blank, rfl⟩
  | untyped fields absent =>
      have failed := (declared_type_error_iff fields .noType).mpr (.inl ⟨absent, rfl⟩)
      exact (bind_error_iff _ _ _).mpr (.inl failed)
  | typeNotText fields v given other =>
      have failed := (declared_type_error_iff fields _).mpr (.inr (.inl ⟨v, given, other, rfl⟩))
      exact (bind_error_iff _ _ _).mpr (.inl failed)
  | blankType fields s given blank =>
      have failed := (declared_type_error_iff fields _).mpr (.inr (.inr ⟨s, given, blank, rfl⟩))
      exact (bind_error_iff _ _ _).mpr (.inl failed)
  | role fields s v typed visible bad =>
      have typed := (declared_type_ok_iff fields s).mpr ⟨typed, visible⟩
      have failed := (declared_label_error_iff fields .role _).mpr ⟨v, bad, rfl⟩
      exact (bind_error_iff _ _ _).mpr (.inr ⟨s, typed, (bind_error_iff _ _ _).mpr (.inl failed)⟩)
  | group fields s role v typed visible playing bad =>
      have typed := (declared_type_ok_iff fields s).mpr ⟨typed, visible⟩
      have playing := (declared_label_ok_iff fields .role role).mpr playing
      have failed := (declared_label_error_iff fields .group _).mpr ⟨v, bad, rfl⟩
      refine (bind_error_iff _ _ _).mpr (.inr ⟨s, typed, (bind_error_iff _ _ _).mpr (.inr ⟨role, playing, ?_⟩)⟩)
      exact (bind_error_iff _ _ _).mpr (.inl failed)
  | neither _ notText notObject =>
      cases v with
      | text s => exact absurd rfl (notText s)
      | object fields => exact absurd rfl (notObject fields)
      | _ => rfl

theorem normalize_error_iff (v : Value) (fault : DeclarationFault) :
    Requirement.normalize v = .error fault ↔ Malformed v fault :=
  ⟨malformed_of_failed v fault, normalize_malformed v fault⟩

end IntentGate
