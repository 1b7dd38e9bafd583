import IntentGate.Proofs.IndexBuilding
import IntentGate.Proofs.ProperValue
import IntentGate.Requirement

set_option autoImplicit false

namespace IntentGate.RequirementIndex

open Json

def redeclared (entry : String × List Requirement) : Value :=
  .object [(entry.1, .object [("require_entities", .list (entry.2.map fun r => r.written.sorted))])]

def isName : Value → Bool
  | .text _ => true
  | _ => false

theorem describes_visible (v : Value) (r : Requirement) (described : Describes v r) : Visible r.entity := by
  cases described with
  | name _ visible => exact visible
  | object _ _ _ _ _ visible => exact visible

theorem written_label (label : Option String) :
    Labelled (some (Value.ofOption Value.text label).sorted) label := by
  cases label with
  | none => exact .null
  | some s => exact .text s

theorem describes_written (r : Requirement) (visible : Visible r.entity) : Describes r.written.sorted r := by
  obtain ⟨entries, sorted, -, found⟩ := sorted_object
    [("entity", .text r.entity), ("role", .ofOption .text r.role), ("group", .ofOption .text r.group)] (by simp)
  have typed : typeGiven? entries = some (.text r.entity) := by
    rw [typeGiven?, found]
    rfl
  have playing : Labelled (Keyed.get? entries "role") r.role := by
    rw [found]
    exact written_label r.role
  have grouped : Labelled (Keyed.get? entries "group") r.group := by
    rw [found]
    exact written_label r.group
  rw [Requirement.written, sorted]
  exact .object entries r.entity r.role r.group typed visible playing grouped

theorem normalize_written (v : Value) (r : Requirement) (read : Requirement.normalize v = .ok r) :
    Requirement.normalize r.written.sorted = .ok r :=
  (normalize_ok_iff _ r).mpr (describes_written r (describes_visible v r ((normalize_ok_iff v r).mp read)))

theorem normalize_all_written (items : List Value) (required : List Requirement)
    (read : items.mapM Requirement.normalize = .ok required) :
    (required.map fun r => r.written.sorted).mapM Requirement.normalize = .ok required := by
  rw [map_m_ok_iff, List.forall₂_map_left_iff, List.forall₂_same]
  intro r member
  obtain ⟨v, -, found⟩ := map_m_member Requirement.normalize items required read r member
  exact normalize_written v r found

theorem declares_of_last (described : List (String × Value)) (intent : String) (v : Value)
    (last : DeclaresLast described intent v) : Declares described intent v := by
  obtain ⟨earlier, properties, later, rfl, required, -⟩ := last
  exact ⟨(intent, properties), by simp, rfl, required⟩

theorem gathers_entry (described : List (String × Value)) (index : RequirementIndex) (gathers : Gathers described index)
    (intent : String) (required : List Requirement) (kept : (intent, required) ∈ index.entries.rows) :
    index.required? intent = some required ∧
      (required.map fun r => r.written.sorted).mapM Requirement.normalize = .ok required := by
  have found : index.required? intent = some required := (Table.get_eq_iff_mem index.entries intent required).mpr kept
  obtain ⟨items, -, each⟩ := (gathers_some_iff described index gathers intent required).mp found
  exact ⟨found, normalize_all_written items required each⟩

section Rebuilding

variable (index : RequirementIndex) (intents : List Value)
  (rewritten : (intents.filter fun v => !isName v).Perm (index.entries.rows.map redeclared))

include rewritten

theorem mem_rewritten_iff (v : Value) (unnamed : isName v = false) :
    v ∈ intents ↔ ∃ entry ∈ index.entries.rows, v = redeclared entry := by
  have same := rewritten.mem_iff (a := v)
  simpa [unnamed, eq_comm] using same

theorem declares_rewritten_iff (intent : String) (v : Value) :
    Declares (allProperties { intents }) intent v ↔
      ∃ required, (intent, required) ∈ index.entries.rows ∧ v = .list (required.map fun r => r.written.sorted) := by
  constructor
  · rintro ⟨d, member, rfl, fields, object, given⟩
    obtain ⟨entry, listed, inside⟩ := List.mem_flatMap.mp member
    have unnamed : isName entry = false := by
      cases entry with
      | text => cases inside
      | _ => rfl
    obtain ⟨⟨name, required⟩, kept, rfl⟩ := (mem_rewritten_iff index intents rewritten entry unnamed).mp listed
    cases List.mem_singleton.mp inside
    cases object
    cases given
    exact ⟨required, kept, rfl⟩
  · rintro ⟨required, kept, rfl⟩
    have listed := (mem_rewritten_iff index intents rewritten (redeclared (intent, required)) rfl).mpr
      ⟨(intent, required), kept, rfl⟩
    exact ⟨_, List.mem_flatMap.mpr ⟨_, listed, List.mem_singleton.mpr rfl⟩, rfl, _, rfl, rfl⟩

variable (described : List (String × Value)) (gathers : Gathers described index)

include gathers

theorem rewritten_sound : ∀ v ∈ intents, SoundEntry v := by
  intro v listed
  cases named : isName v with
  | true =>
      cases v with
      | text name => exact .inl ⟨name, rfl⟩
      | _ => cases named
  | false =>
      obtain ⟨⟨intent, required⟩, kept, rfl⟩ := (mem_rewritten_iff index intents rewritten v named).mp listed
      have restored := (gathers_entry described index gathers intent required kept).2
      refine .inr ⟨_, rfl, fun d inside w found => ?_⟩
      cases List.mem_singleton.mp inside
      obtain ⟨fields, object, given⟩ := found
      cases object
      cases given
      exact ⟨_, rfl, (map_m_passes_iff Requirement.normalize normalize_passes_iff _).mp ⟨required, restored⟩⟩

theorem rewritten_required (other : RequirementIndex) (gathered : Gathers (allProperties { intents }) other)
    (intent : String) (required : List Requirement) (found : other.required? intent = some required) :
    index.required? intent = some required := by
  obtain ⟨items, last, each⟩ := (gathers_some_iff _ other gathered intent required).mp found
  obtain ⟨kept, member, same⟩ :=
    (declares_rewritten_iff index intents rewritten intent _).mp (declares_of_last _ intent _ last)
  cases same
  obtain ⟨there, restored⟩ := gathers_entry described index gathers intent kept member
  cases restored.symm.trans each
  exact there

theorem rewritten_same (other : RequirementIndex) (gathered : Gathers (allProperties { intents }) other) :
    other = index := by
  have lookup (intent : String) : other.required? intent = index.required? intent := by
    cases found : other.required? intent with
    | some required => exact (rewritten_required index intents rewritten described gathers other gathered intent required found).symm
    | none =>
        have silent := (gathers_none_iff _ other gathered intent).mp found
        cases there : index.required? intent with
        | none => rfl
        | some required =>
            have kept := (Table.get_eq_iff_mem index.entries intent required).mp there
            have declared := (declares_rewritten_iff index intents rewritten intent _).mpr ⟨required, kept, rfl⟩
            exact absurd declared (silent _)
  have entries : other.entries = index.entries := Table.ext_get _ _ lookup
  exact congrArg mk entries

theorem rewritten_builds : build { intents } = .ok index := by
  obtain ⟨other, rebuilt⟩ :=
    (build_passes_iff { intents }).mpr (rewritten_sound index intents rewritten described gathers)
  have gathered := build_gathers { intents } other rebuilt
  rw [rebuilt, rewritten_same index intents rewritten described gathers other gathered]

end Rebuilding

theorem rebuilding_restores :
    (∀ v r, Requirement.normalize v = .ok r → Requirement.normalize r.written.sorted = .ok r) ∧
    ∀ schema index, build schema = .ok index → ∀ intents : List Value,
      (intents.filter fun v => !isName v).Perm (index.entries.rows.map redeclared) → build { intents } = .ok index :=
  ⟨normalize_written, fun schema index built intents rewritten =>
    rewritten_builds index intents rewritten (allProperties schema) (build_gathers schema index built)⟩

theorem rebuilding_restores_travel :
    let pizza : Value := .object [("group", .number (.int 2)), ("note", .null), ("type", .text "pizza")]
    let required : Requirement := { entity := "pizza", group := some "2" }
    let schema : DomainSchema :=
      { intents := [.object [("book", .object [("require_entities", .list [pizza])]),
          ("bye", .object [("require_entities", .list [])])]] }
    let index : RequirementIndex := { entries := .ofList [("book", [required]), ("bye", [])] }
    let intents : List Value :=
      [.text "bye", redeclared ("bye", []), .text "greet", redeclared ("book", [required])]
    Requirement.normalize pizza = .ok required ∧ Requirement.normalize required.written.sorted = .ok required ∧
      build schema = .ok index ∧ build { intents } = .ok index := by
  intro pizza required schema index intents
  have normalized : Requirement.normalize pizza = .ok required := (to_option_some_iff _ _).mp (by decide +kernel)
  have built : build schema = .ok index := (to_option_some_iff _ _).mp (by decide +kernel)
  have rows : index.entries.rows = [("book", [required]), ("bye", [])] := by decide +kernel
  have rewritten : (intents.filter fun v => !isName v).Perm (index.entries.rows.map redeclared) := by
    rw [rows]
    exact List.Perm.swap _ _ []
  obtain ⟨again, rebuilds⟩ := rebuilding_restores
  exact ⟨normalized, again pizza required normalized, built, rebuilds schema index built intents rewritten⟩

end IntentGate.RequirementIndex
