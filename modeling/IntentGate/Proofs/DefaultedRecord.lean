import IntentGate.Proofs.FieldForms
import IntentGate.Proofs.FirstFault

set_option autoImplicit false

namespace IntentGate.Shape

open Json

variable {α β γ : Type}

inductive Merged (form : Value → β → Prop) (default : β) : Option Value → β → Prop where
  | given (v : Value) (x : β) (formed : form v x) : Merged form default (some v) x
  | absent : Merged form default none default

def Fits (form : Value → β → Prop) (given : Option Value) : Prop := ∀ v, given = some v → ∃ x, form v x

section Parts

variable {read : Value → Except Fault β} {form : Value → β → Prop} {given : Option Value} (default : β)

theorem obtained_merged (formed : ∀ v x, given = some v → read v = .ok x → form v x) (x : β)
    (obtained : Obtained read default given x) : Merged form default given x := by
  cases obtained with
  | given v x read_ok => exact .given v x (formed v x rfl read_ok)
  | absent => exact .absent

theorem obtained_iff_reads : (∃ x, Obtained read default given x) ↔ ∀ v, given = some v → ∃ x, read v = .ok x := by
  constructor
  · rintro ⟨x, obtained⟩ v rfl
    cases obtained with
    | given _ _ read_ok => exact ⟨x, read_ok⟩
  · intro reads
    cases given with
    | none => exact ⟨default, .absent⟩
    | some v =>
        obtain ⟨x, read_ok⟩ := reads v rfl
        exact ⟨x, .given v x read_ok⟩

theorem obtained_iff_fits (forms : ∀ v, given = some v → ∀ x, read v = .ok x ↔ form v x) :
    (∃ x, Obtained read default given x) ↔ Fits form given := by
  rw [obtained_iff_reads]
  exact forall_congr' fun v => forall_congr' fun there => exists_congr fun x => forms v there x

end Parts

theorem map_m_written_iff {δ : Type} (read : δ → Except Fault β) (write : γ → δ) (take : γ → β)
    (reads : ∀ d b, read d = .ok b ↔ ∃ c, d = write c ∧ b = take c) (items : List δ) (l : List β) :
    items.mapM read = .ok l ↔ ∃ sources : List γ, items = sources.map write ∧ l = sources.map take := by
  rw [map_m_ok_iff]
  constructor
  · intro each
    induction each with
    | nil => exact ⟨[], rfl, rfl⟩
    | cons first _ ih =>
        obtain ⟨c, rfl, rfl⟩ := (reads _ _).mp first
        obtain ⟨sources, rfl, rfl⟩ := ih
        exact ⟨c :: sources, rfl, rfl⟩
  · rintro ⟨sources, rfl, rfl⟩
    rw [List.forall₂_map_left_iff, List.forall₂_map_right_iff, List.forall₂_same]
    exact fun c _ => (reads _ _).mpr ⟨c, rfl, rfl⟩

section Written

variable (read : Value → Except Fault β) (write : γ → Value) (take : γ → β)
  (reads : ∀ v b, read v = .ok b ↔ ∃ c, v = write c ∧ b = take c)

include reads

theorem list_written_iff (v : Value) (l : List β) :
    listOf read v = .ok l ↔ ∃ sources : List γ, v = .list (sources.map write) ∧ l = sources.map take := by
  constructor
  · intro read_all
    obtain ⟨items, rfl, each⟩ := list_of_ok read v l read_all
    obtain ⟨sources, rfl, rfl⟩ := (map_m_written_iff read write take reads items l).mp each
    exact ⟨sources, rfl, rfl⟩
  · rintro ⟨sources, rfl, rfl⟩
    have each := (map_m_written_iff read write take reads _ _).mpr ⟨sources, rfl, rfl⟩
    simp only [listOf, Source.list, each, bind, Except.bind]
    rfl

theorem entry_written_iff (m : String × Value) (e : String × β) :
    (do return (m.1, ← read m.2) : Except Fault (String × β)) = .ok e ↔
      ∃ c : String × γ, m = (c.1, write c.2) ∧ e = (c.1, take c.2) := by
  rw [bind_ok_iff]
  constructor
  · rintro ⟨b, found, stored⟩
    obtain ⟨c, given, rfl⟩ := (reads _ _).mp found
    cases stored
    exact ⟨(m.1, c), Prod.ext rfl given, rfl⟩
  · rintro ⟨c, rfl, rfl⟩
    exact ⟨take c.2, (reads _ _).mpr ⟨c.2, rfl, rfl⟩, rfl⟩

theorem map_written_iff (v : Value) (proper : v.Proper) (map : Table β) :
    mapOf read v = .ok map ↔ ∃ sources : Keyed γ,
      v = .object (sources.map fun e => (e.1, write e.2)) ∧ map.rows = sources.map fun e => (e.1, take e.2) := by
  cases v with
  | object members =>
      have opened : mapOf read (Value.object members) =
          (members.mapM fun m => do return (m.1, ← read m.2)) >>= fun entries => .ok (Table.ofList entries) := rfl
      rw [opened, bind_ok_iff]
      have each := map_m_written_iff _ _ _ (entry_written_iff read write take reads) members
      have kept (sources : Keyed γ) (same : members = sources.map fun e => (e.1, write e.2)) :
          Keyed.ofList (sources.map fun e => (e.1, take e.2)) = sources.map fun e => (e.1, take e.2) := by
        have ascending := fields_ascending members proper
        rw [same, Keyed.Ascending, List.pairwise_map] at ascending
        exact Keyed.of_list_ascending _ (List.pairwise_map.mpr ascending)
      constructor
      · rintro ⟨entries, read_all, gathered⟩
        obtain ⟨sources, same, rfl⟩ := (each entries).mp read_all
        cases gathered
        exact ⟨sources, congrArg Value.object same, kept sources same⟩
      · rintro ⟨sources, same, rows⟩
        cases same
        refine ⟨_, (each _).mpr ⟨sources, rfl, rfl⟩, congrArg Except.ok (Table.ext_rows _ _ ?_)⟩
        exact (kept sources rfl).trans rows.symm
  | _ =>
      constructor
      · intro read_all
        cases read_all
      · rintro ⟨sources, same, -⟩
        cases same

end Written

section Plain

variable (name : String) (fields : List (Field Value α)) (start : α) (members : Fields)

theorem lawful_ignoring (independent : fields.Pairwise Independent) : Lawful fields fun _ _ a => a := by
  refine ⟨independent, fun f _ key v w a => ?_⟩
  simp

theorem read_plain_members :
    readPlain name fields start (Value.object members) = readMembers fields ignore start { items := members } := rfl

theorem read_plain_iff (independent : fields.Pairwise Independent) (b : α) :
    readPlain name fields start (Value.object members) = .ok b ↔
      Unrepeated fields members ∧ Complete fields members ∧ fill fields members start = some b := by
  have kept : keepAll (fun _ _ a => a) (unclaimed fields members) = (id : α → α) := by
    funext a
    simp [keepAll]
  rw [read_plain_members, read_members_iff fields (fun _ _ a => a) ignore (lawful_ignoring fields independent)
    (fun _ _ _ => rfl), kept, Option.map_id_fun, id]

theorem read_members_known (known : String → Bool)
    (claimed : ∀ f ∈ fields, ∀ key, f.answers key = true → known key = true) :
    readMembers fields ignore start { items := members.filter fun m => known m.1 } =
      readMembers fields ignore start { items := members } := by
  have passed (read : Partial α) (m : String × Value) :
      (if known m.1 then readMember fields ignore read m else pure read) = readMember fields ignore read m := by
    by_cases listed : known m.1 = true
    · rw [if_pos listed]
    · have unanswered (f : Field Value α) (member : f ∈ fields) : f.answers m.1 = false :=
        Bool.eq_false_iff.mpr fun answered => listed (claimed f member m.1 answered)
      rw [if_neg listed, read_member_unanswered fields (fun _ _ a => a) ignore (fun _ _ _ => rfl) m.1 unanswered m.2]
      rfl
  unfold readMembers
  simp only [List.foldlM_filter, passed]
  rfl

theorem read_members_same (change : String × Value → String × Value)
    (same : ∀ (read : Partial α) (m : String × Value),
      readMember fields ignore read (change m) = readMember fields ignore read m) :
    readMembers fields ignore start { items := members.map change } =
      readMembers fields ignore start { items := members } := by
  unfold readMembers
  simp only [List.foldlM_map, same]
  rfl

end Plain

end IntentGate.Shape
