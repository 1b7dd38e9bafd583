import IntentGate.Proofs.CanonicalForm
import IntentGate.Proofs.FirstFault
import IntentGate.Proofs.TextValue

set_option autoImplicit false

namespace IntentGate.Shape

open Json

variable {δ α β : Type}

section Members

variable (sound : δ → Prop) (property : α → Prop)

def PutKeeps (f : Field δ α) : Prop := ∀ d a b, sound d → property a → f.put d a = .ok b → property b

theorem put_keeps (f : Field δ α) (read : δ → Except Fault β) (set : β → α → α)
    (put : f.put = fun d a => do return set (← read d) a) (good : β → Prop)
    (each : ∀ d x, sound d → read d = .ok x → good x) (sets : ∀ x a, good x → property a → property (set x a)) :
    PutKeeps sound property f := by
  intro d a b whole holds stored
  rw [put] at stored
  obtain ⟨x, found, stored⟩ := (bind_ok_iff _ _ _).mp stored
  cases stored
  exact sets x a (each d x whole found) holds

theorem put_keeps_always (f : Field δ α) (read : δ → Except Fault β) (set : β → α → α)
    (put : f.put = fun d a => do return set (← read d) a) (sets : ∀ x a, property a → property (set x a)) :
    PutKeeps sound property f :=
  put_keeps sound property f read set put (fun _ => True) (fun _ _ _ _ => trivial) fun x a _ => sets x a

variable (fields : List (Field δ α)) (other : String → δ → α → Except Fault α)
  (puts : ∀ f ∈ fields, PutKeeps sound property f)
  (others : ∀ key d a b, fields.any (·.answers key) = false → sound d → property a → other key d a = .ok b → property b)

include puts others

theorem read_member_keeps (read out : Partial α) (m : String × δ) (whole : sound m.2) (holds : property read.value)
    (step : readMember fields other read m = .ok out) : property out.value := by
  unfold readMember at step
  split at step
  · rename_i f found
    split at step
    · cases step
    · obtain ⟨value, stored, last⟩ := (bind_ok_iff _ _ _).mp step
      cases last
      exact puts f (List.mem_of_find?_eq_some found) m.2 read.value value whole holds stored
  · rename_i missed
    obtain ⟨value, stored, last⟩ := (bind_ok_iff _ _ _).mp step
    cases last
    have unclaimed : fields.any (·.answers m.1) = false := by simpa using missed
    exact others m.1 m.2 read.value value unclaimed whole holds stored

theorem fold_members_keeps (members : List (String × δ)) (each : ∀ m ∈ members, sound m.2) (read out : Partial α)
    (holds : property read.value) (folded : members.foldlM (readMember fields other) read = .ok out) :
    property out.value := by
  induction members generalizing read with
  | nil =>
      cases folded
      exact holds
  | cons m rest ih =>
      obtain ⟨whole, later⟩ := List.forall_mem_cons.mp each
      rw [List.foldlM_cons, bind_ok_iff] at folded
      obtain ⟨next, step, folded⟩ := folded
      exact ih later next (read_member_keeps sound property fields other puts others read next m whole holds step) folded

end Members

variable [JsonSource δ]

structure SoundSource (sound : δ → Prop) : Prop where
  float : ∀ d x, sound d → Source.float d = .ok x → x.isFinite = true
  option : ∀ d inner, sound d → Source.option d = .ok (some inner) → sound inner
  list : ∀ d series, sound d → Source.list d = .ok series → ∀ item ∈ series.items, sound item
  object : ∀ expected d series, sound d → Source.object expected d = .ok series → ∀ m ∈ series.items, sound m.2
  value : ∀ d v, sound d → JsonSource.value d = .ok v → v.Proper

theorem value_source_sound : SoundSource Value.Proper where
  float d x proper read := Canonical.read_float_finite d proper x read
  option d inner proper read := by
    cases d <;> cases read <;> exact proper
  list d series proper read := by
    cases d with
    | list items =>
        cases read
        exact (list_proper_iff items).mp proper
    | _ => cases read
  object expected d series proper read := by
    cases d with
    | object fields =>
        cases read
        exact ((object_proper_iff fields).mp proper).2
    | _ => cases read
  value d v proper read := by
    cases read
    exact proper

theorem wrong_draft_fails (d : Draft) (expected : String) (a : α) : wrongDraft d expected ≠ .ok a := by
  intro read
  obtain ⟨found, -, read⟩ := (bind_ok_iff _ _ _).mp read
  cases read

theorem draft_source_sound : SoundSource Draft.Proper where
  float d x proper read := by
    cases proper with
    | number n proper => exact Canonical.read_float_finite (.number n) proper x read
    | _ => exact absurd read (wrong_draft_fails _ _ x)
  option d inner proper read := by
    cases d <;> cases read <;> exact proper
  list d series proper read := by
    cases proper with
    | list items stop each =>
        cases read
        exact each
    | _ => exact absurd read (wrong_draft_fails _ _ series)
  object expected d series proper read := by
    cases proper with
    | object members stop each =>
        cases read
        exact each
    | _ => exact absurd read (wrong_draft_fails _ _ series)
  value d v proper read := draft_value_proper d proper v ((map_error_ok_iff _ _ v).mp read)

section Sound

variable {sound : δ → Prop} (source : SoundSource sound)

include source

theorem option_sound (read : δ → Except Fault β) (good : β → Prop)
    (each : ∀ d b, sound d → read d = .ok b → good b) (d : δ) (x : Option β) (whole : sound d)
    (read_ok : optionOf read d = .ok x) : ∀ b, x = some b → good b := by
  intro b present
  obtain ⟨given, opened, read_ok⟩ := (bind_ok_iff _ _ _).mp read_ok
  cases given with
  | none =>
      cases read_ok
      cases present
  | some inner =>
      obtain ⟨c, found, stored⟩ := (bind_ok_iff _ _ _).mp read_ok
      cases stored
      cases present
      exact each inner b (source.option d inner whole opened) found

theorem list_sound (read : δ → Except Fault β) (good : β → Prop)
    (each : ∀ d b, sound d → read d = .ok b → good b) (d : δ) (l : List β) (whole : sound d)
    (read_ok : listOf read d = .ok l) : ∀ b ∈ l, good b := by
  intro b member
  obtain ⟨series, opened, read_ok⟩ := (bind_ok_iff _ _ _).mp read_ok
  obtain ⟨found, read_all, read_ok⟩ := (bind_ok_iff _ _ _).mp read_ok
  obtain ⟨_, -, stored⟩ := (bind_ok_iff _ _ _).mp read_ok
  cases stored
  obtain ⟨item, among, read_item⟩ := map_m_member read series.items l read_all b member
  exact each item b (source.list d series whole opened item among) read_item

theorem read_open_keeps (property : α → Prop) (name : String) (fields : List (Field δ α))
    (keep : String → Value → α → α) (start : α) (begins : property start)
    (puts : ∀ f ∈ fields, PutKeeps sound property f)
    (keeps : ∀ key v a, fields.any (·.answers key) = false → v.Proper → property a → property (keep key v a))
    (d : δ) (a : α) (whole : sound d) (read : readOpen name fields keep start d = .ok a) : property a := by
  obtain ⟨series, opened, read⟩ := (bind_ok_iff _ _ _).mp read
  obtain ⟨out, folded, read⟩ := (bind_ok_iff _ _ _).mp read
  obtain ⟨_, -, read⟩ := (bind_ok_iff _ _ _).mp read
  have holds : property out.value := by
    refine fold_members_keeps sound property fields _ puts (fun key d a b unclaimed whole holds stored => ?_)
      series.items (source.object _ d series whole opened) _ out begins folded
    obtain ⟨v, found, last⟩ := (bind_ok_iff _ _ _).mp stored
    cases last
    exact keeps key v a unclaimed (source.value d v whole found) holds
  split at read
  · cases read
  · cases read
    exact holds

end Sound

end IntentGate.Shape
