import IntentGate.Proofs.Sequencing
import Mathlib.Data.List.Forall2

set_option autoImplicit false

namespace IntentGate

variable {α β ε : Type}

def FirstFault (sound : α → Prop) (faulty : α → ε → Prop) (items : List α) (e : ε) : Prop :=
  ∃ earlier item later, items = earlier ++ item :: later ∧ (∀ a ∈ earlier, sound a) ∧ faulty item e

theorem first_fault_nil (sound : α → Prop) (faulty : α → ε → Prop) (e : ε) : ¬ FirstFault sound faulty [] e := by
  rintro ⟨earlier, item, later, same, -⟩
  simp at same

theorem first_fault_cons_iff (sound : α → Prop) (faulty : α → ε → Prop) (item : α) (rest : List α) (e : ε) :
    FirstFault sound faulty (item :: rest) e ↔ faulty item e ∨ (sound item ∧ FirstFault sound faulty rest e) := by
  constructor
  · rintro ⟨earlier, bad, later, same, passed, fault⟩
    cases earlier with
    | nil =>
        cases same
        exact .inl fault
    | cons first others =>
        cases same
        obtain ⟨here, passed⟩ := List.forall_mem_cons.mp passed
        exact .inr ⟨here, others, bad, later, rfl, passed, fault⟩
  · rintro (fault | ⟨here, earlier, bad, later, rfl, passed, fault⟩)
    · exact ⟨[], item, rest, rfl, by simp, fault⟩
    · exact ⟨item :: earlier, bad, later, rfl, List.forall_mem_cons.mpr ⟨here, passed⟩, fault⟩

theorem map_m_ok_iff (read : α → Except ε β) (items : List α) (results : List β) :
    items.mapM read = .ok results ↔ List.Forall₂ (fun a b => read a = .ok b) items results := by
  induction items generalizing results with
  | nil =>
      constructor
      · intro done
        cases done
        exact .nil
      · intro none
        cases none
        rfl
  | cons a rest ih =>
      rw [List.mapM_cons, bind_ok_iff]
      constructor
      · rintro ⟨b, first, read_rest⟩
        obtain ⟨tail, others, last⟩ := (bind_ok_iff _ _ _).mp read_rest
        cases last
        exact .cons first ((ih tail).mp others)
      · intro each
        cases each with
        | cons first others => exact ⟨_, first, (bind_ok_iff _ _ _).mpr ⟨_, (ih _).mpr others, rfl⟩⟩

theorem map_m_member (read : α → Except ε β) (items : List α) (l : List β) (read_all : items.mapM read = .ok l) :
    ∀ b ∈ l, ∃ d ∈ items, read d = .ok b := by
  have related := (map_m_ok_iff read items l).mp read_all
  clear read_all
  induction related with
  | nil => simp
  | @cons d b rest tail first others ih =>
      rw [List.forall_mem_cons]
      refine ⟨⟨d, List.mem_cons_self, first⟩, fun c member => ?_⟩
      obtain ⟨other, among, found⟩ := ih c member
      exact ⟨other, List.mem_cons_of_mem d among, found⟩

section Map

variable (read : α → Except ε β) {sound : α → Prop} {faulty : α → ε → Prop}
  (passes : ∀ a, (∃ b, read a = .ok b) ↔ sound a) (fails : ∀ a e, read a = .error e ↔ faulty a e)

include passes

theorem map_m_passes_iff (items : List α) : (∃ results, items.mapM read = .ok results) ↔ ∀ a ∈ items, sound a := by
  simp only [map_m_ok_iff, ← passes]
  induction items with
  | nil => simp
  | cons a rest ih => simp [List.forall₂_cons_left_iff, ← ih]

include fails

theorem map_m_error_iff (items : List α) (e : ε) : items.mapM read = .error e ↔ FirstFault sound faulty items e := by
  induction items with
  | nil =>
      have done : [].mapM read = .ok [] := rfl
      simp [done, first_fault_nil]
  | cons a rest ih =>
      rw [List.mapM_cons, bind_error_iff, first_fault_cons_iff, fails, ← passes, ← ih]
      refine or_congr_right ⟨?_, ?_⟩
      · rintro ⟨b, first, later⟩
        rcases (bind_error_iff _ _ _).mp later with failed | ⟨tail, -, finished⟩
        · exact ⟨⟨b, first⟩, failed⟩
        · cases finished
      · rintro ⟨⟨b, first⟩, failed⟩
        exact ⟨b, first, (bind_error_iff _ _ _).mpr (.inl failed)⟩

end Map

section Fold

variable (step : β → α → Except ε β)

theorem fold_append_ok_iff (items : List α) (a : α) (b last : β) :
    (items ++ [a]).foldlM step b = .ok last ↔ ∃ next, items.foldlM step b = .ok next ∧ step next a = .ok last := by
  rw [List.foldlM_append, bind_ok_iff]
  simp

variable {sound : α → Prop} {faulty : α → ε → Prop} (passes : ∀ b a, (∃ next, step b a = .ok next) ↔ sound a)
  (fails : ∀ b a e, step b a = .error e ↔ faulty a e)

include passes

theorem fold_passes_iff (items : List α) (b : β) :
    (∃ last, items.foldlM step b = .ok last) ↔ ∀ a ∈ items, sound a := by
  induction items generalizing b with
  | nil => exact ⟨fun _ => by simp, fun _ => ⟨b, rfl⟩⟩
  | cons a rest ih =>
      rw [List.forall_mem_cons, ← passes b a]
      simp only [List.foldlM_cons, bind_ok_iff]
      constructor
      · rintro ⟨last, next, taken, later⟩
        exact ⟨⟨next, taken⟩, (ih next).mp ⟨last, later⟩⟩
      · rintro ⟨⟨next, taken⟩, others⟩
        obtain ⟨last, later⟩ := (ih next).mpr others
        exact ⟨last, next, taken, later⟩

include fails

theorem fold_error_iff (items : List α) (b : β) (e : ε) :
    items.foldlM step b = .error e ↔ FirstFault sound faulty items e := by
  induction items generalizing b with
  | nil =>
      have done : [].foldlM step b = .ok b := rfl
      simp [done, first_fault_nil]
  | cons a rest ih =>
      rw [List.foldlM_cons, bind_error_iff, first_fault_cons_iff, fails, ← passes b a]
      refine or_congr_right ⟨?_, ?_⟩
      · rintro ⟨next, taken, later⟩
        exact ⟨⟨next, taken⟩, (ih next).mp later⟩
      · rintro ⟨⟨next, taken⟩, later⟩
        exact ⟨next, taken, (ih next).mpr later⟩

end Fold

section Checks

variable (check : α → Except ε Unit)

theorem for_m_eq_fold (items : List α) : items.forM check = items.foldlM (fun _ a => check a) () := by
  induction items with
  | nil => rfl
  | cons a rest ih =>
      change (check a >>= fun _ => rest.forM check) = _
      rw [ih, List.foldlM_cons]

variable {sound : α → Prop} {faulty : α → ε → Prop} (passes : ∀ a, check a = .ok () ↔ sound a)

include passes

theorem check_passes_iff (a : α) : (∃ done, check a = .ok done) ↔ sound a :=
  ⟨fun ⟨_, passed⟩ => (passes a).mp passed, fun holds => ⟨(), (passes a).mpr holds⟩⟩

theorem for_m_ok_iff (items : List α) : items.forM check = .ok () ↔ ∀ a ∈ items, sound a := by
  rw [for_m_eq_fold, ← fold_passes_iff (fun _ a => check a) (fun _ => check_passes_iff check passes) items ()]
  exact ⟨fun done => ⟨(), done⟩, fun ⟨_, done⟩ => done⟩

theorem for_m_error_iff (fails : ∀ a e, check a = .error e ↔ faulty a e) (items : List α) (e : ε) :
    items.forM check = .error e ↔ FirstFault sound faulty items e := by
  rw [for_m_eq_fold]
  exact fold_error_iff _ (fun _ => check_passes_iff check passes) (fun _ => fails) items () e

end Checks

end IntentGate
