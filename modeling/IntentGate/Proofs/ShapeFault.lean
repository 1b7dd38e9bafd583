import IntentGate.Proofs.Sequencing
import IntentGate.Shape.Json

set_option autoImplicit false

namespace IntentGate.Shape

open Json

variable {α β : Type}

def Readable (result : Except Fault α) : Prop := ∀ t, result ≠ .error (.trouble t)

theorem readable_ok (a : α) : Readable (.ok a) := by
  intro t same
  cases same

theorem readable_mismatch (m : Mismatch) : Readable (.error (.data m) : Except Fault α) := by
  intro t same
  cases same

theorem readable_bind (x : Except Fault α) (next : α → Except Fault β) (first : Readable x)
    (later : ∀ a, Readable (next a)) : Readable (x >>= next) := by
  cases x with
  | error fault => exact fun t same => first t (congrArg Except.error (Except.error.inj same))
  | ok a => exact later a

theorem map_m_readable {δ : Type} (read : δ → Except Fault β) (each : ∀ d, Readable (read d)) (items : List δ) :
    Readable (items.mapM read) := by
  induction items with
  | nil => exact readable_ok []
  | cons d rest ih =>
      rw [List.mapM_cons]
      exact readable_bind _ _ (each d) fun b => readable_bind _ _ ih fun l => readable_ok (b :: l)

theorem fold_m_readable {δ : Type} (step : α → δ → Except Fault α) (each : ∀ a d, Readable (step a d)) (items : List δ)
    (a : α) : Readable (items.foldlM step a) := by
  induction items generalizing a with
  | nil => exact readable_ok a
  | cons d rest ih =>
      rw [List.foldlM_cons]
      exact readable_bind _ _ (each a d) ih

section Readable

variable (read : Value → Except Fault β) (each : ∀ v, Readable (read v))

include each

theorem list_readable (v : Value) : Readable (listOf read v) := by
  cases v with
  | list items => exact readable_bind (items.mapM read) .ok (map_m_readable read each items) readable_ok
  | _ => exact readable_mismatch _

theorem option_readable (v : Value) : Readable (optionOf read v) := by
  cases v with
  | null => exact readable_ok none
  | _ => exact readable_bind (read _) (fun b => .ok (some b)) (each _) fun b => readable_ok (some b)

theorem map_readable (v : Value) : Readable (mapOf read v) := by
  cases v with
  | object members =>
      have entry (m : String × Value) : Readable (do return (m.1, ← read m.2) : Except Fault (String × β)) :=
        readable_bind _ _ (each m.2) fun b => readable_ok (m.1, b)
      exact readable_bind _ (fun entries => .ok (Table.ofList entries)) (map_m_readable _ entry members) fun entries =>
        readable_ok (Table.ofList entries)
  | _ => exact readable_mismatch _

theorem put_readable (f : Field Value α) (set : β → α → α) (put : f.put = fun d a => do return set (← read d) a)
    (v : Value) (a : α) : Readable (f.put v a) := by
  rw [put]
  exact readable_bind _ _ (each v) fun b => readable_ok (set b a)

end Readable

section Readable

variable (fields : List (Field Value α)) (puts : ∀ f ∈ fields, ∀ v a, Readable (f.put v a))

include puts

theorem read_member_readable (read : Partial α) (m : String × Value) : Readable (readMember fields ignore read m) := by
  unfold readMember
  split
  · rename_i f found
    have stored := puts f (List.mem_of_find?_eq_some found) m.2 read.value
    by_cases seen : f.name ∈ read.seen
    · rw [if_pos seen]
      exact readable_mismatch _
    · rw [if_neg seen]
      exact readable_bind _ _ stored fun a => readable_ok _
  · exact readable_ok _

theorem read_members_readable (start : α) (members : Fields) :
    Readable (readMembers fields ignore start { items := members }) := by
  refine readable_bind _ _ (fold_m_readable _ (read_member_readable fields puts) members _) fun read => ?_
  refine readable_bind _ _ (readable_ok ()) fun _ => ?_
  cases missing? fields read.seen with
  | some name => exact readable_mismatch _
  | none => exact readable_ok _

theorem read_values_readable (mismatch : Nat → Mismatch) (count : Nat) (value : α) (items : List Value) :
    Readable (readValues fields (fun n => .data (mismatch n)) (.ok ()) count value items) := by
  induction fields generalizing count value items with
  | nil => exact readable_ok _
  | cons f fields ih =>
      obtain ⟨here, later⟩ := List.forall_mem_cons.mp puts
      cases items with
      | cons v rest => exact readable_bind _ _ (here v value) fun a => ih later (count + 1) a rest
      | nil =>
          refine readable_bind _ _ (readable_ok ()) fun _ => ?_
          by_cases defaulted : f.need = .defaulted
          · rw [if_pos defaulted]
            exact ih later (count + 1) value []
          · rw [if_neg defaulted]
            exact readable_mismatch _

theorem read_items_readable (expected : String) (start : α) (items : List Value) :
    Readable (readBody expected fields start (.items { items })) := by
  unfold readBody
  refine readable_bind _ _ (read_values_readable fields puts _ 0 start items) fun out => ?_
  obtain ⟨value, rest⟩ := out
  cases rest with
  | nil => exact readable_ok value
  | cons v rest => exact readable_mismatch _

theorem read_plain_readable (name : String) (start : α) (v : Value) : Readable (readPlain name fields start v) := by
  cases v with
  | object members => exact read_members_readable fields puts start members
  | list items => exact read_items_readable fields puts _ start items
  | _ => exact readable_mismatch _

end Readable

end IntentGate.Shape
