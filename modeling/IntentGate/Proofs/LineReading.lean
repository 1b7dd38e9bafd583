import IntentGate.Message.Lines
import IntentGate.Proofs.Sequencing
import Mathlib.Data.List.Forall2

set_option autoImplicit false

namespace IntentGate

open Json Shape Text

def blankLine (line : Octets) : Bool := (decode? line).any isBlank

def filledLines (octets : Octets) : List Octets := (lines octets).filter fun line => !blankLine line

structure Spells (line : Octets) (m : Message) : Prop where
  filled : blankLine line = false
  spelled : ∃ s, decode? line = some s ∧ readText readMessage s = .ok m

inductive Defect (number : Nat) (line : Octets) : InputError → Prop where
  | notText (undecoded : decode? line = none) : Defect number line .notText
  | malformed (s : String) (fault : Fault) (decoded : decode? line = some s) (filled : isBlank s = false)
      (refused : readText readMessage s = .error fault) : Defect number line (.malformed number fault)

def Undecodable (line : Octets) : Prop := ∃ number e, Defect number line e

theorem message_on_ok_iff (number : Nat) (line : Octets) (read : Option Message) :
    messageOn? number line = .ok read ↔
      (blankLine line = true ∧ read = none) ∨ ∃ m, Spells line m ∧ read = some m := by
  unfold messageOn? blankLine
  cases decoded : decode? line with
  | none =>
      simp only [Option.any_none, Bool.false_eq_true, false_and, false_or]
      constructor
      · intro taken
        cases taken
      · rintro ⟨m, ⟨-, s, text, -⟩, -⟩
        rw [decoded] at text
        cases text
  | some s =>
      have spells (m : Message) : Spells line m ↔ isBlank s = false ∧ readText readMessage s = .ok m := by
        constructor
        · rintro ⟨filled, s', text, found⟩
          cases decoded.symm.trans text
          exact ⟨by simpa [blankLine, decoded] using filled, found⟩
        · rintro ⟨filled, found⟩
          exact ⟨by simpa [blankLine, decoded] using filled, s, decoded, found⟩
      simp only [Option.any_some, spells]
      cases blank : isBlank s with
      | true =>
          simp only [if_true, true_and, Bool.true_eq_false, false_and, exists_false, or_false]
          exact ⟨fun passed => (Except.ok.inj passed).symm, fun passed => congrArg Except.ok passed.symm⟩
      | false =>
          simp only [Bool.false_eq_true, if_false, false_and, false_or, true_and, map_error_ok_iff, map_ok_iff]
          exact exists_congr fun m => and_congr_right fun _ => eq_comm

theorem message_on_error_iff (number : Nat) (line : Octets) (e : InputError) :
    messageOn? number line = .error e ↔ Defect number line e := by
  unfold messageOn?
  constructor
  · intro failed
    cases decoded : decode? line with
    | none =>
        rw [decoded] at failed
        cases failed
        exact .notText decoded
    | some s =>
        rw [decoded] at failed
        cases blank : isBlank s with
        | true =>
            simp only [blank, if_true] at failed
            cases failed
        | false =>
            simp only [blank, Bool.false_eq_true, if_false] at failed
            obtain ⟨fault, refused, rfl⟩ := (map_error_error_iff _ _ _).mp failed
            exact .malformed s fault decoded blank ((map_failed_iff _ _ _).mp refused)
  · intro defect
    cases defect with
    | notText undecoded => rw [undecoded]
    | malformed s fault decoded filled refused =>
        simp only [decoded, filled, Bool.false_eq_true, if_false, refused]
        rfl

theorem undecodable_iff (number : Nat) (line : Octets) : Undecodable line ↔ ∃ e, Defect number line e := by
  constructor
  · rintro ⟨other, e, defect⟩
    cases defect with
    | notText undecoded => exact ⟨_, .notText undecoded⟩
    | malformed s fault decoded filled refused => exact ⟨_, .malformed s fault decoded filled refused⟩
  · rintro ⟨e, defect⟩
    exact ⟨number, e, defect⟩

theorem messages_from_ok_iff (number : Nat) (input : List Octets) (messages : List Message) :
    messagesFrom number input = .ok messages ↔
      List.Forall₂ Spells (input.filter fun line => !blankLine line) messages := by
  induction input generalizing number messages with
  | nil =>
      constructor
      · intro read
        cases read
        exact .nil
      · intro spelled
        cases spelled
        rfl
  | cons line rest ih =>
      rw [messagesFrom, bind_ok_iff]
      cases blank : blankLine line with
      -- A blank line gives no message, but has a number of its own.
      | true =>
          rw [List.filter_cons_of_neg (by simp [blank]), ← ih (number + 1)]
          constructor
          · rintro ⟨read, here, later⟩
            rcases (message_on_ok_iff number line read).mp here with ⟨-, rfl⟩ | ⟨m, spells, rfl⟩
            · exact later
            · rw [spells.filled] at blank
              cases blank
          · intro later
            exact ⟨none, (message_on_ok_iff number line none).mpr (.inl ⟨blank, rfl⟩), later⟩
      | false =>
          rw [List.filter_cons_of_pos (by simp [blank])]
          constructor
          · rintro ⟨read, here, later⟩
            rcases (message_on_ok_iff number line read).mp here with ⟨passed, -⟩ | ⟨m, spells, rfl⟩
            · rw [passed] at blank
              cases blank
            · obtain ⟨tail, others, last⟩ := (bind_ok_iff _ _ _).mp later
              cases last
              exact .cons spells ((ih (number + 1) tail).mp others)
          · intro spelled
            cases spelled with
            | cons spells others =>
                refine ⟨some _, (message_on_ok_iff number line _).mpr (.inr ⟨_, spells, rfl⟩), ?_⟩
                exact (bind_ok_iff _ _ _).mpr ⟨_, (ih (number + 1) _).mpr others, rfl⟩

def FirstDefect (number : Nat) (input : List Octets) (e : InputError) : Prop :=
  ∃ earlier line later, input = earlier ++ line :: later ∧ (∀ l ∈ earlier, ¬ Undecodable l) ∧
    Defect (number + earlier.length) line e

theorem first_defect_cons_iff (number : Nat) (line : Octets) (rest : List Octets) (e : InputError) :
    FirstDefect number (line :: rest) e ↔
      Defect number line e ∨ (¬ Undecodable line ∧ FirstDefect (number + 1) rest e) := by
  constructor
  · rintro ⟨earlier, bad, later, same, passed, defect⟩
    cases earlier with
    | nil =>
        cases same
        exact .inl defect
    | cons first others =>
        cases same
        obtain ⟨here, passed⟩ := List.forall_mem_cons.mp passed
        refine .inr ⟨here, others, bad, later, rfl, passed, ?_⟩
        rw [List.length_cons, Nat.add_comm others.length, ← Nat.add_assoc] at defect
        exact defect
  · rintro (defect | ⟨here, earlier, bad, later, rfl, passed, defect⟩)
    · exact ⟨[], line, rest, rfl, by simp, defect⟩
    · refine ⟨line :: earlier, bad, later, rfl, List.forall_mem_cons.mpr ⟨here, passed⟩, ?_⟩
      rw [List.length_cons, Nat.add_comm earlier.length, ← Nat.add_assoc]
      exact defect

theorem messages_from_error_iff (number : Nat) (input : List Octets) (e : InputError) :
    messagesFrom number input = .error e ↔ FirstDefect number input e := by
  induction input generalizing number with
  | nil =>
      constructor
      · intro failed
        cases failed
      · rintro ⟨earlier, line, later, same, -⟩
        simp at same
  | cons line rest ih =>
      rw [messagesFrom, bind_error_iff, message_on_error_iff, first_defect_cons_iff, ← ih (number + 1)]
      refine or_congr_right ⟨?_, ?_⟩
      · rintro ⟨read, here, later⟩
        refine ⟨fun bad => ?_, ?_⟩
        · obtain ⟨other, defect⟩ := (undecodable_iff number line).mp bad
          rw [(message_on_error_iff number line other).mpr defect] at here
          cases here
        · cases read with
          | none => exact later
          | some m =>
              rcases (bind_error_iff _ _ _).mp later with failed | ⟨tail, -, finished⟩
              · exact failed
              · cases finished
      · rintro ⟨fine, failed⟩
        cases here : messageOn? number line with
        | error other => exact absurd ⟨number, other, (message_on_error_iff number line other).mp here⟩ fine
        | ok read =>
            refine ⟨read, rfl, ?_⟩
            cases read with
            | none => exact failed
            | some m => exact (bind_error_iff _ _ _).mpr (.inl failed)

theorem read_messages_ok_iff (octets : Octets) (messages : List Message) :
    readMessages octets = .ok messages ↔ List.Forall₂ Spells (filledLines octets) messages :=
  messages_from_ok_iff 1 (lines octets) messages

theorem read_messages_error_iff (octets : Octets) (e : InputError) :
    readMessages octets = .error e ↔ FirstDefect 1 (lines octets) e :=
  messages_from_error_iff 1 (lines octets) e

theorem first_defect_exists (number : Nat) (input : List Octets) (line : Octets) (member : line ∈ input)
    (bad : Undecodable line) : ∃ e, FirstDefect number input e := by
  induction input generalizing number with
  | nil => cases member
  | cons first rest ih =>
      by_cases here : Undecodable first
      · obtain ⟨e, defect⟩ := (undecodable_iff number first).mp here
        exact ⟨e, (first_defect_cons_iff number first rest e).mpr (.inl defect)⟩
      · rcases List.mem_cons.mp member with rfl | later
        · exact absurd bad here
        · obtain ⟨e, found⟩ := ih (number + 1) later
          exact ⟨e, (first_defect_cons_iff number first rest e).mpr (.inr ⟨here, found⟩)⟩

end IntentGate
