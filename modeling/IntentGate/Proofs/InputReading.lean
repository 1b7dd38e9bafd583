import IntentGate.Proofs.LineReading
import IntentGate.Proofs.LineCutting

set_option autoImplicit false

namespace IntentGate

open Json Shape Text

def Decodable (line : Octets) : Prop :=
  ∃ s, decode? line = some s ∧ (isBlank s = true ∨ ∃ m, readText readMessage s = .ok m)

theorem decodable_iff (line : Octets) : Decodable line ↔ ¬ Undecodable line := by
  constructor
  · rintro ⟨s, decoded, fine⟩ ⟨number, e, defect⟩
    cases defect with
    | notText undecoded => cases decoded.symm.trans undecoded
    | malformed s' fault text filled refused =>
        cases decoded.symm.trans text
        rcases fine with blank | ⟨m, read⟩
        · cases blank.symm.trans filled
        · cases read.symm.trans refused
  · intro fine
    cases decoded : decode? line with
    | none => exact absurd ⟨1, _, .notText decoded⟩ fine
    | some s =>
        refine ⟨s, decoded, ?_⟩
        cases blank : isBlank s with
        | true => exact .inl rfl
        | false =>
            cases read : readText readMessage s with
            | ok m => exact .inr ⟨m, rfl⟩
            | error fault => exact absurd ⟨1, _, .malformed s fault decoded blank read⟩ fine

theorem first_defect_member (number : Nat) (input : List Octets) (e : InputError) (first : FirstDefect number input e) :
    ∃ line ∈ input, Undecodable line := by
  obtain ⟨earlier, line, later, rfl, -, defect⟩ := first
  exact ⟨line, by simp, _, _, defect⟩

theorem read_messages_exists_iff (octets : Octets) :
    (∃ messages, readMessages octets = .ok messages) ↔ ∀ line ∈ lines octets, Decodable line := by
  constructor
  · rintro ⟨messages, read⟩ line member
    rw [decodable_iff]
    intro bad
    obtain ⟨e, first⟩ := first_defect_exists 1 _ line member bad
    cases read.symm.trans ((read_messages_error_iff octets e).mpr first)
  · intro each
    cases read : readMessages octets with
    | ok messages => exact ⟨messages, rfl⟩
    | error e =>
        obtain ⟨line, member, bad⟩ := first_defect_member 1 _ e ((read_messages_error_iff octets e).mp read)
        exact absurd bad ((decodable_iff line).mp (each line member))

theorem first_defect_append (number : Nat) (input more : List Octets) (e : InputError) (first : FirstDefect number input e) :
    FirstDefect number (input ++ more) e := by
  obtain ⟨earlier, line, later, rfl, passed, defect⟩ := first
  exact ⟨earlier, line, later ++ more, by simp, passed, defect⟩

theorem first_defect_exchange (number : Nat) (earlier later others : List Octets) (line : Octets) (e : InputError)
    (bad : Undecodable line) (first : FirstDefect number (earlier ++ line :: later) e) :
    FirstDefect number (earlier ++ line :: others) e := by
  induction earlier generalizing number with
  | nil =>
      rcases (first_defect_cons_iff number line later e).mp first with defect | ⟨fine, -⟩
      · exact (first_defect_cons_iff number line others e).mpr (.inl defect)
      · exact absurd bad fine
  | cons head earlier ih =>
      rcases (first_defect_cons_iff number head _ e).mp first with defect | ⟨fine, rest⟩
      · exact (first_defect_cons_iff number head _ e).mpr (.inl defect)
      · exact (first_defect_cons_iff number head _ e).mpr (.inr ⟨fine, ih (number + 1) rest⟩)

theorem read_messages_exact (octets : Octets) :
    Cut octets (lines octets) ∧
    ((∃ messages, readMessages octets = .ok messages) ↔ ∀ line ∈ lines octets, Decodable line) ∧
    (∀ messages, readMessages octets = .ok messages ↔ List.Forall₂ Spells (filledLines octets) messages) ∧
    (∀ e, readMessages octets = .error e ↔
      ∃ earlier line later, lines octets = earlier ++ line :: later ∧ (∀ l ∈ earlier, Decodable l) ∧
        Defect (earlier.length + 1) line e) ∧
    (∀ e, readMessages octets = .error e →
      (∀ earlier line later other others, lines octets = earlier ++ line :: later → ¬ Decodable line →
        lines other = earlier ++ line :: others → readMessages other = .error e) ∧
      (Ended octets → ∀ more, readMessages (octets ++ more) = .error e) ∧
      (¬ Ended octets → ∀ ending : LineEnd, ending.Spares octets → ∀ more,
        readMessages (octets ++ ending.octets ++ more) = .error e)) := by
  refine ⟨lines_cut octets, read_messages_exists_iff octets, read_messages_ok_iff octets, fun e => ?_, fun e failed => ?_⟩
  · rw [read_messages_error_iff, FirstDefect]
    simp only [decodable_iff, Nat.add_comm 1]
  · have first := (read_messages_error_iff octets e).mp failed
    refine ⟨fun earlier line later other others split bad same => ?_, fun ended more => ?_,
      fun unended ending spares more => ?_⟩
    · rw [decodable_iff, not_not] at bad
      rw [split] at first
      rw [read_messages_error_iff, same]
      exact first_defect_exchange 1 earlier later others line e bad first
    · rw [read_messages_error_iff, lines_append octets more ended]
      exact first_defect_append 1 _ _ e first
    · rw [read_messages_error_iff, lines_completed octets more ending unended spares]
      exact first_defect_append 1 _ _ e first

theorem read_messages_exact_third :
    let octets := encode " \n\x7b\"text\":\"a\"\x7d\r\nnot json"
    lines octets = [encode " ", encode "\x7b\"text\":\"a\"\x7d", encode "not json"] ∧ ¬ Ended octets ∧
      readMessages octets = .error (.malformed 3 (.trouble .malformed)) ∧
      readMessages (octets ++ LineEnd.feed.octets ++ [255, lineFeed]) = .error (.malformed 3 (.trouble .malformed)) := by
  intro octets
  have cut : lines octets = [encode " ", encode "\x7b\"text\":\"a\"\x7d", encode "not json"] := by decide +kernel
  have unended : ¬ Ended octets := by
    unfold Ended
    decide +kernel
  have spares : LineEnd.feed.Spares octets := .inr (by decide +kernel)
  have blank : Decodable (encode " ") := ⟨_, decode_encode _, .inl (by decide)⟩
  have greeted : readText readMessage "\x7b\"text\":\"a\"\x7d" = .ok { text := "a" } := by
    with_unfolding_all rfl
  have filled : Decodable (encode "\x7b\"text\":\"a\"\x7d") := ⟨_, decode_encode _, .inr ⟨_, greeted⟩⟩
  have refused : (readText readMessage "not json").map (fun _ => ()) = .error (.trouble .malformed) := by
    decide +kernel
  have defect : Defect 3 (encode "not json") (.malformed 3 (.trouble .malformed)) :=
    .malformed "not json" _ (decode_encode _) (by decide) ((map_failed_iff _ _ _).mp refused)
  obtain ⟨-, -, -, fails, keeps⟩ := read_messages_exact octets
  have failed : readMessages octets = .error (.malformed 3 (.trouble .malformed)) := by
    rw [fails]
    exact ⟨[encode " ", encode "\x7b\"text\":\"a\"\x7d"], _, [], cut, by simp [blank, filled], defect⟩
  obtain ⟨-, -, completed⟩ := keeps _ failed
  exact ⟨cut, unended, failed, completed unended .feed spares [255, lineFeed]⟩

end IntentGate
