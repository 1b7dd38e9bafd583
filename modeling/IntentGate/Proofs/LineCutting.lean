import IntentGate.Proofs.TextLines

set_option autoImplicit false

namespace IntentGate.Text

inductive Cut : Octets → List Octets → Prop where
  | done : Cut [] []
  | last (line : Octets) (some : line ≠ []) (unbroken : lineFeed ∉ line) : Cut line [line]
  | line (line rest : Octets) (later : List Octets) (unbroken : lineFeed ∉ line) (cut : Cut rest later) :
      Cut (line ++ lineFeed :: rest) (withoutReturn line.reverse :: later)

theorem unbroken_or_line (octets : Octets) :
    lineFeed ∉ octets ∨ ∃ line rest, lineFeed ∉ line ∧ octets = line ++ lineFeed :: rest := by
  by_cases broken : lineFeed ∈ octets
  · obtain ⟨line, rest, split, unbroken⟩ := List.eq_append_cons_of_mem broken
    exact .inr ⟨line, rest, unbroken, split⟩
  · exact .inl broken

theorem lines_cut (octets : Octets) : Cut octets (lines octets) := by
  rcases unbroken_or_line octets with unbroken | ⟨line, rest, unbroken, rfl⟩
  · rw [lines, lines_from_last [] octets unbroken]
    cases octets with
    | nil => exact .done
    | cons octet octets => simpa using Cut.last (octet :: octets) (by simp) unbroken
  · rw [lines, lines_from_line [] line rest unbroken, List.append_nil]
    exact .line line rest (lines rest) unbroken (lines_cut rest)
termination_by octets.length
decreasing_by
  subst_vars
  simp only [List.length_append, List.length_cons]
  omega

theorem cut_lines (octets : Octets) (found : List Octets) (cut : Cut octets found) : lines octets = found := by
  induction cut with
  | done => rfl
  | last line some unbroken =>
      rw [lines, lines_from_last [] line unbroken]
      simp [some]
  | line line rest later unbroken cut ih =>
      rw [lines, lines_from_line [] line rest unbroken, List.append_nil, ← ih]
      rfl

-- Nothing is left of the last line, so that what follows starts a line of its own.
def Ended (octets : Octets) : Prop := octets = [] ∨ octets.getLast? = some lineFeed

theorem ended_rest (line rest : Octets) (ended : Ended (line ++ lineFeed :: rest)) : Ended rest := by
  rcases List.eq_nil_or_concat rest with none | ⟨front, last, split⟩
  · exact .inl none
  · rcases ended with none | feed
    · simp at none
    · refine .inr ?_
      rw [split, List.concat_eq_append] at feed ⊢
      rw [← List.cons_append, ← List.append_assoc, List.getLast?_concat] at feed
      rw [List.getLast?_concat, feed]

theorem ended_line (line rest : Octets) (ended : Ended rest) : Ended (line ++ lineFeed :: rest) := by
  rcases ended with rfl | feed
  · exact .inr (by simp)
  · refine .inr ?_
    rw [List.getLast?_append, List.getLast?_cons, feed]
    rfl

theorem cut_append (octets more : Octets) (found others : List Octets) (cut : Cut octets found) (ended : Ended octets)
    (rest : Cut more others) : Cut (octets ++ more) (found ++ others) := by
  induction cut with
  | done => exact rest
  | last line some unbroken =>
      rcases ended with none | feed
      · exact absurd none some
      · exact absurd (List.mem_of_getLast? feed) unbroken
  | line line tail later unbroken cut ih =>
      rw [List.append_assoc, List.cons_append]
      exact .line line (tail ++ more) _ unbroken (ih (ended_rest line tail ended))

-- A plain line feed would take in a return that stands before it.
def LineEnd.Spares (ending : LineEnd) (octets : Octets) : Prop :=
  ending = .returnFeed ∨ octets.getLast? ≠ some carriageReturn

theorem spares_rest (ending : LineEnd) (line rest : Octets) (spares : ending.Spares (line ++ lineFeed :: rest)) :
    ending.Spares rest := by
  refine spares.imp_right fun whole returned => whole ?_
  rw [List.getLast?_append, List.getLast?_cons, returned]
  rfl

theorem cut_completed (octets : Octets) (found : List Octets) (ending : LineEnd) (cut : Cut octets found)
    (unended : ¬ Ended octets) (spares : ending.Spares octets) :
    Cut (octets ++ ending.octets) found ∧ Ended (octets ++ ending.octets) := by
  induction cut with
  | done => exact absurd (.inl rfl) unended
  | last line some unbroken =>
      cases ending with
      -- The line does not end in a return, which the line feed would make part of the end.
      | feed =>
          have whole : withoutReturn line.reverse = line := by
            rcases without_return_cases line with same | returned
            · exact same
            · rcases spares with plain | kept
              · cases plain
              · rw [returned, List.getLast?_concat] at kept
                exact absurd rfl kept
          have cut := Cut.line line [] [] unbroken .done
          rw [whole] at cut
          exact ⟨cut, ended_line line [] (.inl rfl)⟩
      | returnFeed =>
          have returned : lineFeed ∉ line ++ [carriageReturn] := by
            simpa [show lineFeed ≠ carriageReturn by decide] using unbroken
          have cut := Cut.line (line ++ [carriageReturn]) [] [] returned .done
          have ended := ended_line (line ++ [carriageReturn]) [] (.inl rfl)
          rw [List.append_assoc] at cut ended
          refine ⟨?_, ended⟩
          simpa [withoutReturn, LineEnd.octets] using cut
  | line line rest later unbroken cut ih =>
      have unended : ¬ Ended rest := fun ended => unended (ended_line line rest ended)
      obtain ⟨completed, ended⟩ := ih unended (spares_rest ending line rest spares)
      rw [List.append_assoc, List.cons_append]
      exact ⟨.line line _ later unbroken completed, ended_line line _ ended⟩

theorem lines_append (octets more : Octets) (ended : Ended octets) : lines (octets ++ more) = lines octets ++ lines more :=
  cut_lines _ _ (cut_append octets more _ _ (lines_cut octets) ended (lines_cut more))

theorem lines_completed (octets more : Octets) (ending : LineEnd) (unended : ¬ Ended octets)
    (spares : ending.Spares octets) : lines (octets ++ ending.octets ++ more) = lines octets ++ lines more := by
  obtain ⟨completed, ended⟩ := cut_completed octets _ ending (lines_cut octets) unended spares
  rw [lines_append _ more ended, cut_lines _ _ completed]

end IntentGate.Text
