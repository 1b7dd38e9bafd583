set_option autoImplicit false

namespace IntentGate

variable {α β ε ε' : Type}

theorem bind_ok_iff (x : Except ε α) (next : α → Except ε β) (b : β) :
    (x >>= next) = .ok b ↔ ∃ a, x = .ok a ∧ next a = .ok b := by
  cases x with
  | error e => simp [bind, Except.bind]
  | ok a => simp [bind, Except.bind]

theorem bind_error_iff (x : Except ε α) (next : α → Except ε β) (e : ε) :
    (x >>= next) = .error e ↔ x = .error e ∨ ∃ a, x = .ok a ∧ next a = .error e := by
  cases x with
  | error found => simp [bind, Except.bind]
  | ok a => simp [bind, Except.bind]

theorem map_ok_iff (f : α → β) (x : Except ε α) (b : β) : x.map f = .ok b ↔ ∃ a, x = .ok a ∧ f a = b := by
  cases x with
  | error e => simp [Except.map]
  | ok a => simp [Except.map]

theorem map_failed_iff (f : α → β) (x : Except ε α) (e : ε) : x.map f = .error e ↔ x = .error e := by
  cases x with
  | error found => simp [Except.map]
  | ok a => simp [Except.map]

theorem map_error_ok_iff (rename : ε → ε') (x : Except ε α) (a : α) : x.mapError rename = .ok a ↔ x = .ok a := by
  cases x with
  | error e => constructor <;> intro same <;> cases same
  | ok found => constructor <;> intro same <;> cases same <;> rfl

theorem map_error_error_iff (rename : ε → ε') (x : Except ε α) (e' : ε') :
    x.mapError rename = .error e' ↔ ∃ e, x = .error e ∧ rename e = e' := by
  cases x with
  | ok a =>
      constructor
      · intro failed
        cases failed
      · rintro ⟨e, failed, -⟩
        cases failed
  | error e =>
      constructor
      · intro failed
        exact ⟨e, rfl, Except.error.inj failed⟩
      · rintro ⟨_, same, rfl⟩
        cases same
        rfl

theorem to_option_some_iff (x : Except ε α) (a : α) : x.toOption = some a ↔ x = .ok a := by
  cases x with
  | error e => simp [Except.toOption]
  | ok found => simp [Except.toOption]

end IntentGate
