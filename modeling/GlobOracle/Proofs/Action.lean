import GlobOracle.Host

/-!
# How actions are taken apart

An action is followed by another one (`>>=`) from the memory that it leaves, unless it fails.  The lemmas
here say so for a single memory, in both directions, so that no later proof looks inside the monad.  What an
action does in a memory is its answer (`Action.answer`) and the memory that it leaves
(`Action.memoryAfter`).
-/

namespace GlobOracle.Action

variable {σ α β : Type} {a : Action σ α} {next : α → Action σ β}
  {p q : Memory σ} {x : α} {y : β} {f : Failure}

@[simp] theorem ofExcept_ok (x : α) (p : Memory σ) :
    (ofExcept (.ok x) : Action σ α) p = .ok x p := rfl

@[simp] theorem ofExcept_error (f : Failure) (p : Memory σ) :
    (ofExcept (.error f) : Action σ α) p = .error f p := rfl

/-- What an action does in one memory is an answer and the memory that it leaves. -/
theorem exists_eq_ofExcept (a : Action σ α) (p : Memory σ) :
    ∃ answer q, a p = ofExcept answer q := by
  cases h : a p with
  | ok x q => exact ⟨.ok x, q, rfl⟩
  | error f q => exact ⟨.error f, q, rfl⟩

/-- An answer is told from others by what it does. -/
theorem ofExcept_inj {r s : Except Failure α} :
    (ofExcept r : Action σ α) p = ofExcept s q ↔ r = s ∧ p = q := by
  cases r <;> cases s <;> simp

theorem bind_of_ok (h : a p = .ok x q) : (a >>= next) p = next x q := by
  show EStateM.bind a next p = next x q
  rw [EStateM.bind, h]

theorem bind_of_error (h : a p = .error f q) : (a >>= next) p = .error f q := by
  show EStateM.bind a next p = .error f q
  rw [EStateM.bind, h]

@[simp] theorem ofExcept_ok_bind (x : α) (next : α → Action σ β) :
    (ofExcept (.ok x) >>= next : Action σ β) = next x := rfl

@[simp] theorem ofExcept_error_bind (f : Failure) (next : α → Action σ β) :
    (ofExcept (.error f) >>= next : Action σ β) = ofExcept (.error f) := rfl

/-- An attempt answers how the action went, and leaves the same memory. -/
theorem attempt_of_eq {answer : Except Failure α} (h : a p = ofExcept answer q) :
    a.attempt p = .ok answer q := by
  cases answer with
  | ok x => simp [attempt, h]
  | error f => simp [attempt, h]

/-- A sequence answers exactly if its first part does and then its second part. -/
theorem bind_eq_ok_iff :
    (a >>= next) p = .ok y q ↔ ∃ x r, a p = .ok x r ∧ next x r = .ok y q := by
  constructor
  · intro h
    cases ha : a p with
    | ok x r => exact ⟨x, r, rfl, by rwa [bind_of_ok ha] at h⟩
    | error f r =>
        rw [bind_of_error ha] at h
        cases h
  · rintro ⟨x, r, ha, hnext⟩
    rw [bind_of_ok ha, hnext]

/-- A sequence fails exactly if its first part does, or answers and then its second part fails. -/
theorem bind_eq_error_iff :
    (a >>= next) p = .error f q ↔
      a p = .error f q ∨ ∃ x r, a p = .ok x r ∧ next x r = .error f q := by
  constructor
  · intro h
    cases ha : a p with
    | ok x r => exact Or.inr ⟨x, r, rfl, by rwa [bind_of_ok ha] at h⟩
    | error g r =>
        rw [bind_of_error ha] at h
        cases h
        exact Or.inl rfl
  · rintro (ha | ⟨x, r, ha, hnext⟩)
    · exact bind_of_error ha
    · rw [bind_of_ok ha, hnext]

/-! ## What is left and what is answered -/

/-- The answer of an action, without the memory that it leaves. -/
def answer (a : Action σ α) (p : Memory σ) : Except Failure α :=
  match a p with
  | .ok x _ => .ok x
  | .error f _ => .error f

theorem answer_of_eq {answer : Except Failure α} (h : a p = ofExcept answer q) :
    a.answer p = answer := by
  cases answer <;> simp [Action.answer, h]

/-- The memory that an action leaves, however it ends. -/
def memoryAfter (a : Action σ α) (p : Memory σ) : Memory σ :=
  match a p with
  | .ok _ q => q
  | .error _ q => q

theorem memoryAfter_of_eq {answer : Except Failure α} (h : a p = ofExcept answer q) :
    a.memoryAfter p = q := by
  cases answer <;> simp [memoryAfter, h]

theorem memoryAfter_of_error (h : a p = .error f q) : a.memoryAfter p = q := by
  rw [memoryAfter, h]

theorem memoryAfter_bind_of_ok (h : a p = .ok x q) :
    (a >>= next).memoryAfter p = (next x).memoryAfter q := by
  rw [memoryAfter, bind_of_ok h]
  rfl

theorem memoryAfter_bind_of_error (h : a p = .error f q) : (a >>= next).memoryAfter p = q := by
  rw [memoryAfter, bind_of_error h]

/-- What an action leaves and answers is all that a sequence goes on from. -/
theorem memoryAfter_bind_of_eq {answer : Except Failure α} (h : a p = ofExcept answer q) :
    (a >>= next).memoryAfter p = (ofExcept answer >>= next).memoryAfter q := by
  cases answer with
  | ok x => exact memoryAfter_bind_of_ok h
  | error f => exact memoryAfter_bind_of_error h

/-- An answer may be put into other words. -/
theorem memoryAfter_bind_pure (a : Action σ α) (told : α → β) (p : Memory σ) :
    (a >>= fun x => pure (told x)).memoryAfter p = a.memoryAfter p := by
  cases h : a p with
  | ok x q =>
      rw [memoryAfter_bind_of_ok h, memoryAfter, memoryAfter, h]
      rfl
  | error f q => rw [memoryAfter_bind_of_error h, memoryAfter_of_error h]

/-- What both parts of a sequence do to the memory the sequence does, if it can be done in two
steps. -/
theorem memoryAfter_bind {R : Memory σ → Memory σ → Prop}
    (htrans : ∀ {p q r}, R p q → R q r → R p r) (ha : R p (a.memoryAfter p))
    (hnext : ∀ x q, a p = .ok x q → R q ((next x).memoryAfter q)) :
    R p ((a >>= next).memoryAfter p) := by
  cases h : a p with
  | ok x q =>
      rw [memoryAfter, h] at ha
      rw [memoryAfter_bind_of_ok h]
      exact htrans ha (hnext x q h)
  | error f q =>
      rw [memoryAfter, h] at ha
      rw [memoryAfter_bind_of_error h]
      exact ha

theorem memoryAfter_attempt (a : Action σ α) (p : Memory σ) :
    a.attempt.memoryAfter p = a.memoryAfter p := by
  unfold memoryAfter attempt
  cases a p <;> rfl

end GlobOracle.Action
