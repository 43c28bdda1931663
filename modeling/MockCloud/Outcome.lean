/-! # Outcomes

An operation on a state gives an answer or an error, and either way the state that it leaves. That the
state comes back beside an error is the point: an operation may fail after it has changed something, and
whether one does is a theorem about it.

* `Outcome.guard` stops before any change, `Outcome.bind` goes on from the state reached. -/

namespace MockCloud

/-- The result of an operation on states `σ` with errors `ε` and answers `α`, and the state left. -/
structure Outcome (σ ε α : Type) where
  result : Except ε α
  state : σ

namespace Outcome

variable {σ τ ε ε' α β : Type}

/-- An answer. -/
def ok (a : α) (s : σ) : Outcome σ ε α :=
  ⟨.ok a, s⟩

/-- An error. -/
def fail (e : ε) (s : σ) : Outcome σ ε α :=
  ⟨.error e, s⟩

/-- Goes on only when the check passes; a check changes nothing. -/
def guard (check : Except ε β) (s : σ) (next : β → Outcome σ ε α) : Outcome σ ε α :=
  match check with
  | .error e => fail e s
  | .ok b => next b

/-- Goes on from the answer and the state reached; an error ends the operation there. -/
def bind (o : Outcome σ ε β) (next : β → σ → Outcome σ ε α) : Outcome σ ε α :=
  match o.result with
  | .error e => fail e o.state
  | .ok b => next b o.state

/-- The outcome with another answer. -/
def map (o : Outcome σ ε α) (f : α → β) : Outcome σ ε β :=
  ⟨o.result.map f, o.state⟩

/-- The outcome of an operation on a part, seen as one on the whole. -/
def within (o : Outcome σ ε α) (put : σ → τ) : Outcome τ ε α :=
  ⟨o.result, put o.state⟩

/-- The outcome with another error. -/
def mapError (o : Outcome σ ε α) (f : ε → ε') : Outcome σ ε' α :=
  ⟨o.result.mapError f, o.state⟩

/-- The answer is of no interest. -/
def done (o : Outcome σ ε α) : Outcome σ ε Unit :=
  o.map fun _ => ()

@[simp] theorem result_ok (a : α) (s : σ) : (ok a s : Outcome σ ε α).result = .ok a := rfl

@[simp] theorem state_ok (a : α) (s : σ) : (ok a s : Outcome σ ε α).state = s := rfl

@[simp] theorem result_fail (e : ε) (s : σ) : (fail e s : Outcome σ ε α).result = .error e := rfl

@[simp] theorem state_fail (e : ε) (s : σ) : (fail e s : Outcome σ ε α).state = s := rfl

@[simp] theorem state_within (o : Outcome σ ε α) (put : σ → τ) :
    (o.within put).state = put o.state :=
  rfl

@[simp] theorem state_mapError (o : Outcome σ ε α) (f : ε → ε') : (o.mapError f).state = o.state :=
  rfl

theorem result_mapError (o : Outcome σ ε α) (f : ε → ε') : (o.mapError f).result = o.result.mapError f :=
  rfl

/-- Whether a checked operation fails, and how, is seen from the check and from what is done next. -/
theorem result_guard (check : Except ε β) (s : σ) (next : β → Outcome σ ε α) :
    (guard check s next).result = check.bind fun b => (next b).result := by
  cases check <;> rfl

theorem eq_ok_of_result {o : Outcome σ ε α} {a : α} (h : o.result = .ok a) : o = .ok a o.state :=
  congrArg (Outcome.mk · o.state) h

/-! ### How an outcome comes about -/

theorem guard_cases (check : Except ε β) (s : σ) (next : β → Outcome σ ε α) :
    (∃ e, check = .error e ∧ guard check s next = fail e s) ∨
      ∃ b, check = .ok b ∧ guard check s next = next b := by
  cases check with
  | error e => exact .inl ⟨e, rfl, rfl⟩
  | ok b => exact .inr ⟨b, rfl, rfl⟩

theorem guard_mapError_cases (check : Except ε' β) (f : ε' → ε) (s : σ) (next : β → Outcome σ ε α) :
    (∃ e, check = .error e ∧ guard (check.mapError f) s next = fail (f e) s) ∨
      ∃ b, check = .ok b ∧ guard (check.mapError f) s next = next b := by
  cases check with
  | error e => exact .inl ⟨e, rfl, rfl⟩
  | ok b => exact .inr ⟨b, rfl, rfl⟩

@[simp] theorem guard_ok (b : β) (s : σ) (next : β → Outcome σ ε α) :
    guard (.ok b) s next = next b := rfl

@[simp] theorem guard_error (e : ε) (s : σ) (next : β → Outcome σ ε α) :
    guard (.error e) s next = fail e s := rfl

@[simp] theorem bind_ok (b : β) (s : σ) (next : β → σ → Outcome σ ε α) :
    (ok b s).bind next = next b s := rfl

@[simp] theorem bind_fail (e : ε) (s : σ) (next : β → σ → Outcome σ ε α) :
    (fail e s).bind next = fail e s := rfl

@[simp] theorem map_ok (b : β) (s : σ) (f : β → α) : (ok b s : Outcome σ ε β).map f = ok (f b) s := rfl

@[simp] theorem map_fail (e : ε) (s : σ) (f : β → α) : (fail e s).map f = fail e s := rfl

@[simp] theorem within_ok (a : α) (s : σ) (put : σ → τ) :
    (ok a s : Outcome σ ε α).within put = ok a (put s) := rfl

@[simp] theorem within_fail (e : ε) (s : σ) (put : σ → τ) :
    (fail e s : Outcome σ ε α).within put = fail e (put s) := rfl

@[simp] theorem mapError_ok (a : α) (s : σ) (f : ε → ε') :
    (ok a s : Outcome σ ε α).mapError f = ok a s := rfl

@[simp] theorem mapError_fail (e : ε) (s : σ) (f : ε → ε') :
    (fail e s : Outcome σ ε α).mapError f = fail (f e) s := rfl

@[simp] theorem done_ok (a : α) (s : σ) : (ok a s : Outcome σ ε α).done = ok () s := rfl

theorem result_done_of_result {o : Outcome σ ε α} {a : α} (h : o.result = .ok a) : o.done.result = .ok () := by
  rw [eq_ok_of_result h]
  rfl

theorem done_map (o : Outcome σ ε β) (f : β → α) : (o.map f).done = o.done := by
  obtain ⟨_ | _, _⟩ := o <;> rfl

theorem done_eq (o : Outcome σ ε Unit) : o.done = o := by
  obtain ⟨_ | _, _⟩ := o <;> rfl

end Outcome

end MockCloud
