import MockCloud.Text.Wildcard

/-! # What a pattern stands for

A text comes from a pattern if each `*` in it is replaced by a run of characters and each `?` by one character, none of
them a line feed, and everything else is kept. The test reads the text once with all ways to go on at a time, so no
choice for a `*` is ever taken back.

* `Glob`: the text comes from the pattern.
* `exists_advance_iff`: one character read, from all places where matching may go on.
* `fits_iff`: a text fits a pattern exactly if it comes from it. -/

namespace MockCloud.Text.Wildcard

/-- The text comes from the pattern by replacing every wildcard. -/
inductive Glob : List Char → List Char → Prop
  | nil : Glob [] []
  | run {p t run : List Char} (plain : '\n' ∉ run) (rest : Glob p t) : Glob ('*' :: p) (run ++ t)
  | one {p t : List Char} {c : Char} (plain : c ≠ '\n') (rest : Glob p t) : Glob ('?' :: p) (c :: t)
  | same {p t : List Char} {c : Char} (notRun : c ≠ '*') (notOne : c ≠ '?') (rest : Glob p t) : Glob (c :: p) (c :: t)

section

variable {p t : List Char} {c : Char}

theorem glob_run_iff_append : Glob ('*' :: p) t ↔ ∃ run t', t = run ++ t' ∧ '\n' ∉ run ∧ Glob p t' := by
  constructor
  · intro h
    cases h with
    | run plain rest => exact ⟨_, _, rfl, plain, rest⟩
    | same notRun => exact absurd rfl notRun
  · rintro ⟨run, t', rfl, plain, rest⟩
    exact .run plain rest

/-- A run is empty, or it begins with the first character of the text. -/
theorem glob_run_iff : Glob ('*' :: p) t ↔ Glob p t ∨ ∃ c t', t = c :: t' ∧ c ≠ '\n' ∧ Glob ('*' :: p) t' := by
  simp only [glob_run_iff_append]
  constructor
  · rintro ⟨_ | ⟨c, run⟩, t', rfl, plain, rest⟩
    · exact .inl rest
    · obtain ⟨first, plain⟩ : '\n' ≠ c ∧ '\n' ∉ run := by simpa using plain
      exact .inr ⟨c, run ++ t', rfl, first.symm, run, t', rfl, plain, rest⟩
  · rintro (rest | ⟨c, _, rfl, first, run, t', rfl, plain, rest⟩)
    · exact ⟨[], t, rfl, List.not_mem_nil, rest⟩
    · exact ⟨c :: run, t', rfl, by simpa using ⟨first.symm, plain⟩, rest⟩

theorem glob_one_iff : Glob ('?' :: p) t ↔ ∃ c t', t = c :: t' ∧ c ≠ '\n' ∧ Glob p t' := by
  constructor
  · intro h
    cases h with
    | one plain rest => exact ⟨_, _, rfl, plain, rest⟩
    | same _ notOne => exact absurd rfl notOne
  · rintro ⟨c, t', rfl, plain, rest⟩
    exact .one plain rest

theorem glob_same_iff (notRun : c ≠ '*') (notOne : c ≠ '?') : Glob (c :: p) t ↔ ∃ t', t = c :: t' ∧ Glob p t' := by
  constructor
  · intro h
    cases h with
    | run => exact absurd rfl notRun
    | one => exact absurd rfl notOne
    | same _ _ rest => exact ⟨_, rfl, rest⟩
  · rintro ⟨t', rfl, rest⟩
    exact .same notRun notOne rest

/-- A pattern without wildcards stands for itself. -/
theorem glob_plain_iff (noRun : '*' ∉ p) (noOne : '?' ∉ p) : Glob p t ↔ t = p := by
  induction p generalizing t with
  | nil =>
    constructor
    · rintro ⟨⟩
      rfl
    · rintro rfl
      exact .nil
  | cons c p ih =>
    obtain ⟨run, noRun⟩ : '*' ≠ c ∧ '*' ∉ p := by simpa using noRun
    obtain ⟨one, noOne⟩ : '?' ≠ c ∧ '?' ∉ p := by simpa using noOne
    simp only [glob_same_iff run.symm one.symm, ih noRun noOne, exists_eq_right]

/-! ### The test -/

theorem glob_nil_iff : Glob p [] ↔ [] ∈ starts p := by
  induction p with
  | nil => exact iff_of_true .nil (by simp [starts])
  | cons d p ih =>
    by_cases run : d = '*'
    · subst run
      rw [glob_run_iff]
      simp [starts, ih]
    · by_cases one : d = '?'
      · subst one
        simp [glob_one_iff, starts]
      · simp [glob_same_iff run one, starts, run]

/-- After one character of the text, matching goes on at one of the ends that it leads to. -/
theorem glob_cons_iff : Glob p (c :: t) ↔ ∃ q ∈ starts p, ∃ r ∈ advance c q, Glob r t := by
  induction p with
  | nil =>
    refine iff_of_false (by rintro ⟨⟩) ?_
    simp [starts, advance]
  | cons d p ih =>
    by_cases run : d = '*'
    · subst run
      have first : (∃ r ∈ advance c ('*' :: p), Glob r t) ↔ c ≠ '\n' ∧ Glob ('*' :: p) t := by
        by_cases feed : c = '\n' <;> simp [advance, feed]
      rw [glob_run_iff, ih, starts, if_pos rfl]
      simp [List.mem_cons, exists_eq_or_imp, first, and_assoc, or_comm]
    · have start : starts (d :: p) = [d :: p] := by rw [starts, if_neg run]
      rw [start]
      by_cases one : d = '?'
      · subst one
        rw [glob_one_iff]
        by_cases feed : c = '\n'
        · simp [advance, feed]
        · simp [advance, feed, and_assoc]
      · rw [glob_same_iff run one]
        by_cases same : c = d <;> simp [advance, run, one, same]

/-- If the live ends are those at which matching may begin for some of `ps`, then the pattern is used up with the text
exactly if the text comes from one of `ps`. -/
theorem nil_mem_remaining_iff (ps : List (List Char)) {live : List (List Char)}
    (is : ∀ q, q ∈ live ↔ ∃ p ∈ ps, q ∈ starts p) (text : List Char) :
    [] ∈ remaining live text ↔ ∃ p ∈ ps, Glob p text := by
  induction text generalizing live ps with
  | nil => simp only [remaining, is, glob_nil_iff]
  | cons c text ih =>
    rw [remaining, ih (live.flatMap (advance c)) (by simp)]
    simp only [List.mem_flatMap, is, glob_cons_iff]
    constructor
    · rintro ⟨r, ⟨q, ⟨p, there, start⟩, next⟩, rest⟩
      exact ⟨p, there, q, start, r, next, rest⟩
    · rintro ⟨p, there, q, start, r, next, rest⟩
      exact ⟨r, ⟨q, ⟨p, there, start⟩, next⟩, rest⟩

end

/-- **A text fits a pattern exactly if it comes from it.** -/
theorem fits_iff {pattern text : List Char} : fits pattern text = true ↔ Glob pattern text := by
  rw [fits, List.contains_iff_mem, nil_mem_remaining_iff [pattern] (by simp)]
  simp

end MockCloud.Text.Wildcard
