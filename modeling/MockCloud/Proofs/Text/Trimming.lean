import Mathlib.Data.List.DropRight
import MockCloud.Text.Blank

/-! # Trimmed text

Trimming takes blank characters away at the two ends of a text and nowhere else. So a character that is not blank
parts a text for trimming: what stands in front of it is trimmed at its start, and what stands behind it at its end.

* `trimmed_trim`: no blank character is left at either end, and then there is nothing more to trim (`Trimmed.trim_eq`).
* `trim_append_cons`: how a text is trimmed that has another character in it.
* `exists_blank_ends`, `trim_append_of_blank`: blank characters at the two ends are what is taken away.
* `trimStart_trimStart_append`: a text that goes on may lose its first blank characters before or after. -/

namespace MockCloud.Text

/-! ### Characters that stay -/

theorem trimStart_append_cons {c : Char} (hc : isBlank c = false) (front back : List Char) :
    trimStart (front ++ c :: back) = trimStart front ++ c :: back := by
  unfold trimStart
  rw [List.dropWhile_append]
  split
  · next none => rw [List.dropWhile_cons_of_neg (by simp [hc]), List.isEmpty_iff.1 none, List.nil_append]
  · rfl

/-- What is taken away at the end of a text stands behind its last character of another kind. -/
theorem rdropWhile_append_cons {p : Char → Bool} {c : Char} (hc : p c = false) (front back : List Char) :
    (front ++ c :: back).rdropWhile p = front ++ c :: back.rdropWhile p := by
  unfold List.rdropWhile
  rw [List.reverse_append, List.reverse_cons, List.append_assoc, List.dropWhile_append, List.singleton_append,
    List.dropWhile_cons_of_neg (by simp [hc])]
  split
  · next none => simp [List.isEmpty_iff.1 none]
  · simp

theorem trimEnd_append_cons {c : Char} (hc : isBlank c = false) (front back : List Char) :
    trimEnd (front ++ c :: back) = front ++ c :: trimEnd back :=
  rdropWhile_append_cons hc front back

theorem trim_append_cons {c : Char} (hc : isBlank c = false) (front back : List Char) :
    trim (front ++ c :: back) = trimStart front ++ c :: trimEnd back := by
  rw [trim, trimStart_append_cons hc, trimEnd_append_cons hc]

theorem trim_cons {c : Char} (blank : isBlank c = true) (cs : List Char) : trim (c :: cs) = trim cs := by
  rw [trim, trimStart, List.dropWhile_cons_of_pos blank]
  rfl

theorem mem_of_mem_trim {c : Char} {cs : List Char} (h : c ∈ trim cs) : c ∈ cs :=
  (List.dropWhile_suffix isBlank).subset ((List.rdropWhile_prefix isBlank (trimStart cs)).subset h)

/-! ### Trimming again -/

theorem trimStart_trim (cs : List Char) : trimStart (trim cs) = trim cs := by
  have inner : trim cs <+: trimStart cs := List.rdropWhile_prefix isBlank (trimStart cs)
  have start : trimStart (trimStart cs) = trimStart cs := List.dropWhile_idempotent isBlank cs
  refine List.dropWhile_eq_self_iff.2 fun pos => ?_
  rw [inner.getElem pos]
  exact List.dropWhile_eq_self_iff.1 start _

theorem trimEnd_trim (cs : List Char) : trimEnd (trim cs) = trim cs :=
  List.rdropWhile_idempotent isBlank (trimStart cs)

theorem trim_trim (cs : List Char) : trim (trim cs) = trim cs :=
  calc trim (trim cs) = trimEnd (trimStart (trim cs)) := rfl
    _ = trimEnd (trim cs) := by rw [trimStart_trim]
    _ = trim cs := trimEnd_trim cs

/-- A text that goes on may lose its first blank characters before or after. -/
theorem trimStart_trimStart_append (front back : List Char) :
    trimStart (trimStart front ++ back) = trimStart (front ++ back) := by
  have again : (front.dropWhile isBlank).dropWhile isBlank = front.dropWhile isBlank :=
    List.dropWhile_idempotent isBlank front
  unfold trimStart
  rw [List.dropWhile_append, again, List.dropWhile_append]

/-- It does not matter which end is trimmed first. -/
theorem trimEnd_trimStart (cs : List Char) : trimEnd (trimStart cs) = trimStart (trimEnd cs) := by
  by_cases blank : ∀ c ∈ cs, isBlank c = true
  · have front : trimStart cs = [] := List.dropWhile_eq_nil_iff.2 blank
    have back : trimEnd cs = [] := List.rdropWhile_eq_nil_iff.2 blank
    rw [front, back]
    rfl
  · simp only [not_forall, Bool.not_eq_true] at blank
    obtain ⟨c, inside, hc⟩ := blank
    obtain ⟨front, back, rfl⟩ := List.append_of_mem inside
    rw [trimStart_append_cons hc, trimEnd_append_cons hc, trimEnd_append_cons hc, trimStart_append_cons hc]

theorem dropWhile_dropWhile_of_imp {p q : Char → Bool} (imp : ∀ c, q c = true → p c = true) (cs : List Char) :
    (cs.dropWhile q).dropWhile p = cs.dropWhile p := by
  induction cs with
  | nil => rfl
  | cons c cs ih =>
    by_cases hc : q c = true
    · rw [List.dropWhile_cons_of_pos hc, List.dropWhile_cons_of_pos (imp c hc), ih]
    · rw [List.dropWhile_cons_of_neg hc]

/-- Trimming takes away what any blank characters at the end have left. -/
theorem trim_rdropWhile {q : Char → Bool} (blank : ∀ c, q c = true → isBlank c = true) (cs : List Char) :
    trim (cs.rdropWhile q) = trim cs := by
  have back : trimEnd (cs.rdropWhile q) = trimEnd cs := by
    unfold trimEnd List.rdropWhile
    rw [List.reverse_reverse, dropWhile_dropWhile_of_imp blank]
  unfold trim
  rw [trimEnd_trimStart, back, ← trimEnd_trimStart]

/-! ### Text with nothing to trim -/

/-- The text neither begins nor ends with a blank character. -/
structure Trimmed (cs : List Char) : Prop where
  first : ∀ c, cs.head? = some c → isBlank c = false
  last : ∀ c, cs.getLast? = some c → isBlank c = false

theorem trimStart_eq_self_iff {cs : List Char} :
    trimStart cs = cs ↔ ∀ c, cs.head? = some c → isBlank c = false := by
  unfold trimStart
  cases cs with
  | nil => simp
  | cons c cs => simp [List.dropWhile_eq_self_iff]

theorem trimEnd_eq_self_iff {cs : List Char} :
    trimEnd cs = cs ↔ ∀ c, cs.getLast? = some c → isBlank c = false := by
  rw [← List.head?_reverse, ← trimStart_eq_self_iff]
  exact List.reverse_eq_iff

theorem trimmed_trim (cs : List Char) : Trimmed (trim cs) where
  first := trimStart_eq_self_iff.1 (trimStart_trim cs)
  last := trimEnd_eq_self_iff.1 (trimEnd_trim cs)

theorem Trimmed.trim_eq {cs : List Char} (h : Trimmed cs) : trim cs = cs := by
  rw [trim, trimStart_eq_self_iff.2 h.first, trimEnd_eq_self_iff.2 h.last]

/-! ### What is taken away -/

theorem trimStart_append_of_blank {front : List Char} (blank : ∀ c ∈ front, isBlank c = true) (cs : List Char) :
    trimStart (front ++ cs) = trimStart cs :=
  List.dropWhile_append_of_pos blank

theorem trimEnd_append_of_blank {back : List Char} (blank : ∀ c ∈ back, isBlank c = true) (cs : List Char) :
    trimEnd (cs ++ back) = trimEnd cs := by
  unfold trimEnd
  rw [List.reverse_append, List.dropWhile_append_of_pos fun c hc => blank c (List.mem_reverse.1 hc)]

/-- Blank characters at the two ends are taken away, whatever stands between them. -/
theorem trim_append_of_blank {front back : List Char} (hf : ∀ c ∈ front, isBlank c = true)
    (hb : ∀ c ∈ back, isBlank c = true) (cs : List Char) : trim (front ++ cs ++ back) = trim cs :=
  calc trim (front ++ cs ++ back) = trimEnd (trimStart (front ++ (cs ++ back))) := by rw [trim, List.append_assoc]
    _ = trimStart (trimEnd (cs ++ back)) := by rw [trimStart_append_of_blank hf, trimEnd_trimStart]
    _ = trim cs := by rw [trimEnd_append_of_blank hb, ← trimEnd_trimStart, trim]

/-- Only blank characters are taken away. -/
theorem exists_blank_ends (cs : List Char) :
    ∃ front back, (∀ c ∈ front, isBlank c = true) ∧ (∀ c ∈ back, isBlank c = true) ∧ cs = front ++ trim cs ++ back := by
  refine ⟨cs.takeWhile isBlank, (trimStart cs).rtakeWhile isBlank, fun c => List.mem_takeWhile_imp,
    fun c => List.mem_rtakeWhile_imp, ?_⟩
  have back : trim cs ++ (trimStart cs).rtakeWhile isBlank = trimStart cs :=
    List.rdropWhile_append_rtakeWhile
  rw [List.append_assoc, back]
  exact List.takeWhile_append_dropWhile.symm

theorem trim_eq_nil_iff {cs : List Char} : trim cs = [] ↔ ∀ c ∈ cs, isBlank c = true := by
  constructor
  · intro none
    obtain ⟨front, back, hf, hb, whole⟩ := exists_blank_ends cs
    rw [none, List.append_nil] at whole
    rw [whole]
    exact fun c hc => (List.mem_append.1 hc).elim (hf c) (hb c)
  · intro blank
    rw [trim, trimStart, List.dropWhile_eq_nil_iff.2 blank]
    rfl

end MockCloud.Text
