import Mathlib.Data.List.Nodup
import MockCloud.Json.Record
import MockCloud.Proofs.Json.RoundTrip
import MockCloud.SortedMap

/-! # Written records read back

A record is written as an object with its fields in their order, where those that are missing may be left out,
and it is read by the names of all its fields. Nothing is lost as long as no two fields have one name: each
name gets the tree that was written under it, and a name that was left out gets none.

* `Faithful read write`: what is written is a clean tree that is not `null`, and it is read back.
* `present slots`: the fields of a record that are there.
* `record?_present`: the trees of an object are found under their names. -/

namespace MockCloud.Json

/-! ### Writing and reading one thing -/

/-- What is written is a clean tree that is not `null`, and it is read back. -/
structure Faithful {α : Type} (read : Tree → Option α) (write : α → Tree) : Prop where
  clean : ∀ a, (write a).Clean
  ne_null : ∀ a, write a ≠ .null
  read_write : ∀ a, read (write a) = some a

theorem faithful_text : Faithful Tree.text? Tree.str where
  clean := .str
  ne_null _ := nofun
  read_write _ := rfl

theorem faithful_nat32 : Faithful Tree.nat32? fun n => .nat n.toNat where
  clean n := .number (Numeral.clean_ofNat n.toNat)
  ne_null _ := nofun
  read_write n := by
    have small : n.toNat < 0x100000000 := n.toNat_lt
    show (if Nat.ofDigitChars 10 (Nat.toDigits 10 n.toNat) 0 < 0x100000000 then _ else none) = some n
    rw [Nat.ofDigitChars_ten_toDigits, if_pos small, UInt32.ofNat_toNat]

theorem mapM_map_write {α β : Type} {read : β → Option α} {write : α → β} (h : ∀ a, read (write a) = some a)
    (as : List α) : (as.map write).mapM read = some as := by
  induction as with
  | nil => rfl
  | cons a as ih => simp [h, ih]

namespace Faithful

variable {α : Type} {read : Tree → Option α} {write : α → Tree} (h : Faithful read write)
include h

theorem list : Faithful (Tree.list? read) fun as => .list (as.map write) where
  clean as := .list fun t ht => by
    obtain ⟨a, -, rfl⟩ := List.mem_map.1 ht
    exact h.clean a
  ne_null _ := nofun
  read_write := mapM_map_write h.read_write

/-- The entries of a map are written in order, so putting them into a map again changes nothing. -/
theorem map : Faithful (fun t => (t.pairs? read).map SortedMap.ofList)
    fun m : SortedMap α => .record (m.entries.map fun (k, a) => (k, write a)) where
  clean m := .record fun p hp => by
    obtain ⟨e, -, rfl⟩ := List.mem_map.1 hp
    exact h.clean e.2
  ne_null _ := nofun
  read_write m := by
    have pairs : (Tree.record (m.entries.map fun (k, a) => (k, write a))).pairs? read = some m.entries := by
      show List.mapM _ (List.map _ (List.map _ m.entries)) = _
      rw [List.map_map]
      refine mapM_map_write (fun e => ?_) m.entries
      simp [h.read_write]
    rw [pairs, Option.map_some, SortedMap.ofList_entries]

theorem required (a : α) : Json.required read (some (write a)) = some a :=
  h.read_write a

theorem optional (o : Option α) : Json.optional read (o.map write) = some o := by
  cases o with
  | none => rfl
  | some a =>
    have there : Json.optional read (some (write a)) = (read (write a)).map some := by
      unfold Json.optional
      split
      · next no => cases no
      · next null => exact absurd (Option.some.inj null) (h.ne_null a)
      · next some => cases some; rfl
    rw [Option.map_some, there, h.read_write, Option.map_some]

theorem clean_map (o : Option α) : ∀ t ∈ o.map write, t.Clean := by
  intro t ht
  obtain ⟨a, -, rfl⟩ := Option.map_eq_some_iff.1 ht
  exact h.clean a

end Faithful

/-! ### The fields of a record -/

/-- The fields of a record, of those with a tree. -/
def present (slots : List (String × Option Tree)) : List (String × Tree) :=
  slots.filterMap fun s => s.2.map fun t => (s.1, t)

theorem present_append (slots slots' : List (String × Option Tree)) :
    present (slots ++ slots') = present slots ++ present slots' :=
  List.filterMap_append

section

variable {slots : List (String × Option Tree)}

/-- The names of the fields are those with a tree, in their order. -/
theorem map_fst_present (slots : List (String × Option Tree)) :
    (present slots).map (·.1) = (slots.filter (·.2.isSome)).map (·.1) := by
  induction slots with
  | nil => rfl
  | cons s slots ih =>
    obtain ⟨name, _ | t⟩ := s
    · exact ih
    · exact congrArg (name :: ·) ih

theorem nodup_present (distinct : (slots.map (·.1)).Nodup) : ((present slots).map (·.1)).Nodup := by
  rw [map_fst_present]
  exact distinct.sublist (List.filter_sublist.map _)

theorem clean_present (clean : ∀ s ∈ slots, ∀ t ∈ s.2, t.Clean) : (Tree.record (present slots)).Clean := by
  refine .record fun p hp => ?_
  obtain ⟨s, hs, is⟩ := List.mem_filterMap.1 hp
  obtain ⟨t, there, rfl⟩ := Option.map_eq_some_iff.1 is
  exact clean s hs t there

/-- A name has the tree that stands under it, or none. -/
theorem find?_present (distinct : (slots.map (·.1)).Nodup) {name : String} {o : Option Tree}
    (there : (name, o) ∈ slots) : ((present slots).find? (·.1 == name)).map (·.2) = o := by
  cases o with
  | some t =>
    have field : (name, t) ∈ present slots := List.mem_filterMap.2 ⟨_, there, rfl⟩
    have found := (List.find?_isSome (p := (·.1 == name))).2 ⟨_, field, by simp⟩
    obtain ⟨p, hp⟩ := Option.isSome_iff_exists.1 found
    have same : p.1 = name := by simpa using List.find?_some hp
    have one : p = (name, t) :=
      List.inj_on_of_nodup_map (nodup_present distinct) (List.mem_of_find?_eq_some hp) field same
    rw [hp, one, Option.map_some]
  | none =>
    rw [Option.map_eq_none_iff, List.find?_eq_none]
    intro p hp named
    obtain ⟨s, hs, is⟩ := List.mem_filterMap.1 hp
    obtain ⟨t, tree, rfl⟩ := Option.map_eq_some_iff.1 is
    have one : s = (name, none) := List.inj_on_of_nodup_map distinct hs there (beq_iff_eq.1 named)
    rw [one] at tree
    cases tree

/-- **The trees of an object are found under their names.** -/
theorem record?_present (distinct : (slots.map (·.1)).Nodup) :
    (Tree.record (present slots)).record? (slots.map (·.1)) = some (slots.map (·.2)) := by
  have named : ((present slots).map fun p => (some p.1, p.2)).all (·.1.isSome) = true := by
    simp
  have once (name : String) : ((present slots).map fun p => (some p.1, p.2)).countP (·.1 == some name) ≤ 1 := by
    have counted := List.nodup_iff_count_le_one.1 (nodup_present distinct) name
    rw [List.count, List.countP_map] at counted
    rw [List.countP_map]
    exact counted
  have found : ∀ s ∈ slots, (((present slots).map fun p => (some p.1, p.2)).find? (·.1 == some s.1)).map (·.2) = s.2 := by
    intro s hs
    rw [List.find?_map, Option.map_map]
    exact find?_present distinct hs
  show (if _ then some (List.map _ (List.map _ slots)) else none) = _
  rw [if_pos (Bool.and_eq_true_iff.2 ⟨named, List.all_eq_true.2 fun name _ => decide_eq_true (once name)⟩),
    List.map_map]
  exact congrArg some (List.map_congr_left found)

end

/-- A record is written faithfully if its fields are, and if what reads it makes it of their trees again. -/
theorem Faithful.record {α : Type} {read : Tree → Option α} {write : α → Tree} {names : List String}
    {make : List (Option Tree) → Option α} (slots : α → List (String × Option Tree))
    (reads : ∀ t, read t = (t.record? names).bind make) (writes : ∀ a, write a = .record (present (slots a)))
    (distinct : names.Nodup) (named : ∀ a, (slots a).map (·.1) = names)
    (clean : ∀ a, ∀ s ∈ slots a, ∀ t ∈ s.2, t.Clean) (made : ∀ a, make ((slots a).map (·.2)) = some a) :
    Faithful read write where
  clean a := by
    rw [writes]
    exact clean_present (clean a)
  ne_null a := by
    rw [writes]
    exact nofun
  read_write a := by
    rw [reads, writes, ← named a, record?_present (by rw [named a]; exact distinct), Option.bind_some, made]

end MockCloud.Json
