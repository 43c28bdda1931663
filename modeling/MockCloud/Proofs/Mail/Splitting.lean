import Mathlib.Data.List.Forall2
import MockCloud.Mail.Address

/-! # Lists of mailboxes, cut at their commas

A list of mailboxes is read from left to right. A quote begins a name that goes on to the next quote, whatever stands in
between, and an opening bracket an address that goes on to the next closing one; both may be left open at the end. All
other characters are plain, a closing bracket that closes nothing included. The list is cut at its plain commas.

* `Closed`: texts that leave neither a name nor an address open. `closed_iff`: the scan is where it began behind exactly
  these.
* `CutUp`: the pieces of a list. `cutUp_splitMailboxes`: the scan finds them.
* `CutUp.joined`, `CutUp.cutBehind_iff`: the pieces are the list, and it is cut at exactly the plain commas.
* `bounds`: where the pieces begin and end among the bytes of the list. `spans_boundsFrom`, `abut_boundsFrom`: what lies
  between these bounds, and how they lie to each other.
* `splitMailboxes_cuts`: all of this about a whole list. -/

namespace MockCloud.Mail

variable {list front back piece : List Char} {pieces : List (List Char)}

/-! ### Names and addresses left open -/

/-- A text in which every quoted name and every address in brackets comes to its end. -/
inductive Closed : List Char → Prop
  | nil : Closed []
  | plain {c : Char} {rest : List Char} (unquoted : c ≠ '"') (unbracketed : c ≠ '<') (closed : Closed rest) :
      Closed (c :: rest)
  | name {name rest : List Char} (inside : '"' ∉ name) (closed : Closed rest) :
      Closed ('"' :: (name ++ '"' :: rest))
  | address {address rest : List Char} (inside : '>' ∉ address) (closed : Closed rest) :
      Closed ('<' :: (address ++ '>' :: rest))

theorem step_plain {c : Char} (unquoted : c ≠ '"') (unbracketed : c ≠ '<') :
    ListState.step ⟨false, false⟩ c = ⟨false, false⟩ := by
  simp [ListState.step, unquoted, unbracketed]

/-- A kind of text that the scan passes over: it goes to `s` at the opening character and back at the closing one, and
stands still in between. -/
structure Passage (opening closing : Char) (s : ListState) : Prop where
  opens : ListState.step ⟨false, false⟩ opening = s
  stays : ∀ c, c ≠ closing → s.step c = s
  closes : s.step closing = ⟨false, false⟩
  ne : s ≠ ⟨false, false⟩

theorem passage_name : Passage '"' '"' ⟨true, false⟩ where
  opens := by decide
  stays c other := by simp [ListState.step, other]
  closes := by decide
  ne := by decide

theorem passage_address : Passage '<' '>' ⟨false, true⟩ where
  opens := by decide
  stays c other := by simp [ListState.step, other]
  closes := by decide
  ne := by decide

namespace Passage

variable {opening closing : Char} {s : ListState} {inner rest : List Char}

theorem foldl_inner (p : Passage opening closing s) (inside : closing ∉ inner) : inner.foldl ListState.step s = s := by
  induction inner with
  | nil => rfl
  | cons c inner ih =>
    obtain ⟨other, inside⟩ := List.ne_and_not_mem_of_not_mem_cons inside
    rw [List.foldl_cons, p.stays c other.symm, ih inside]

/-- The scan passes over the text as a whole. -/
theorem foldl_step (p : Passage opening closing s) (inside : closing ∉ inner) :
    (opening :: (inner ++ closing :: rest)).foldl ListState.step ⟨false, false⟩ =
      rest.foldl ListState.step ⟨false, false⟩ := by
  rw [List.foldl_cons, p.opens, List.foldl_append, p.foldl_inner inside, List.foldl_cons, p.closes]

/-- A scan that is back again has met the closing character. -/
theorem exists_inner (p : Passage opening closing s)
    (ended : (opening :: rest).foldl ListState.step ⟨false, false⟩ = ⟨false, false⟩) :
    ∃ inner behind, rest = inner ++ closing :: behind ∧ closing ∉ inner := by
  refine List.eq_append_cons_of_mem (Decidable.byContradiction fun inside => p.ne ?_)
  rw [← ended, List.foldl_cons, p.opens, p.foldl_inner inside]

end Passage

theorem Closed.foldl_step (closed : Closed front) : front.foldl ListState.step ⟨false, false⟩ = ⟨false, false⟩ := by
  induction closed with
  | nil => rfl
  | plain unquoted unbracketed _ ih => rw [List.foldl_cons, step_plain unquoted unbracketed, ih]
  | name inside _ ih => rw [passage_name.foldl_step inside, ih]
  | address inside _ ih => rw [passage_address.foldl_step inside, ih]

/-- **The scan is where it began** behind exactly the closed texts. -/
theorem closed_iff : Closed front ↔ front.foldl ListState.step ⟨false, false⟩ = ⟨false, false⟩ := by
  refine ⟨Closed.foldl_step, fun ended => ?_⟩
  -- a name or an address is passed over as a whole, so that the rest may be much shorter
  induction hn : front.length using Nat.strongRecOn generalizing front with
  | ind n ih =>
    cases front with
    | nil => exact .nil
    | cons c rest =>
      rw [List.length_cons] at hn
      by_cases quote : c = '"'
      · subst quote
        obtain ⟨name, behind, rfl, inside⟩ := passage_name.exists_inner ended
        rw [passage_name.foldl_step inside] at ended
        rw [List.length_append, List.length_cons] at hn
        exact .name inside (ih behind.length (by omega) ended rfl)
      · by_cases bracket : c = '<'
        · subst bracket
          obtain ⟨address, behind, rfl, inside⟩ := passage_address.exists_inner ended
          rw [passage_address.foldl_step inside] at ended
          rw [List.length_append, List.length_cons] at hn
          exact .address inside (ih behind.length (by omega) ended rfl)
        · rw [List.foldl_cons, step_plain quote bracket] at ended
          exact .plain quote bracket (ih rest.length (by omega) ended rfl)

/-- Behind a closed text a plain comma and then any text leave open what the text alone does. -/
theorem Closed.append_comma_iff (closed : Closed front) : Closed (front ++ ',' :: back) ↔ Closed back := by
  rw [closed_iff, closed_iff, List.foldl_append, closed.foldl_step, List.foldl_cons]
  rfl

/-! ### The pieces -/

/-- No comma of the text is plain. -/
def Uncut (piece : List Char) : Prop :=
  ∀ front back, piece = front ++ ',' :: back → ¬Closed front

/-- **The pieces of a list**: none has a plain comma in it, and the comma behind each but the last is plain. -/
inductive CutUp : List Char → List (List Char) → Prop
  | last {piece : List Char} (uncut : Uncut piece) : CutUp piece [piece]
  | more {piece rest : List Char} {pieces : List (List Char)} (uncut : Uncut piece) (closed : Closed piece)
      (behind : CutUp rest pieces) : CutUp (piece ++ ',' :: rest) (piece :: pieces)

theorem cuts_iff {s : ListState} {c : Char} : s.cuts c = true ↔ c = ',' ∧ s = ⟨false, false⟩ := by
  obtain ⟨quoted, bracketed⟩ := s
  cases quoted <;> cases bracketed <;> simp [ListState.cuts]

theorem uncut_nil : Uncut [] := by
  intro front back same
  simp at same

/-- A piece goes on with a character at which it is not cut. -/
theorem Uncut.concat {c : Char} (uncut : Uncut piece)
    (goes_on : ¬(piece.foldl ListState.step ⟨false, false⟩).cuts c = true) : Uncut (piece ++ [c]) := by
  intro front back same closed
  rcases List.eq_nil_or_concat back with rfl | ⟨back, d, rfl⟩
  · obtain ⟨rfl, last⟩ := List.append_inj' same rfl
    exact goes_on (cuts_iff.2 ⟨List.singleton_inj.1 last, closed_iff.1 closed⟩)
  · rw [List.concat_eq_append, ← List.cons_append, ← List.append_assoc] at same
    obtain ⟨before, -⟩ := List.append_inj' same rfl
    exact uncut front back before closed

theorem cutUp_splitFrom {s : ListState} {read : List Char} (cs : List Char)
    (stands : read.reverse.foldl ListState.step ⟨false, false⟩ = s) (uncut : Uncut read.reverse) :
    CutUp (read.reverse ++ cs) (splitFrom s read cs) := by
  induction cs generalizing s read with
  | nil =>
    rw [List.append_nil]
    exact .last uncut
  | cons c cs ih =>
    unfold splitFrom
    split
    · next cut =>
      obtain ⟨rfl, rfl⟩ := cuts_iff.1 cut
      have rest := @ih ⟨false, false⟩ [] rfl uncut_nil
      exact .more uncut (closed_iff.2 stands) rest
    · next goes_on =>
      have longer : (c :: read).reverse = read.reverse ++ [c] := List.reverse_cons
      have stands' : (c :: read).reverse.foldl ListState.step ⟨false, false⟩ = s.step c := by
        rw [longer, List.foldl_append, stands]
        rfl
      have uncut' : Uncut (c :: read).reverse := by
        rw [longer]
        exact uncut.concat (stands ▸ goes_on)
      have rest := ih stands' uncut'
      rwa [longer, List.append_assoc, List.singleton_append] at rest

/-- **The scan finds the pieces.** -/
theorem cutUp_splitMailboxes (list : List Char) : CutUp list (splitMailboxes list) :=
  @cutUp_splitFrom ⟨false, false⟩ [] list rfl uncut_nil

theorem CutUp.ne_nil (h : CutUp list pieces) : pieces ≠ [] := by
  cases h <;> exact List.cons_ne_nil _ _

/-- **Nothing is lost**: the pieces with commas between them are the list. -/
theorem CutUp.joined (h : CutUp list pieces) : [','].intercalate pieces = list := by
  induction h with
  | last uncut => exact List.intercalate_singleton
  | more uncut closed behind ih =>
    rw [List.intercalate_cons_of_ne_nil behind.ne_nil, ih, List.append_assoc, List.singleton_append]

theorem CutUp.uncut_of_mem (h : CutUp list pieces) : ∀ piece ∈ pieces, Uncut piece := by
  induction h with
  | last uncut => simpa using uncut
  | more uncut closed behind ih => exact List.forall_mem_cons.2 ⟨uncut, ih⟩

/-- Each piece begins where nothing is left open. -/
theorem CutUp.closed_before (h : CutUp list pieces) {before behind : List (List Char)}
    (same : pieces = before ++ piece :: behind) : Closed (before.flatMap (· ++ [','])) := by
  induction h generalizing before with
  | last uncut =>
    cases before with
    | nil => exact .nil
    | cons first before => simp at same
  | more uncut closed later ih =>
    cases before with
    | nil => exact .nil
    | cons first before =>
      obtain ⟨rfl, others⟩ := List.cons.inj same
      rw [List.flatMap_cons, List.append_assoc, List.singleton_append, closed.append_comma_iff]
      exact ih others

/-- The pieces are cut behind this part of the list. -/
def CutBehind (pieces : List (List Char)) (front : List Char) : Prop :=
  ∃ before behind, pieces = before ++ behind ∧ before ≠ [] ∧ behind ≠ [] ∧ front = [','].intercalate before

theorem not_cutBehind_last : ¬CutBehind [piece] front := by
  rintro ⟨before, behind, same, something, more, -⟩
  have lengths := congrArg List.length same
  have := List.length_pos_iff.2 something
  have := List.length_pos_iff.2 more
  rw [List.length_singleton, List.length_append] at lengths
  omega

/-- The first cut is behind the first piece, and the others are the cuts of the rest. -/
theorem cutBehind_cons_iff (more : pieces ≠ []) : CutBehind (piece :: pieces) front ↔
    front = piece ∨ ∃ mid, front = piece ++ ',' :: mid ∧ CutBehind pieces mid := by
  constructor
  · rintro ⟨before, behind, same, something, left, rfl⟩
    obtain ⟨first, before, rfl⟩ := List.exists_cons_of_ne_nil something
    obtain ⟨rfl, rfl⟩ := List.cons.inj same
    by_cases last : before = []
    · subst last
      exact .inl List.intercalate_singleton
    · refine .inr ⟨[','].intercalate before, ?_, before, behind, rfl, last, left, rfl⟩
      rw [List.intercalate_cons_of_ne_nil last, List.append_assoc, List.singleton_append]
  · rintro (rfl | ⟨mid, rfl, before, behind, rfl, something, left, rfl⟩)
    · exact ⟨[front], pieces, rfl, List.cons_ne_nil _ _, more, List.intercalate_singleton.symm⟩
    · refine ⟨piece :: before, behind, rfl, List.cons_ne_nil _ _, left, ?_⟩
      rw [List.intercalate_cons_of_ne_nil something, List.append_assoc, List.singleton_append]

/-- **The list is cut at exactly the plain commas.** -/
theorem CutUp.cutBehind_iff (h : CutUp list pieces) (comma : list = front ++ ',' :: back) :
    CutBehind pieces front ↔ Closed front := by
  induction h generalizing front with
  | last uncut => exact iff_of_false not_cutBehind_last (uncut front back comma)
  | @more piece rest pieces uncut closed behind ih =>
    rw [cutBehind_cons_iff behind.ne_nil]
    rcases List.append_eq_append_iff.1 comma with ⟨mid, rfl, tail⟩ | ⟨mid, rfl, tail⟩
    · cases mid with
      | nil =>
        rw [List.append_nil]
        exact iff_of_true (.inl rfl) closed
      | cons c mid =>
        -- the comma stands in the rest, and the piece leaves nothing open
        obtain ⟨rfl, later⟩ := List.cons.inj tail
        rw [closed.append_comma_iff, ← ih later]
        simp
    · cases mid with
      | nil =>
        rw [List.append_nil] at closed ⊢
        exact iff_of_true (.inl rfl) closed
      | cons c mid =>
        -- the comma stands in the piece
        obtain ⟨rfl, -⟩ := List.cons.inj tail
        refine iff_of_false ?_ (uncut front mid rfl)
        rintro (short | ⟨later, short, -⟩)
        all_goals
          have lengths := congrArg List.length short
          simp only [List.length_append, List.length_cons] at lengths
          omega

/-! ### The bounds of the pieces -/

/-- The bounds of the pieces of a list in bytes: where each begins, and where it has ended. The scan stands at the byte
`here`, and the first piece has begun at `start`. -/
def boundsFrom (s : ListState) (start here : Nat) : List Char → List (Nat × Nat)
  | [] => [(start, here)]
  | c :: cs =>
    if s.cuts c then (start, here) :: boundsFrom s (here + 1) (here + c.utf8Size) cs
    else boundsFrom (s.step c) start (here + c.utf8Size) cs

/-- The bounds of the pieces of a list. -/
def bounds (list : String) : List (Nat × Nat) :=
  boundsFrom ⟨false, false⟩ 0 0 list.toList

/-- The bytes between the bounds are the piece, and neither bound lies inside a character of the text. -/
structure Spans (text : String) (bound : Nat × Nat) (piece : List Char) : Prop where
  start : (String.Pos.Raw.mk bound.1).IsValid text
  stop : (String.Pos.Raw.mk bound.2).IsValid text
  le : bound.1 ≤ bound.2
  bytes : text.toByteArray.extract bound.1 bound.2 = (String.ofList piece).toByteArray

/-- The bounds lie one behind the other from `start` to `stop`, with one byte between each two. -/
inductive Abut (stop : Nat) : Nat → List (Nat × Nat) → Prop
  | last {start : Nat} (le : start ≤ stop) : Abut stop start [(start, stop)]
  | more {start end_ : Nat} {bounds : List (Nat × Nat)} (le : start ≤ end_) (behind : Abut stop (end_ + 1) bounds) :
      Abut stop start ((start, end_) :: bounds)

/-- The number of bytes of a text. -/
def byteSize (cs : List Char) : Nat :=
  (String.ofList cs).utf8ByteSize

theorem byteSize_append (front back : List Char) : byteSize (front ++ back) = byteSize front + byteSize back := by
  rw [byteSize, String.ofList_append, String.utf8ByteSize_append]
  rfl

theorem byteSize_singleton (c : Char) : byteSize [c] = c.utf8Size := by
  rw [byteSize, ← String.singleton_eq_ofList, String.utf8ByteSize_singleton]

theorem spans_append (front piece back : List Char) :
    Spans (String.ofList (front ++ (piece ++ back))) (byteSize front, byteSize (front ++ piece)) piece where
  start := String.Pos.Raw.isValid_iff_exists_append.2
    ⟨.ofList front, .ofList (piece ++ back), String.ofList_append, rfl⟩
  stop := String.Pos.Raw.isValid_iff_exists_append.2
    ⟨.ofList (front ++ piece), .ofList back, by rw [← List.append_assoc, String.ofList_append], rfl⟩
  le := by
    rw [byteSize_append]
    exact Nat.le_add_right ..
  bytes := by
    have front_bytes : (String.ofList front).toByteArray.size = byteSize front := String.size_toByteArray
    have piece_bytes : (String.ofList piece).toByteArray.size = byteSize piece := String.size_toByteArray
    dsimp only
    rw [byteSize_append, String.ofList_append, String.ofList_append, String.toByteArray_append,
      String.toByteArray_append, ← front_bytes, ← piece_bytes]
    have behind := ByteArray.extract_append_size_add (a := (String.ofList front).toByteArray)
      (b := (String.ofList piece).toByteArray ++ (String.ofList back).toByteArray) (i := 0)
      (j := (String.ofList piece).toByteArray.size)
    rw [Nat.add_zero] at behind
    rw [behind, ByteArray.extract_append_eq_left rfl]

/-- **The bounds are those of the pieces.** -/
theorem spans_boundsFrom (s : ListState) (front read cs : List Char) :
    List.Forall₂ (Spans (String.ofList (front ++ (read.reverse ++ cs))))
      (boundsFrom s (byteSize front) (byteSize (front ++ read.reverse)) cs) (splitFrom s read cs) := by
  induction cs generalizing s front read with
  | nil => exact .cons (spans_append front read.reverse []) .nil
  | cons c cs ih =>
    unfold boundsFrom splitFrom
    split
    · next cut =>
      obtain ⟨rfl, -⟩ := cuts_iff.1 cut
      refine .cons (spans_append front read.reverse (',' :: cs)) ?_
      have rest := ih s (front ++ read.reverse ++ [',']) []
      have comma : byteSize [','] = 1 := byteSize_singleton ','
      simp only [byteSize_append, List.reverse_nil, List.append_nil, comma, List.append_assoc] at rest ⊢
      exact rest
    · have rest := ih (s.step c) front (c :: read)
      simp only [byteSize_append, List.reverse_cons, byteSize_singleton, List.append_assoc, Nat.add_assoc] at rest ⊢
      exact rest

theorem abut_boundsFrom {s : ListState} {start here : Nat} (le : start ≤ here) (cs : List Char) :
    Abut (here + byteSize cs) start (boundsFrom s start here cs) := by
  induction cs generalizing s start here with
  | nil => exact .last le
  | cons c cs ih =>
    have size : byteSize (c :: cs) = c.utf8Size + byteSize cs := by
      rw [← List.singleton_append, byteSize_append, byteSize_singleton]
    rw [size, ← Nat.add_assoc]
    unfold boundsFrom
    split
    · next cut =>
      obtain ⟨rfl, -⟩ := cuts_iff.1 cut
      exact .more le (ih (Nat.le_refl _))
    · exact ih (Nat.le_add_right_of_le le)

/-- **A list of mailboxes is cut at exactly its plain commas.** The pieces with commas between them are the list. The
comma behind a part of the list is a cut just if the part leaves no name in quotes and no address in brackets open; each
piece begins where nothing is left open, and from there on has no such comma in it. The pieces are the bytes between
their bounds; no bound lies inside a character, and the bounds lie one behind the other from the first byte of the list
to its last. -/
theorem splitMailboxes_cuts (list : String) :
    [','].intercalate (splitMailboxes list.toList) = list.toList ∧
      (∀ front back, list.toList = front ++ ',' :: back →
        (CutBehind (splitMailboxes list.toList) front ↔ Closed front)) ∧
      (∀ before piece behind, splitMailboxes list.toList = before ++ piece :: behind →
        Closed (before.flatMap (· ++ [','])) ∧ Uncut piece) ∧
      List.Forall₂ (Spans list) (bounds list) (splitMailboxes list.toList) ∧
      Abut list.utf8ByteSize 0 (bounds list) := by
  have cut := cutUp_splitMailboxes list.toList
  refine ⟨cut.joined, fun front back comma => cut.cutBehind_iff comma, fun before piece behind same => ?_, ?_, ?_⟩
  · exact ⟨cut.closed_before same, cut.uncut_of_mem piece (by simp [same])⟩
  · have spans := spans_boundsFrom ⟨false, false⟩ [] [] list.toList
    rwa [List.reverse_nil, List.nil_append, List.nil_append, String.ofList_toList] at spans
  · have abut := @abut_boundsFrom ⟨false, false⟩ 0 0 (Nat.le_refl 0) list.toList
    rwa [byteSize, String.ofList_toList, Nat.zero_add] at abut

-- A comma inside quotes or brackets cuts nothing, and an address that is left open takes the rest of the list.
example : (splitMailboxes "\"Doe, José\" <a,b>, é,<x, y".toList).map String.ofList =
    ["\"Doe, José\" <a,b>", " é", "<x, y"] := by decide +kernel

end MockCloud.Mail
