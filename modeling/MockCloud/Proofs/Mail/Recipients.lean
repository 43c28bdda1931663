import Mathlib.Data.List.Forall2
import MockCloud.Mail.Header
import MockCloud.Proofs.Mail.Mailbox

/-! # The recipients of a raw message

The recipients of a raw message are the mailboxes in its `To`, `Cc` and `Bcc` lists, each put into its usual form: the
name in front of the first opening bracket, and the address. The address is looked for behind the last opening bracket.
If nothing closes this one, the whole mailbox is the address, its name included, and the usual form is another mailbox.

* `bareChars_bracketed`, `bareChars_open`: the address of a mailbox with brackets.
* `addressees`: the mailboxes of the lists. `recipients_eq`: each of them is a recipient in its usual form.
* `Dangling`: a mailbox with a name in front of a bracket that is not closed.
* `recipients_keep_iff`: a recipient has the address of its mailbox unless the mailbox is a dangling one. -/

namespace MockCloud.Mail

open Text (trim trimStart trimEnd)

/-! ### The address of a mailbox with brackets -/

section

variable {front address behind : List Char}

/-- The address stands between the last brackets. -/
theorem bareChars_bracketed (shut : '<' ∉ address) (shut' : '<' ∉ behind) (last : '>' ∉ behind) :
    bareChars (front ++ '<' :: address ++ '>' :: behind) = trim address := by
  have inner : trimEnd behind <+: behind := List.rdropWhile_prefix Text.isBlank behind
  have none : (trimEnd behind).contains '<' = false :=
    Bool.eq_false_iff.2 fun inside => shut' (inner.subset (List.contains_iff_mem.1 inside))
  have closed : Text.cutLast (· = '>') (trim (front ++ '<' :: address ++ '>' :: behind)) =
      some (trimStart front ++ '<' :: address, trimEnd behind) := by
    rw [Text.trim_append_cons (by decide), Text.trimStart_append_cons (by decide)]
    exact Text.cutLast_append (Text.forall_ne_of_not_mem fun inside => last (inner.subset inside)) (decide_eq_true rfl)
  have opened : Text.cutLast (· = '<') (trimStart front ++ '<' :: address) = some (trimStart front, address) :=
    Text.cutLast_append (Text.forall_ne_of_not_mem shut) (decide_eq_true rfl)
  unfold bareChars
  dsimp only
  rw [closed]
  dsimp only
  rw [none, opened]
  rfl

/-- A mailbox whose last opening bracket is not closed is an address as a whole. -/
theorem bareChars_open (unclosed : '>' ∉ behind) :
    bareChars (front ++ '<' :: behind) = trim (front ++ '<' :: behind) := by
  have inner : trimEnd behind <+: behind := List.rdropWhile_prefix Text.isBlank behind
  have rest : ∀ x ∈ '<' :: trimEnd behind, decide (x = '>') = false :=
    Text.forall_ne_of_not_mem fun inside => unclosed (inner.subset (by simpa using inside))
  unfold bareChars
  dsimp only
  rw [Text.trim_append_cons (by decide), Text.cutLast_append_of_forall rest]
  -- a closing bracket further in front has the opening one behind it
  cases Text.cutLast (· = '>') (trimStart front) with
  | none => rfl
  | some parts => simp

end

/-! ### The usual form of a mailbox -/

/-- The name in front of the first opening bracket, without the blank characters and then the quotes at its ends. -/
def displayName (mailbox : List Char) : List Char :=
  match Text.cutFirst (· = '<') mailbox with
  | none => []
  | some (name, _) => (((trim name).dropWhile (· = '"')).reverse.dropWhile (· = '"')).reverse

theorem toList_normalMailbox (mailbox : List Char) :
    (normalMailbox mailbox).toList =
      if displayName mailbox = [] then bareChars mailbox
      else displayName mailbox ++ [' '] ++ '<' :: bareChars mailbox ++ ['>'] := by
  have form : normalMailbox mailbox =
      formatMailbox (.ofList (displayName mailbox)) (.ofList (bareChars mailbox)) := rfl
  rw [form, formatMailbox]
  by_cases unnamed : displayName mailbox = []
  · simp [unnamed]
  · simp [unnamed]

/-- A mailbox with a name in front of its first opening bracket whose last opening bracket is not closed. -/
def Dangling (mailbox : List Char) : Prop :=
  displayName mailbox ≠ [] ∧ ∃ front behind, mailbox = front ++ '<' :: behind ∧ '<' ∉ behind ∧ '>' ∉ behind

theorem exists_last_of_mem {c : Char} {cs : List Char} (inside : c ∈ cs) :
    ∃ front behind, cs = front ++ c :: behind ∧ c ∉ behind := by
  obtain ⟨front, behind, same, outside⟩ := List.eq_append_cons_of_mem (List.mem_reverse.2 inside)
  refine ⟨behind.reverse, front.reverse, ?_, by simpa using outside⟩
  rw [← List.reverse_reverse cs, same]
  simp

/-- Only an address that is a whole mailbox can have an opening bracket in it. -/
theorem dangling_iff {mailbox : List Char} :
    Dangling mailbox ↔ displayName mailbox ≠ [] ∧ '<' ∈ bareChars mailbox := by
  refine and_congr_right fun _ => ⟨?_, fun inside => ?_⟩
  · rintro ⟨front, behind, rfl, -, unclosed⟩
    rw [bareChars_open unclosed, Text.trim_append_cons (by decide)]
    simp
  · have somewhere : '<' ∈ mailbox := by
      rcases bareChars_cases mailbox with whole | ⟨plain, -⟩
      · exact Text.mem_of_mem_trim (whole ▸ inside)
      · exact absurd inside plain
    obtain ⟨front, behind, rfl, last⟩ := exists_last_of_mem somewhere
    refine ⟨front, behind, rfl, last, fun closed => ?_⟩
    obtain ⟨address, rest, rfl, last'⟩ := exists_last_of_mem closed
    rw [List.mem_append, List.mem_cons, not_or, not_or] at last
    obtain ⟨shut, -, shut'⟩ := last
    rw [← List.cons_append, ← List.append_assoc, bareChars_bracketed shut shut' last'] at inside
    exact shut (Text.mem_of_mem_trim inside)

/-- **The usual form of a mailbox** has the same address unless the mailbox is a dangling one. -/
theorem bareChars_normalMailbox_iff (mailbox : List Char) :
    bareChars (normalMailbox mailbox).toList = bareChars mailbox ↔ ¬Dangling mailbox := by
  rw [dangling_iff, toList_normalMailbox]
  split
  · next unnamed => simp [unnamed, bareChars_bareChars]
  · next named =>
    by_cases inside : '<' ∈ bareChars mailbox
    · -- the address has the last bracket in it, and what stands behind this one has none
      obtain ⟨front, behind, same, last⟩ := exists_last_of_mem inside
      have read : bareChars (displayName mailbox ++ [' '] ++ '<' :: bareChars mailbox ++ ['>']) = trim behind := by
        have bracketed := @bareChars_bracketed (displayName mailbox ++ [' '] ++ '<' :: front) behind [] last
          List.not_mem_nil List.not_mem_nil
        rw [same]
        simpa using bracketed
      have differs : trim behind ≠ bareChars mailbox := fun e =>
        last (Text.mem_of_mem_trim (e ▸ inside))
      rw [read]
      exact iff_of_false differs fun free => free ⟨named, inside⟩
    · have read := @bareChars_bracketed (displayName mailbox ++ [' ']) (bareChars mailbox) [] inside
        List.not_mem_nil List.not_mem_nil
      rw [read]
      exact iff_of_true (trimmed_bareChars mailbox).trim_eq fun dangling => inside dangling.2

/-! ### The lists of a message -/

/-- The names of the headers that say whom a message is for. -/
def recipientNames : List (List Char) :=
  ["to", "cc", "bcc"].map String.toList

/-- The lists of mailboxes in the `To`, `Cc` and `Bcc` headers of a raw message, in the order of the headers. -/
def recipientLists (raw : String) : List (List Char) :=
  ((headers raw.toList).filter fun header => header.1 ∈ recipientNames).map Prod.snd

/-- The mailboxes in these lists that have an address, in order. -/
def addressees (raw : String) : List String :=
  ((recipientLists raw).flatMap fun list => ((splitMailboxes list).map trim).map String.ofList).filter
    fun m => bareAddress m ≠ ""

theorem addressees_eq (raw : String) :
    addressees raw = (recipientLists raw).flatMap fun list => (listedMailboxes list).map String.ofList := by
  have same : (fun m => decide (bareAddress m ≠ "")) ∘ String.ofList = fun m => !(bareChars m).isEmpty := by
    funext m
    cases h : bareChars m <;> simp [bareAddress, h]
  unfold addressees listedMailboxes
  rw [List.filter_flatMap]
  refine List.flatMap_congr fun list _ => ?_
  rw [List.filter_map, same]

theorem recipients_add (h : RawHeaders) (header : Header) :
    (h.add header).recipients = h.recipients ++
      if header.1 ∈ recipientNames then (listedMailboxes header.2).map normalMailbox else [] := by
  obtain ⟨name, value⟩ := header
  unfold RawHeaders.add
  dsimp only
  by_cases sender : name = "from".toList
  · rw [if_pos sender, if_neg (by rw [sender]; decide), List.append_nil]
  · rw [if_neg sender]
    simp only [recipientNames, List.map_cons, List.map_nil, List.mem_cons, List.not_mem_nil, or_false]
    split
    · rfl
    · rw [List.append_nil]

/-- What the headers of a list add to the recipients. -/
theorem recipients_foldl_add (all : List Header) (h : RawHeaders) :
    (all.foldl RawHeaders.add h).recipients = h.recipients ++
      ((all.filter fun header => header.1 ∈ recipientNames).map Prod.snd).flatMap
        fun list => (listedMailboxes list).map normalMailbox := by
  induction all generalizing h with
  | nil => simp
  | cons header all ih =>
    rw [List.foldl_cons, ih, recipients_add, List.append_assoc]
    by_cases named : header.1 ∈ recipientNames
    · rw [if_pos named, List.filter_cons_of_pos (by simpa using named)]
      rfl
    · rw [if_neg named, List.filter_cons_of_neg (by simpa using named)]
      rfl

/-- **The recipients of a message** are the mailboxes of its lists in their usual form. -/
theorem recipients_eq (raw : String) :
    (parseHeaders raw).recipients = (addressees raw).map fun m => normalMailbox m.toList := by
  rw [parseHeaders, recipients_foldl_add, addressees_eq, List.map_flatMap]
  simp [recipientLists, Function.comp_def]

/-! ### Recipients and their mailboxes -/

/-- Each recipient has the address of the mailbox that stands in its place in the lists. -/
def KeepsAddresses (raw : String) : Prop :=
  List.Forall₂ (fun m r => bareAddress r = bareAddress m) (addressees raw) (parseHeaders raw).recipients

theorem bareAddress_normalMailbox_iff (mailbox : String) :
    bareAddress (normalMailbox mailbox.toList) = bareAddress mailbox ↔ ¬Dangling mailbox.toList := by
  rw [← bareChars_normalMailbox_iff, bareAddress, bareAddress, String.ofList_inj]

/-- **Recipients keep their addresses.** A raw message has one recipient for each mailbox with an address in its lists, in
the same order. A recipient has the address of its mailbox unless this is a dangling one; so all recipients have just if
no mailbox in the lists is dangling. -/
theorem recipients_keep_iff (raw : String) :
    List.Forall₂ (fun m r => bareAddress r = bareAddress m ↔ ¬Dangling m.toList) (addressees raw)
        (parseHeaders raw).recipients ∧
      (KeepsAddresses raw ↔ ∀ m ∈ addressees raw, ¬Dangling m.toList) := by
  rw [KeepsAddresses, recipients_eq, List.forall₂_map_right_iff, List.forall₂_map_right_iff, List.forall₂_same,
    List.forall₂_same]
  exact ⟨fun m _ => bareAddress_normalMailbox_iff m, forall₂_congr fun m _ => bareAddress_normalMailbox_iff m⟩

/-- A mailbox without its closing bracket is given to another address. -/
theorem not_always_keepsAddresses : ¬∀ raw, KeepsAddresses raw := by
  intro always
  have kept := always "To: Jane <jane@example.com"
  have listed : addressees "To: Jane <jane@example.com" = ["Jane <jane@example.com"] := by decide +kernel
  have read : (parseHeaders "To: Jane <jane@example.com").recipients = ["Jane <Jane <jane@example.com>"] := by
    decide +kernel
  have differ : bareAddress "Jane <Jane <jane@example.com>" ≠ bareAddress "Jane <jane@example.com" := by decide +kernel
  rw [KeepsAddresses, listed, read, List.forall₂_cons] at kept
  exact differ kept.1

end MockCloud.Mail
