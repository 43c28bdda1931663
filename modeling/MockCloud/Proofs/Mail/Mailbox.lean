import MockCloud.Mail.Identity
import MockCloud.Proofs.Text.Trimming

/-! # The address of a mailbox

An address that was cut out of a mailbox is trimmed, and if it stood in brackets there is no opening bracket
in it. So it is a mailbox of its own, whose address is the whole of it, and a check that looks into mailboxes
gives the same answer for a mailbox and for its address.

* `bareChars_cases`: the address is the trimmed mailbox or has no opening bracket. `trimmed_bareChars`: it is trimmed.
* `bareAddress_bareAddress`: the address of an address is the same address.
* `isVerified_bareAddress`: so mail may be sent from a mailbox if it may be sent from its address. -/

namespace MockCloud.Mail

open Text (trim trim_trim)

theorem bareChars_trim (mailbox : List Char) : bareChars (trim mailbox) = bareChars mailbox := by
  unfold bareChars
  rw [trim_trim]

/-- A trimmed text without an opening bracket is an address as it stands. -/
theorem bareChars_of_plain {cs : List Char} (trimmed : trim cs = cs) (plain : '<' ∉ cs) :
    bareChars cs = cs := by
  unfold bareChars
  rw [trimmed]
  dsimp only
  split
  · rfl
  · next front behind cut =>
    obtain ⟨c, -, rfl, -⟩ := Text.eq_append_of_cutLast cut
    have none : Text.cutLast (· = '<') front = none :=
      Text.cutLast_eq_none (Text.forall_ne_of_not_mem fun inside => plain (List.mem_append_left _ inside))
    rw [none]
    exact ite_self _

theorem bareChars_cases (mailbox : List Char) :
    bareChars mailbox = trim mailbox ∨
      '<' ∉ bareChars mailbox ∧ trim (bareChars mailbox) = bareChars mailbox := by
  unfold bareChars
  dsimp only
  split
  · exact .inl rfl
  split
  · exact .inl rfl
  split
  · exact .inl rfl
  · next name address cut =>
    -- the address stands behind the last opening bracket
    obtain ⟨c, -, -, behind⟩ := Text.eq_append_of_cutLast cut
    refine .inr ⟨fun inside => ?_, trim_trim address⟩
    simpa using behind '<' (Text.mem_of_mem_trim inside)

theorem trimmed_bareChars (mailbox : List Char) : Text.Trimmed (bareChars mailbox) := by
  rcases bareChars_cases mailbox with whole | ⟨-, trimmed⟩
  · rw [whole]
    exact Text.trimmed_trim mailbox
  · rw [← trimmed]
    exact Text.trimmed_trim (bareChars mailbox)

theorem bareChars_bareChars (mailbox : List Char) : bareChars (bareChars mailbox) = bareChars mailbox := by
  rcases bareChars_cases mailbox with whole | ⟨plain, trimmed⟩
  · rw [whole, bareChars_trim, whole]
  · exact bareChars_of_plain trimmed plain

theorem bareAddress_bareAddress (mailbox : String) :
    bareAddress (bareAddress mailbox) = bareAddress mailbox := by
  unfold bareAddress
  rw [String.toList_ofList, bareChars_bareChars]

theorem isVerified_bareAddress (i : Identities) (mailbox : String) :
    i.isVerified (bareAddress mailbox) = i.isVerified mailbox := by
  unfold Identities.isVerified
  rw [bareAddress_bareAddress]

end MockCloud.Mail
