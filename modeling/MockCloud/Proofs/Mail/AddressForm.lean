import MockCloud.Proofs.Mail.Spelling

/-! # The form of an address

An address that can be used has one `@` and something on both sides of it. What stands behind this `@` is the only domain
that can be found in it, whether one looks for the last `@` or cuts the address at every `@`.

* `Composed address name domain`: an address and its parts. `problem?_eq_none_iff`: a mailbox can be used if its address
  is composed.
* `Composed.domain?_eq`, `Composed.isVerified_iff`: its domain, and who may send from it.
* `bareAddress_speaks`: an address says all that its mailbox says. -/

namespace MockCloud

namespace Text

/-- A text is cut into two pieces just if the character at which it is cut stands in it once. -/
theorem splitOn_eq_pair_iff {c : Char} {cs front back : List Char} :
    cs.splitOn c = [front, back] ↔ cs = front ++ c :: back ∧ c ∉ front ∧ c ∉ back := by
  constructor
  · intro split
    by_cases inside : c ∈ cs
    · obtain ⟨before, rest, rfl, outside⟩ := List.eq_append_cons_of_mem inside
      rw [List.splitOn_append_cons_self_of_not_mem outside] at split
      obtain ⟨rfl, one⟩ := List.cons.inj split
      by_cases again : c ∈ rest
      · -- a second one leaves three pieces
        obtain ⟨between, more, rfl, outside'⟩ := List.eq_append_cons_of_mem again
        rw [List.splitOn_append_cons_self_of_not_mem outside'] at one
        exact absurd (List.cons.inj one).2 (List.splitOn_ne_nil c more)
      · rw [List.splitOn_eq_singleton again] at one
        obtain ⟨rfl, -⟩ := List.cons.inj one
        exact ⟨rfl, outside, again⟩
    · rw [List.splitOn_eq_singleton inside] at split
      cases split
  · rintro ⟨rfl, outside, outside'⟩
    rw [List.splitOn_append_cons_self_of_not_mem outside, List.splitOn_eq_singleton outside']

end Text

namespace Mail

/-! ### Addresses in their parts -/

/-- The address is made of a name and a domain with one `@` between them. -/
structure Composed (address name domain : String) : Prop where
  whole : address = name ++ "@" ++ domain
  named : name ≠ ""
  housed : domain ≠ ""
  before : '@' ∉ name.toList
  behind : '@' ∉ domain.toList

theorem composed_iff {address name domain : String} :
    Composed address name domain ↔
      address.toList.splitOn '@' = [name.toList, domain.toList] ∧ name.toList ≠ [] ∧ domain.toList ≠ [] := by
  have whole : address = name ++ "@" ++ domain ↔ address.toList = name.toList ++ '@' :: domain.toList := by
    rw [← String.toList_inj, String.toList_append, String.toList_append, List.append_assoc]
    rfl
  rw [Text.splitOn_eq_pair_iff, ← whole, ne_eq, ne_eq, String.toList_eq_nil_iff, String.toList_eq_nil_iff]
  constructor
  · rintro ⟨same, named, housed, before, behind⟩
    exact ⟨⟨same, before, behind⟩, named, housed⟩
  · rintro ⟨⟨same, before, behind⟩, named, housed⟩
    exact ⟨same, named, housed, before, behind⟩

/-- **A mailbox can be used** just if its address is made of a name and a domain. -/
theorem problem?_eq_none_iff {mailbox : String} :
    problem? mailbox = none ↔ ∃ name domain, Composed (bareAddress mailbox) name domain := by
  unfold problem?
  constructor
  · intro usable
    split at usable
    · next name domain split =>
      split_ifs at usable with unhoused unnamed
      refine ⟨.ofList name, .ofList domain, composed_iff.2 ⟨?_, ?_, ?_⟩⟩
      · simpa [bareAddress] using split
      · simpa using unnamed
      · simpa using unhoused
    · cases usable
  · rintro ⟨name, domain, composed⟩
    obtain ⟨split, named, housed⟩ := composed_iff.1 composed
    rw [bareAddress, String.toList_ofList] at split
    rw [split]
    simp [named, housed]

section

variable {mailbox name domain : String}

theorem Composed.toList_eq {address : String} (composed : Composed address name domain) :
    address.toList = name.toList ++ '@' :: domain.toList :=
  (Text.splitOn_eq_pair_iff.1 (composed_iff.1 composed).1).1

theorem Composed.domain?_eq (composed : Composed (bareAddress mailbox) name domain) :
    domain? mailbox = some (Text.lower domain) :=
  domain?_eq_some_iff.2 ⟨name.toList, domain.toList, composed.toList_eq, composed.behind, by rw [String.ofList_toList]⟩

theorem Composed.hostOf_eq {address : String} (composed : Composed address name domain) :
    Identities.hostOf address = domain := by
  have cut : Text.cutLast (· = '@') (name.toList ++ '@' :: domain.toList) = some (name.toList, domain.toList) :=
    Text.cutLast_append (Text.forall_ne_of_not_mem composed.behind) (decide_eq_true rfl)
  rw [Identities.hostOf, composed.toList_eq, cut]
  exact String.ofList_toList

/-- Mail may be sent from a mailbox if its address or its domain is verified. -/
theorem Composed.isVerified_iff (composed : Composed (bareAddress mailbox) name domain) (i : Identities) :
    i.isVerified mailbox = true ↔ bareAddress mailbox ∈ i.addresses ∨ bareAddress mailbox ∈ i.legacyAddresses ∨
      Text.lower domain ∈ i.domains := by
  rw [Identities.isVerified, composed.hostOf_eq]
  simp [or_assoc]

end

/-! ### Addresses and their mailboxes -/

theorem problem?_bareAddress (mailbox : String) : problem? (bareAddress mailbox) = problem? mailbox := by
  unfold problem? bareAddress
  rw [String.toList_ofList, bareChars_bareChars]

/-- **An address says all that its mailbox says.** It is trimmed and its own address, and it has the same domain, the same
problem and the same authority as the mailbox. There is no problem just if it is made of a name and a domain, and then
this is the domain, in lower case, that is found in the mailbox and that is looked up when mail is sent from it. -/
theorem bareAddress_speaks (mailbox : String) :
    Text.Trimmed (bareAddress mailbox).toList ∧ bareAddress (bareAddress mailbox) = bareAddress mailbox ∧
      (domain? (bareAddress mailbox) = domain? mailbox ∧ problem? (bareAddress mailbox) = problem? mailbox ∧
        ∀ i : Identities, i.isVerified (bareAddress mailbox) = i.isVerified mailbox) ∧
      (problem? mailbox = none ↔ ∃ name domain, Composed (bareAddress mailbox) name domain) ∧
      ∀ name domain, Composed (bareAddress mailbox) name domain →
        domain? mailbox = some (Text.lower domain) ∧
          ∀ i : Identities, i.isVerified mailbox = true ↔ bareAddress mailbox ∈ i.addresses ∨
            bareAddress mailbox ∈ i.legacyAddresses ∨ Text.lower domain ∈ i.domains := by
  refine ⟨?_, bareAddress_bareAddress mailbox, ⟨Identities.domain?_bareAddress mailbox, problem?_bareAddress mailbox,
    fun i => isVerified_bareAddress i mailbox⟩, problem?_eq_none_iff, fun name domain composed =>
    ⟨composed.domain?_eq, composed.isVerified_iff⟩⟩
  rw [bareAddress, String.toList_ofList]
  exact trimmed_bareChars mailbox.toList

theorem bareAddress_speaks_jane :
    Composed (bareAddress "Jane <jane@Example.com>") "jane" "Example.com" ∧
      domain? "Jane <jane@Example.com>" = some "example.com" ∧
      (({} : Identities).verifyDomain "example.COM").isVerified "Jane <jane@Example.com>" = true := by
  have composed : Composed (bareAddress "Jane <jane@Example.com>") "jane" "Example.com" :=
    ⟨by decide +kernel, by decide, by decide, by decide, by decide⟩
  obtain ⟨-, -, -, -, parts⟩ := bareAddress_speaks "Jane <jane@Example.com>"
  obtain ⟨domain, verified⟩ := parts "jane" "Example.com" composed
  exact ⟨composed, domain.trans (by decide +kernel), (verified _).2 (.inr (.inr (by decide +kernel)))⟩

end Mail

end MockCloud
