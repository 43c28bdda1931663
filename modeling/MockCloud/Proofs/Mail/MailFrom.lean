import MockCloud.Proofs.Mail.Operation

/-! # The domains that mail comes from

The domain that the mail of an identity comes from has to end as the domain of the identity does, and this is compared
character by character. So what stands in front may end in the middle of a label.

* `mailFroms i x ops`: what the run `ops` has written about the mail domain of `x`, in order.
* `get?_mailFrom_run`: in every run the mail domain is the one that was written last.
* `endsWith_of_mem_mailFroms`: every one that was written ends as it has to.
* `mailFrom_beneath_iff`: which mail domains that are shown are the domain of the identity or beneath it. -/

namespace MockCloud.Mail

/-! ### Domains beneath a domain -/

/-- The domain itself, or one with further labels in front. -/
def Beneath (domain host : String) : Prop :=
  domain = host ∨ Text.endsWith domain ("." ++ host) = true

/-- The host with something in front that does not end a label. -/
def Glued (domain host : String) : Prop :=
  ∃ front, domain = front ++ host ∧ front ≠ "" ∧ Text.endsWith front "." = false

/-- A domain that ends with the host is beneath it unless a label runs into it. -/
theorem beneath_iff_not_glued {domain host : String} (ends : Text.endsWith domain host = true) :
    Beneath domain host ↔ ¬Glued domain host := by
  constructor
  · rintro (rfl | further) ⟨front, split, ne, open_⟩
    · exact ne (String.append_eq_right_iff.1 split.symm)
    · obtain ⟨labels, split'⟩ := Text.endsWith_iff.1 further
      rw [split', ← String.append_assoc, String.append_left_inj] at split
      rw [Text.endsWith_iff.2 ⟨labels, split.symm⟩] at open_
      cases open_
  · intro loose
    obtain ⟨front, rfl⟩ := Text.endsWith_iff.1 ends
    by_cases none : front = ""
    · exact .inl (by rw [none, String.empty_append])
    · cases closed : Text.endsWith front "." with
      | false => exact absurd ⟨front, rfl, none, closed⟩ loose
      | true =>
        obtain ⟨labels, rfl⟩ := Text.endsWith_iff.1 closed
        exact .inr (Text.endsWith_iff.2 ⟨labels, String.append_assoc ..⟩)

namespace Identities

/-! ### What is written about a mail domain -/

/-- What an operation with a result writes about the mail domain of an identity: one, or that there is none. -/
def Op.mailFrom? (op : Op) (x : String) (result : Except MailError Unit) : Option (Option MailFrom) :=
  match result with
  | .error _ => none
  | .ok () =>
    match op with
    | .setMailFrom own domain behavior => if own = x then some (domain.map (⟨·, behavior⟩)) else none
    | .delete own => if own = x then some none else none
    | .verifyAddress _ | .verifyLegacyAddress _ | .verifyDomain _ | .setTopic .. | .setForwarding .. | .drawTokens .. =>
      none

/-- What a run has written about the mail domain of an identity, in order. -/
def mailFroms (i : Identities) (x : String) : List Op → List (Option MailFrom)
  | [] => []
  | op :: ops => (op.mailFrom? x (i.perform op).result).toList ++ (i.step op).mailFroms x ops

section

variable {i : Identities} {x : String}

theorem get?_mailFrom_delete (i : Identities) (x y : String) :
    (i.delete x).mailFrom.get? y = if y = x then none else i.mailFrom.get? y := by
  have erased : (i.delete x).mailFrom = i.mailFrom.erase x := by
    unfold delete
    cases isAddress x <;> rfl
  rw [erased, SortedMap.get?_erase]

/-- One operation: the mail domain is what is written, and what is written ends as it has to. -/
theorem mailFrom_step (i : Identities) (x : String) (op : Op) :
    (i.step op).mailFrom.get? x = (op.mailFrom? x (i.perform op).result).getD (i.mailFrom.get? x) ∧
      ∀ m, op.mailFrom? x (i.perform op).result = some (some m) → Text.endsWith m.domain (hostOf x) = true := by
  unfold step
  cases op with
  | delete own =>
    by_cases named : own = x
    · simp [perform, Op.mailFrom?, get?_mailFrom_delete, named]
    · simp [perform, Op.mailFrom?, get?_mailFrom_delete, named, Ne.symm named]
  | setMailFrom own domain behavior =>
    rw [perform]
    rcases i.setMailFrom_cases own domain behavior with ⟨e, h⟩ | ⟨rfl, h⟩ | ⟨text, rfl, ends, h⟩ <;> rw [h]
    · exact ⟨rfl, fun m written => by cases written⟩
    · by_cases named : own = x
      · simp [Op.mailFrom?, SortedMap.get?_erase, named]
      · simp [Op.mailFrom?, SortedMap.get?_erase, named, Ne.symm named]
    · by_cases named : own = x
      · subst named
        simpa [Op.mailFrom?] using ends
      · simp [Op.mailFrom?, SortedMap.get?_insert, named, Ne.symm named]
  | drawTokens fresh identities =>
    obtain ⟨dkimTokens, h⟩ := i.exists_dkimTokens fresh identities
    simp [perform, Op.mailFrom?, h]
  | verifyAddress | verifyLegacyAddress | verifyDomain | setTopic | setForwarding =>
    exact ⟨rfl, fun m written => by cases written⟩

/-- **In every run the mail domain is the one that was written last.** -/
theorem get?_mailFrom_run (i : Identities) (x : String) (ops : List Op) :
    (i.run ops).mailFrom.get? x = (i.mailFroms x ops).getLast?.getD (i.mailFrom.get? x) := by
  induction ops generalizing i with
  | nil => rfl
  | cons op ops ih =>
    refine (ih (i.step op)).trans ?_
    rw [(mailFrom_step i x op).1, mailFroms, List.getLast?_append]
    cases ((i.step op).mailFroms x ops).getLast? with
    | some written => rfl
    | none => cases op.mailFrom? x (i.perform op).result <;> rfl

/-- Every mail domain that a run writes ends as the domain of the identity does. -/
theorem endsWith_of_mem_mailFroms {ops : List Op} {m : MailFrom} (written : some m ∈ i.mailFroms x ops) :
    Text.endsWith m.domain (hostOf x) = true := by
  induction ops generalizing i with
  | nil => cases written
  | cons op ops ih =>
    rw [mailFroms, List.mem_append, Option.mem_toList] at written
    rcases written with now | later
    · exact (mailFrom_step i x op).2 m now
    · exact ih later

/-- What is shown of a mail domain is what stands there. -/
theorem mailFrom_of_shown {identities : List String} {a : MailFromAttributes}
    (shown : (i.mailFromAttributes identities).get? x = some a) : i.mailFrom.get? x = a.mailFrom := by
  rw [mailFromAttributes, SortedMap.get?_ofList] at shown
  obtain ⟨e, found, rfl⟩ := Option.map_eq_some_iff.1 shown
  obtain ⟨y, -, rfl⟩ := List.mem_map.1 (List.mem_reverse.1 (List.mem_of_find?_eq_some found))
  have named : (y, (⟨i.mailFrom.get? y⟩ : MailFromAttributes)).1 = x := by simpa using List.find?_some found
  rw [← named]

/-- **Which mail domains are beneath their identities.** A mail domain that is shown for an identity after a run is the
last that the run has written for it, and it ends with the domain of the identity. It is this domain or one beneath it
just if no label runs into it. -/
theorem mailFrom_beneath_iff (ops : List Op) (identities : List String) (x : String) (m : MailFrom)
    (shown : ((run {} ops).mailFromAttributes identities).get? x = some ⟨some m⟩) :
    (mailFroms {} x ops).getLast? = some (some m) ∧ Text.endsWith m.domain (hostOf x) = true ∧
      (Beneath m.domain (hostOf x) ↔
        ∀ last, (mailFroms {} x ops).getLast? = some (some last) → ¬Glued last.domain (hostOf x)) := by
  have last : (mailFroms {} x ops).getLast? = some (some m) := by
    have stored := mailFrom_of_shown shown
    rw [get?_mailFrom_run] at stored
    cases written : (mailFroms {} x ops).getLast? with
    | none => simp [written] at stored
    | some w => exact congrArg some (by rwa [written] at stored)
  have ends := endsWith_of_mem_mailFroms (List.mem_of_getLast? last)
  refine ⟨last, ends, ?_⟩
  rw [beneath_iff_not_glued ends, last]
  exact ⟨fun loose _ same => by cases same; exact loose, fun each => each m rfl⟩

end

/-- A domain is verified and its mail comes from a domain that ends with the same text. -/
def mailDomain (domain : String) : List Op :=
  [.verifyDomain "example.com", .setMailFrom "example.com" (some domain) none]

theorem mailFrom_beneath_mail :
    ((run {} (mailDomain "mail.example.com")).mailFromAttributes ["example.com"]).get? "example.com" =
        some ⟨some ⟨"mail.example.com", none⟩⟩ ∧
      Beneath "mail.example.com" (hostOf "example.com") := by
  have shown : ((run {} (mailDomain "mail.example.com")).mailFromAttributes ["example.com"]).get? "example.com" =
      some ⟨some ⟨"mail.example.com", none⟩⟩ := by
    decide +kernel
  obtain ⟨last, -, beneath⟩ := mailFrom_beneath_iff _ _ _ _ shown
  refine ⟨shown, beneath.2 ?_⟩
  rintro _ same ⟨front, split, -, open_⟩
  cases last.symm.trans same
  obtain rfl : "mail." = front := (String.append_left_inj _).1 ((by decide +kernel : _ = "mail.example.com").trans split)
  exact absurd open_ (by decide +kernel)

theorem not_always_beneath :
    ¬∀ (ops : List Op) (identities : List String) (x : String) (m : MailFrom),
      ((run {} ops).mailFromAttributes identities).get? x = some ⟨some m⟩ → Beneath m.domain (hostOf x) := by
  intro always
  rcases always (mailDomain "badexample.com") ["example.com"] "example.com" ⟨"badexample.com", none⟩
    (by decide +kernel) with same | further
  · exact absurd same (by decide +kernel)
  · exact absurd further (by decide +kernel)

end Identities

end MockCloud.Mail
