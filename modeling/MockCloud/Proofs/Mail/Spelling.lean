import MockCloud.Proofs.Mail.MailFrom
import MockCloud.Proofs.Mail.Notice

/-! # Spellings of identities

A mailbox can be written in several ways, and so can a domain. An identity is verified under one spelling: the address
of the mailbox, or the domain in lower case. Its settings stand under the text that they were made for, and a deletion
looks for an address, and for all settings, under the text that it is given. So a deletion misses what is spelled in
another way, and so does a send that looks for the topic of its domain.

* `spelling x`: the text under which `x` is verified. `Spelled.run`: all that a run has verified is spelled so.
* `Undone i x`: nothing is left of the identity that `x` stands for.
* `undone_delete_iff`: when a deletion leaves nothing, whatever was there before.
* `topicFor?_setTopic`: what mail from a domain hears of a topic that is set for this domain.
* `noticeTopic_setTopic_iff`: when that is just this topic. -/

namespace MockCloud.Mail

theorem NotificationSettings.topic?_setTopic (s : NotificationSettings) (topic : Option String)
    (type type' : NotificationType) :
    (s.setTopic topic type).topic? type' = if type' = type then topic else s.topic? type' := by
  cases type <;> cases type' <;> rfl

namespace Identities

/-! ### The spelling of an identity -/

/-- The text under which an identity is verified: the address of a mailbox, or a domain in lower case. -/
def spelling (identity : String) : String :=
  if isAddress identity then bareAddress identity else Text.lower identity

/-- All verified addresses are addresses as they stand, and all verified domains are in lower case. -/
structure Spelled (i : Identities) : Prop where
  addresses : ∀ a ∈ i.addresses, bareAddress a = a
  legacyAddresses : ∀ a ∈ i.legacyAddresses, bareAddress a = a
  domains : ∀ d ∈ i.domains, Text.lower d = d

section

variable {i : Identities} {xs : List String} {x y : String}

theorem mem_add_iff : y ∈ add xs x ↔ y ∈ xs ∨ y = x := by
  unfold add
  split
  · next there =>
    refine ⟨.inl, fun h => h.elim id ?_⟩
    rintro rfl
    exact List.contains_iff_mem.1 there
  · rw [List.mem_append, List.mem_singleton]

theorem forall_mem_add {p : String → Prop} (h : ∀ y ∈ xs, p y) (hx : p x) : ∀ y ∈ add xs x, p y := by
  intro y hy
  rcases mem_add_iff.1 hy with hy | rfl
  · exact h y hy
  · exact hx

/-! ### What a deletion takes away -/

theorem mem_addresses_delete : y ∈ (i.delete x).addresses ↔ y ∈ i.addresses ∧ (isAddress x = true → y ≠ x) := by
  unfold delete
  cases isAddress x <;> simp

theorem mem_legacyAddresses_delete :
    y ∈ (i.delete x).legacyAddresses ↔ y ∈ i.legacyAddresses ∧ (isAddress x = true → y ≠ x) := by
  unfold delete
  cases isAddress x <;> simp

theorem mem_domains_delete :
    y ∈ (i.delete x).domains ↔ y ∈ i.domains ∧ (isAddress x = false → y ≠ Text.lower x) := by
  unfold delete
  cases isAddress x <;> simp

theorem topic?_delete (type : NotificationType) :
    (i.delete x).topic? y type = if y = x then none else i.topic? y type := by
  have erased : (i.delete x).notifications = i.notifications.erase x := by
    unfold delete
    cases isAddress x <;> rfl
  rw [topic?, erased, SortedMap.get?_erase]
  split <;> rfl

end

/-! ### Runs -/

section

variable {i : Identities}

theorem Spelled.perform (spelled : i.Spelled) (op : Op) : (i.perform op).state.Spelled := by
  have ⟨addresses, legacyAddresses, domains⟩ := spelled
  cases op with
  | verifyAddress mailbox => exact ⟨forall_mem_add addresses (bareAddress_bareAddress mailbox), legacyAddresses, domains⟩
  | verifyLegacyAddress mailbox =>
    exact ⟨addresses, forall_mem_add legacyAddresses (bareAddress_bareAddress mailbox), domains⟩
  | verifyDomain domain => exact ⟨addresses, legacyAddresses, forall_mem_add domains (Text.lower_lower domain)⟩
  | delete identity =>
    exact ⟨fun a ha => addresses a (mem_addresses_delete.1 ha).1,
      fun a ha => legacyAddresses a (mem_legacyAddresses_delete.1 ha).1,
      fun d hd => domains d (mem_domains_delete.1 hd).1⟩
  | setTopic identity type topic => exact ⟨addresses, legacyAddresses, domains⟩
  | setForwarding identity forwarding => exact ⟨addresses, legacyAddresses, domains⟩
  | setMailFrom identity domain behavior =>
    change (i.setMailFrom identity domain behavior).state.Spelled
    rcases i.setMailFrom_cases identity domain behavior with ⟨e, h⟩ | ⟨-, h⟩ | ⟨text, -, -, h⟩ <;> rw [h]
    · exact spelled
    · exact ⟨addresses, legacyAddresses, domains⟩
    · exact ⟨addresses, legacyAddresses, domains⟩
  | drawTokens fresh identities =>
    obtain ⟨dkimTokens, h⟩ := i.exists_dkimTokens fresh identities
    change (i.dkimAttributes fresh identities).2.Spelled
    rw [h]
    exact ⟨addresses, legacyAddresses, domains⟩

/-- **All that a run verifies is spelled the same way.** -/
theorem Spelled.run (spelled : i.Spelled) (ops : List Op) : (i.run ops).Spelled := by
  induction ops generalizing i with
  | nil => exact spelled
  | cons op ops ih => exact ih (spelled.perform op)

end

/-! ### What a deletion leaves -/

section

variable {i : Identities} {x c : String}

/-- Nothing stands under a text: it is not verified, and no topic and no mail domain is set for it. -/
structure Free (i : Identities) (c : String) : Prop where
  address : c ∉ i.addresses
  legacyAddress : c ∉ i.legacyAddresses
  domain : c ∉ i.domains
  topic : ∀ type, i.topic? c type = none
  mailFrom : i.mailFrom.get? c = none

/-- Nothing is left of what has been verified and set for an identity; no mail may be sent from a mailbox then, unless
its domain is verified. -/
structure Undone (i : Identities) (x : String) : Prop where
  free : i.Free (spelling x)
  unverified : isAddress x = true → Text.lower (hostOf (bareAddress x)) ∉ i.domains → i.isVerified x = false

/-- The identity is verified where a deletion does not look for it: as a domain if the text has an `@`, and as an
address if it has none. -/
def Astray (i : Identities) (x : String) : Prop :=
  if isAddress x then spelling x ∈ i.domains else spelling x ∈ i.addresses ∨ spelling x ∈ i.legacyAddresses

/-- There is something to take away that stands under one text: an address that is verified, or a setting. -/
inductive Held (i : Identities) (x : String) : Prop
  | address (has_at : isAddress x = true) (verified : spelling x ∈ i.addresses)
  | legacyAddress (has_at : isAddress x = true) (verified : spelling x ∈ i.legacyAddresses)
  | topic {type : NotificationType} {topic : String} (set : i.topic? (spelling x) type = some topic)
  | mailFrom {m : MailFrom} (set : i.mailFrom.get? (spelling x) = some m)

theorem free_delete_of (home : ¬i.Astray x) (own : i.Held x → spelling x = x) : (i.delete x).Free (spelling x) where
  address there := by
    obtain ⟨there, other⟩ := mem_addresses_delete.1 there
    cases at' : isAddress x with
    | true => exact other at' (own (.address at' there))
    | false => exact home (by simpa [Astray, at'] using .inl there)
  legacyAddress there := by
    obtain ⟨there, other⟩ := mem_legacyAddresses_delete.1 there
    cases at' : isAddress x with
    | true => exact other at' (own (.legacyAddress at' there))
    | false => exact home (by simpa [Astray, at'] using .inr there)
  domain there := by
    obtain ⟨there, other⟩ := mem_domains_delete.1 there
    cases at' : isAddress x with
    | true => exact home (by simpa [Astray, at'] using there)
    | false => exact other at' (by rw [spelling, at']; rfl)
  topic type := by
    rw [topic?_delete]
    refine ite_eq_left_iff.2 fun ne => ?_
    cases set : i.topic? (spelling x) type with
    | none => rfl
    | some topic => exact absurd (own (.topic set)) ne
  mailFrom := by
    rw [get?_mailFrom_delete]
    refine ite_eq_left_iff.2 fun ne => ?_
    cases set : i.mailFrom.get? (spelling x) with
    | none => rfl
    | some m => exact absurd (own (.mailFrom set)) ne

theorem not_astray_of_free_delete (free : (i.delete x).Free (spelling x)) : ¬i.Astray x := by
  unfold Astray
  split
  · next at' => exact fun there => free.domain (mem_domains_delete.2 ⟨there, fun none => by simp [at'] at none⟩)
  · next none =>
    rintro (there | there)
    · exact free.address (mem_addresses_delete.2 ⟨there, fun at' => absurd at' none⟩)
    · exact free.legacyAddress (mem_legacyAddresses_delete.2 ⟨there, fun at' => absurd at' none⟩)

/-- What stands under another text than the one given is still there. -/
theorem eq_of_free_delete (free : (i.delete x).Free (spelling x)) (held : i.Held x) : spelling x = x := by
  by_contra ne
  cases held with
  | address _ verified => exact free.address (mem_addresses_delete.2 ⟨verified, fun _ => ne⟩)
  | legacyAddress _ verified => exact free.legacyAddress (mem_legacyAddresses_delete.2 ⟨verified, fun _ => ne⟩)
  | @topic type topic set =>
    have gone := free.topic type
    rw [topic?_delete, if_neg ne, set] at gone
    cases gone
  | mailFrom set =>
    have gone := free.mailFrom
    rw [get?_mailFrom_delete, if_neg ne, set] at gone
    cases gone

/-- No mail may be sent from an address that is not verified, unless its domain is. -/
theorem Free.isVerified_eq_false (free : i.Free (spelling x)) (address : isAddress x = true)
    (outside : Text.lower (hostOf (bareAddress x)) ∉ i.domains) : i.isVerified x = false := by
  have bare : spelling x = bareAddress x := if_pos address
  rw [bare] at free
  unfold isVerified
  simp [free.address, free.legacyAddress, outside]

/-- **What a deletion leaves.** Nothing is left of an identity when it is deleted, whatever was verified and set before,
just if it is not verified where the deletion does not look, and the text that is given is the one under which the
verified address and the settings stand. -/
theorem undone_delete_iff (i : Identities) (x : String) :
    (i.delete x).Undone x ↔ ¬i.Astray x ∧ (i.Held x → spelling x = x) := by
  constructor
  · rintro ⟨free, -⟩
    exact ⟨not_astray_of_free_delete free, eq_of_free_delete free⟩
  · rintro ⟨home, own⟩
    have free := free_delete_of home own
    exact ⟨free, free.isVerified_eq_false⟩

/-- A mailbox with a name is verified and deleted as it is written. -/
def jane : List Post.Op :=
  [.office (.identity (.verifyAddress "Jane <jane@example.com>"))]

theorem not_always_undone :
    ¬∀ (scope : Scope) (ops : List Post.Op) (x : String),
      (((Post.blank scope).run ops).1.identities.delete x).Undone x := by
  intro always
  have undone := always { account := "123456789012", region := "us-east-1" } jane "Jane <jane@example.com>"
  exact undone.free.address (by decide +kernel)

end

/-! ### Topics of a domain -/

section

variable {i : Identities} {domain source : String} {type : NotificationType} {topic : Option String}

/-- Settings that were never made have no topics. -/
theorem topic?_settings (i : Identities) (x : String) (type : NotificationType) :
    (i.settings x).topic? type = i.topic? x type := by
  unfold settings topic?
  cases i.notifications.get? x with
  | none => cases type <;> rfl
  | some s => rfl

theorem topic?_setTopic (x y : String) (type' : NotificationType) :
    (i.setTopic x type topic).topic? y type' = if y = x ∧ type' = type then topic else i.topic? y type' := by
  have inserted : (i.setTopic x type topic).topic? y type' =
      (if y = x then some ((i.settings x).setTopic topic type) else i.notifications.get? y).bind (·.topic? type') := by
    rw [← SortedMap.get?_insert]
    rfl
  rw [inserted]
  by_cases here : y = x
  · subst here
    simp only [if_true, Option.bind_some, true_and]
    rw [NotificationSettings.topic?_setTopic, topic?_settings]
  · rw [if_neg here, if_neg fun both => here both.1]
    rfl

/-- A mailbox has its domain behind an `@`, so that its address is no domain. -/
theorem bareAddress_ne_of_domain? (of : domain? source = some (Text.lower domain)) : bareAddress source ≠ domain := by
  rintro rfl
  obtain ⟨front, host, split, outside, same⟩ := domain?_eq_some_iff.1 of
  have within : '@' ∈ (bareAddress source).toList := by simp [split]
  rw [← Text.mem_lower_iff (by decide), ← same, Text.mem_lower_iff (by decide), String.toList_ofList] at within
  exact outside within

theorem domain?_bareAddress (mailbox : String) : domain? (bareAddress mailbox) = domain? mailbox := by
  ext domain
  rw [domain?_eq_some_iff, domain?_eq_some_iff, bareAddress_bareAddress]

/-- Mail from a domain hears of the topic that is set for this domain if the text in the setting is in lower case. If
not, it hears of what has been set for the text in lower case before. -/
theorem topicFor?_setTopic (of : domain? source = some (Text.lower domain))
    (own : i.topic? (bareAddress source) type = none) :
    (i.setTopic domain type topic).topicFor? source type =
      if Text.lower domain = domain then topic else i.topic? (Text.lower domain) type := by
  -- the setting is made for a text without an at sign, so the address still has no topic of its own
  have unset : (i.setTopic domain type topic).topic? (bareAddress source) type = none := by
    rw [topic?_setTopic, if_neg fun here => bareAddress_ne_of_domain? of here.1, own]
  unfold topicFor?
  dsimp only
  rw [unset, domain?_bareAddress, of]
  simp [topic?_setTopic]

end

end Identities

/-- **The topic of a domain.** Take a mailbox of the domain whose address has no topic of its own for an event. When a
topic has been set or cleared for the domain, a message from the mailbox whose recipients decide the event is told about
to just this topic if the domain was written in lower case, or if the text in lower case had the same topic before. -/
theorem Office.noticeTopic_setTopic_iff (o : Office) (domain source : String) (type : NotificationType)
    (topic : Option String) (d : Destination) (of : domain? source = some (Text.lower domain))
    (own : o.identities.topic? (bareAddress source) type = none) (decided : Decides d.addresses type) :
    noticeTopic? { o with identities := o.identities.setTopic domain type topic } source d = topic.map (type, ·) ↔
      Text.lower domain = domain ∨ o.identities.topic? (Text.lower domain) type = topic := by
  have told : noticeTopic? { o with identities := o.identities.setTopic domain type topic } source d =
      ((o.identities.setTopic domain type topic).topicFor? source type).map (type, ·) := by
    rw [noticeTopic?, Destination.event?_eq_some_iff.2 decided]
    rfl
  have injective : Function.Injective fun t : String => (type, t) := fun _ _ same => (Prod.mk.inj same).2
  rw [told, Identities.topicFor?_setTopic of own, (Option.map_injective injective).eq_iff, ite_eq_left_iff]
  exact or_iff_not_imp_left.symm

/-- An office in which nothing has been made. -/
def untouched : Office :=
  (Post.blank { account := "123456789012", region := "us-east-1" }).1

theorem Office.noticeTopic_setTopic_bounces :
    noticeTopic? { untouched with
        identities := untouched.identities.setTopic "example.com" .bounce
          (some "arn:aws:sns:us-east-1:123456789012:bounces") }
      "Me <me@Example.com>" { direct := ["bounce@example.org"] } =
        some (.bounce, "arn:aws:sns:us-east-1:123456789012:bounces") :=
  (noticeTopic_setTopic_iff untouched "example.com" "Me <me@Example.com>" .bounce
    (some "arn:aws:sns:us-east-1:123456789012:bounces") { direct := ["bounce@example.org"] }
    (by decide +kernel) rfl ⟨[], "bounce@example.org", [], rfl, nofun, by decide +kernel⟩).2 (.inl (by decide +kernel))

theorem Office.not_always_noticeTopic_setTopic :
    ¬∀ (scope : Scope) (ops : List Post.Op) (domain source : String) (type : NotificationType) (topic : Option String)
        (d : Destination), domain? source = some (Text.lower domain) →
      ((Post.blank scope).run ops).1.identities.topic? (bareAddress source) type = none → Decides d.addresses type →
      noticeTopic? { ((Post.blank scope).run ops).1 with
          identities := ((Post.blank scope).run ops).1.identities.setTopic domain type topic } source d =
        topic.map (type, ·) := by
  intro always
  have told := always untouched.scope [] "Example.com" "me@Example.com" .bounce
    (some "arn:aws:sns:us-east-1:123456789012:bounces") { direct := ["bounce@example.org"] } (by decide +kernel) rfl
    ⟨[], "bounce@example.org", [], rfl, nofun, by decide +kernel⟩
  exact absurd told (by decide +kernel)

end MockCloud.Mail
