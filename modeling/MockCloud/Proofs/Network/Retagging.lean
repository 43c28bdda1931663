import MockCloud.Proofs.Network.Filing
import MockCloud.Proofs.Tag.Services
import MockCloud.Proofs.Tag.Violation
import MockCloud.Proofs.Tag.Writes

/-! # Changes of tags for a list of ids

Tags are put on the resources of a network, or taken off them, for a list of ids, which may name a resource more than
once. The whole list is checked first, against the tags as they are, and then changed id by id. An id that comes again
meets tags that have been changed already, but a change made twice is the change made once.

* `Network.bare`: what a network is without the tags of its resources. No change of tags is seen in it.
* `Retagged n m ids change`: the listed resources have changed tags in `m`, and nothing else is different.
* `held?_foldl_changeTags`: what a run through the list does at every kind and id.
* `tags_all_or_nothing`: when the two calls fail, and what they leave behind. -/

namespace MockCloud

/-! ### Tags over tags, and tags taken out -/

/-- The new tags are the old ones with those of the list over them. -/
def Overlaid (tags : List Tag) (old new : TagMap) : Prop :=
  ∀ key, new.get? key = (lastValue? tags key).or (old.get? key)

theorem overlaid_iff {tags : List Tag} {old new : TagMap} :
    Overlaid tags old new ↔ new = old.insertAll (TagMap.ofTags tags).entries := by
  simp only [Overlaid, ← TagMap.get?_ofTags, ← SortedMap.get?_insertAll_entries]
  exact ⟨SortedMap.ext_get?, fun same _ => by rw [same]⟩

/-- Where the tags of a resource keep the rules, a merge is allowed exactly if the tags that it gives keep them. -/
theorem TagPolicy.exists_merged_iff (tags : List Tag) {old : TagMap} (legal : old.Legal) :
    (∃ all, standard.merged old (.ofTags tags) = .ok all) ↔
      TagMap.Legal (old.insertAll (TagMap.ofTags tags).entries) := by
  constructor
  · rintro ⟨all, merged⟩
    rw [← (merged_eq_ok_iff.1 merged).2.2]
    exact TagMap.legal_of_merged legal merged
  · intro whole
    have free : ∀ key ∈ tags.map Tag.key, FreeKey key := fun key there =>
      whole.free key (SortedMap.mem_keys_insertAll_iff.2 (.inl (TagMap.mem_keys_ofTags_iff.2 there)))
    have few : SortedMap.size (old.insertAll (TagMap.ofTags tags).entries) ≤ 50 := by
      simpa [SortedMap.keys, SortedMap.size] using whole.few
    exact ⟨_, merged_eq_ok_iff.2 ⟨checkKeys_ofTags_eq_ok_iff.2 free, few, rfl⟩⟩

namespace Network

/-- The removal means the tag: it names the key, and no value or this one. -/
def TagRemoval.Means (r : TagRemoval) (key value : String) : Prop :=
  r.key = key ∧ (r.value = none ∨ r.value = some value)

/-- The new tags are the old ones without those that some removal means. -/
def Cleared (removals : List TagRemoval) (old new : TagMap) : Prop :=
  ∀ key value, new.get? key = some value ↔ old.get? key = some value ∧ ∀ r ∈ removals, ¬r.Means key value

theorem TagRemoval.get?_apply (tags : TagMap) (r : TagRemoval) (key value : String) :
    (TagRemoval.apply tags r).get? key = some value ↔ tags.get? key = some value ∧ ¬r.Means key value := by
  unfold TagRemoval.apply Means
  by_cases named : key = r.key
  · subst named
    cases there : tags.get? r.key with
    | none => simp [there]
    | some actual =>
      cases r.value with
      | none => simp [SortedMap.get?_erase]
      | some expected =>
        by_cases same : expected = actual
        · subst same
          simp [SortedMap.get?_erase]
        · simp only [if_neg same, there, Option.some.injEq, true_and, reduceCtorEq, false_or]
          exact ⟨fun is => ⟨is, fun again => same (again.trans is.symm)⟩, fun h => h.1⟩
  · have other : r.key ≠ key := Ne.symm named
    simp only [other, false_and, not_false_eq_true, and_true]
    split
    · split
      · rw [SortedMap.get?_erase, if_neg named]
      · rfl
    · rw [SortedMap.get?_erase, if_neg named]
    · rfl

theorem cleared_foldl_apply (removals : List TagRemoval) (tags : TagMap) :
    Cleared removals tags (removals.foldl TagRemoval.apply tags) := by
  intro key value
  induction removals generalizing tags with
  | nil => simp
  | cons r removals ih =>
    rw [List.foldl_cons, ih, TagRemoval.get?_apply, List.forall_mem_cons, and_assoc]

/-- Removals made once more find nothing to remove. -/
theorem foldl_apply_foldl_apply (removals : List TagRemoval) (tags : TagMap) :
    removals.foldl TagRemoval.apply (removals.foldl TagRemoval.apply tags) = removals.foldl TagRemoval.apply tags := by
  refine SortedMap.ext_get? fun key => Option.ext fun value => ?_
  rw [cleared_foldl_apply removals _ key value, cleared_foldl_apply removals tags key value, and_assoc, and_self]

/-! ### What is not tags -/

/-- An access list without its tags. -/
def Acl.bare (a : Acl) : Acl := { a with tags := .empty }

/-- A gateway without its tags. -/
def Gateway.bare (g : Gateway) : Gateway := { g with tags := .empty }

/-- A public address without its tags. -/
def PublicAddress.bare (a : PublicAddress) : PublicAddress := { a with tags := .empty }

/-- The network without the tags of its resources. -/
def bare (n : Network) : Network where
  scope := n.scope
  vpcs := n.vpcs.without Vpc.bare
  subnets := n.subnets.without Subnet.bare
  acls := n.acls.without Acl.bare
  gateways := n.gateways.without Gateway.bare
  addresses := n.addresses.without PublicAddress.bare

theorem bare_changeTags (n : Network) (id : String) (f : TagMap → TagMap) : (n.changeTags id f).bare = n.bare := by
  unfold changeTags
  split
  case h_6 => rfl
  all_goals
    unfold bare
    congr 1
    exact Store.without_modify _ _ _ fun _ => rfl

/-- A network is its resources without their tags, and the tags. -/
theorem eq_of_bare {n m : Network} (same : m.bare = n.bare) (held : ∀ kind id, m.held? kind id = n.held? kind id) :
    m = n := by
  have vpcs : m.vpcs = n.vpcs :=
    Store.eq_of_without Vpc.bare (fun r => (r.id, r.tags)) (congrArg Network.vpcs same)
      (fun a b bares parts => by cases a; cases b; simp_all [Vpc.bare]) (held .vpc)
  have subnets : m.subnets = n.subnets :=
    Store.eq_of_without Subnet.bare (fun r => (r.id, r.tags)) (congrArg Network.subnets same)
      (fun a b bares parts => by cases a; cases b; simp_all [Subnet.bare]) (held .subnet)
  have acls : m.acls = n.acls :=
    Store.eq_of_without Acl.bare (fun r => (r.id, r.tags)) (congrArg Network.acls same)
      (fun a b bares parts => by cases a; cases b; simp_all [Acl.bare]) (held .acl)
  have gateways : m.gateways = n.gateways :=
    Store.eq_of_without Gateway.bare (fun r => (r.id, r.tags)) (congrArg Network.gateways same)
      (fun a b bares parts => by cases a; cases b; simp_all [Gateway.bare]) (held .gateway)
  have addresses : m.addresses = n.addresses :=
    Store.eq_of_without PublicAddress.bare (fun r => (r.id, r.tags)) (congrArg Network.addresses same)
      (fun a b bares parts => by cases a; cases b; simp_all [PublicAddress.bare]) (held .address)
  have home : m.bare.scope = n.bare.scope := congrArg Network.scope same
  cases m
  cases n
  simp_all [bare]

/-! ### A run through the ids -/

/-- What a run through a list of ids does, if a change made twice is the change made once. -/
theorem held?_foldl_changeTags {f : String → TagMap → TagMap} (settled : ∀ id tags, f id (f id tags) = f id tags)
    (ids : List String) (n : Network) (kind : Kind) (k : String) :
    (ids.foldl (fun n id => n.changeTags id (f id)) n).held? kind k =
      if k ∈ ids ∧ Kind.ofId? k = some kind then (n.held? kind k).map fun x => (x.1, f k x.2)
      else n.held? kind k := by
  induction ids generalizing n with
  | nil => simp
  | cons id ids ih =>
    rw [List.foldl_cons, ih, held?_changeTags]
    by_cases same : k = id
    · subst same
      by_cases told : Kind.ofId? k = some kind
      · -- the id may come again further on
        have again (x : String × TagMap) : (x.1, f k (f k x.2)) = (x.1, f k x.2) := by rw [settled]
        by_cases listed : k ∈ ids <;> simp [told, listed, again, Function.comp_def]
      · simp [told]
    · simp [same]

theorem bare_foldl_changeTags (f : String → TagMap → TagMap) (ids : List String) (n : Network) :
    (ids.foldl (fun n id => n.changeTags id (f id)) n).bare = n.bare := by
  induction ids generalizing n with
  | nil => rfl
  | cons id ids ih => rw [List.foldl_cons, ih, bare_changeTags]

/-- In `m` the resources with these ids have changed tags, and nothing else is different from `n`. -/
structure Retagged (n m : Network) (ids : List String) (change : TagMap → TagMap → Prop) : Prop where
  rest : m.bare = n.bare
  listed : ∀ id ∈ ids, ∀ kind own old, n.held? kind id = some (own, old) →
    ∃ new, m.held? kind id = some (own, new) ∧ change old new
  others : ∀ kind id, id ∉ ids → m.held? kind id = n.held? kind id

section

variable {scope : Scope} {n : Network} (h : Filed scope n) {ids : List String} {id : String}
include h

theorem Filed.tagsOf?_eq_some_iff {tags : TagMap} :
    n.tagsOf? id = some tags ↔ ∃ kind own, n.held? kind id = some (own, tags) := by
  rw [Network.tagsOf?_eq_some_iff]
  exact ⟨fun ⟨kind, own, _, held⟩ => ⟨kind, own, held⟩,
    fun ⟨kind, own, held⟩ => ⟨kind, own, (h.titled held).2, held⟩⟩

theorem Filed.exists_tagsOf?_iff : (∃ tags, n.tagsOf? id = some tags) ↔ ∃ kind x, n.held? kind id = some x := by
  simp only [h.tagsOf?_eq_some_iff, Prod.exists]
  exact ⟨fun ⟨tags, kind, own, held⟩ => ⟨kind, own, tags, held⟩, fun ⟨kind, own, tags, held⟩ => ⟨tags, kind, own, held⟩⟩

theorem Filed.retagged_foldl {f : String → TagMap → TagMap} {change : TagMap → TagMap → Prop}
    (settled : ∀ id tags, f id (f id tags) = f id tags)
    (changes : ∀ id old, n.tagsOf? id = some old → change old (f id old)) :
    Retagged n (ids.foldl (fun n id => n.changeTags id (f id)) n) ids change where
  rest := bare_foldl_changeTags f ids n
  listed id there kind own old held := by
    refine ⟨f id old, ?_, changes id old (h.tagsOf?_eq_some_iff.2 ⟨kind, own, held⟩)⟩
    rw [held?_foldl_changeTags settled, if_pos ⟨there, (h.titled held).2⟩, held, Option.map_some]
  others kind id absent := by
    rw [held?_foldl_changeTags settled, if_neg fun both => absent both.1]

end

/-! ### Tags that are put on -/

/-- Tags may not be put on the resources with these ids: some id names no resource, or some resource would have tags
that break the rules. -/
inductive Hindered (n : Network) (ids : List String) (tags : List Tag) : Prop
  | unknown {id : String} (listed : id ∈ ids) (absent : ∀ kind, n.held? kind id = none)
  | unruly {id own : String} {kind : Kind} {old new : TagMap} (listed : id ∈ ids)
      (held : n.held? kind id = some (own, old)) (overlaid : Overlaid tags old new) (broken : ¬new.Legal)

/-- The tags of the resource with an id, with the new ones over them. -/
def overlay (n : Network) (tags : List Tag) (id : String) : TagMap :=
  ((n.tagsOf? id).getD .empty).insertAll (TagMap.ofTags tags).entries

section

variable {n : Network} {ids : List String} {tags : List Tag}

/-- The check of a list of ids passes if each of them names a resource that may have the tags. -/
theorem mergedTags_eq_ok (each : ∀ id ∈ ids, ∃ old all, n.tagsOf? id = some old ∧
    TagPolicy.standard.merged old (.ofTags tags) = .ok all) :
    n.mergedTags (.ofTags tags) ids = .ok (ids.map fun id => (id, n.overlay tags id)) := by
  induction ids with
  | nil => rfl
  | cons id ids ih =>
    obtain ⟨⟨old, all, there, merged⟩, each⟩ := List.forall_mem_cons.1 each
    have is : all = n.overlay tags id := by
      rw [overlay, there, Option.getD_some, (TagPolicy.merged_eq_ok_iff.1 merged).2.2]
    rw [mergedTags, requireTags, there, ih each]
    dsimp only [bind, Except.bind]
    rw [merged, is]
    rfl

/-- It stops at an id that names none, or one that may not have them. -/
theorem exists_mergedTags_eq_error {id : String} (listed : id ∈ ids)
    (no : ∀ old all, n.tagsOf? id = some old → TagPolicy.standard.merged old (.ofTags tags) ≠ .ok all) :
    ∃ e, n.mergedTags (.ofTags tags) ids = .error e := by
  induction ids with
  | nil => cases listed
  | cons id' ids ih =>
    rw [mergedTags, requireTags]
    cases there : n.tagsOf? id' with
    | none => exact ⟨_, rfl⟩
    | some old =>
      dsimp only [bind, Except.bind]
      cases merged : TagPolicy.standard.merged old (.ofTags tags) with
      | error v => exact ⟨_, rfl⟩
      | ok all =>
        rcases List.mem_cons.1 listed with rfl | later
        · exact absurd merged (no old all there)
        · obtain ⟨e, fails⟩ := ih later
          exact ⟨e, by rw [fails]; rfl⟩

theorem createTags_eq_ok (each : ∀ id ∈ ids, ∃ old all, n.tagsOf? id = some old ∧
    TagPolicy.standard.merged old (.ofTags tags) = .ok all) :
    n.createTags ids tags = .ok () (ids.foldl (fun n' id => n'.changeTags id fun _ => n.overlay tags id) n) := by
  rw [createTags, mergedTags_eq_ok each, Outcome.guard_ok, List.foldl_map]

variable {scope : Scope} (h : Filed scope n) (legal : n.LegalTags)
include h legal

theorem Filed.each_merged (free : ¬Hindered n ids tags) : ∀ id ∈ ids, ∃ old all, n.tagsOf? id = some old ∧
    TagPolicy.standard.merged old (.ofTags tags) = .ok all := by
  intro id listed
  obtain ⟨old, there⟩ : ∃ old, n.tagsOf? id = some old := by
    by_contra absent
    rw [h.exists_tagsOf?_iff] at absent
    exact free (.unknown listed fun kind => Option.eq_none_iff_forall_ne_some.2 fun x held => absent ⟨kind, x, held⟩)
  obtain ⟨kind, own, held⟩ := h.tagsOf?_eq_some_iff.1 there
  obtain ⟨all, merged⟩ := (TagPolicy.exists_merged_iff tags (legal.tagsOf? there)).2 <| by
    by_contra broken
    exact free (.unruly listed held (overlaid_iff.2 rfl) broken)
  exact ⟨old, all, there, merged⟩

theorem Filed.exists_createTags_eq_fail (hindered : Hindered n ids tags) : ∃ e, n.createTags ids tags = .fail e n := by
  have stops : ∃ e, n.mergedTags (.ofTags tags) ids = .error e := by
    cases hindered with
    | @unknown id listed absent =>
      refine exists_mergedTags_eq_error listed fun old all there => ?_
      obtain ⟨kind, own, held⟩ := h.tagsOf?_eq_some_iff.1 there
      cases (absent kind).symm.trans held
    | @unruly id own kind old new listed held overlaid broken =>
      refine exists_mergedTags_eq_error listed fun old' all there merged => ?_
      cases there.symm.trans (h.tagsOf?_eq_some_iff.2 ⟨kind, own, held⟩)
      rw [overlaid_iff.1 overlaid] at broken
      exact broken ((TagPolicy.exists_merged_iff tags (legal.tagsOf? there)).1 ⟨all, merged⟩)
  obtain ⟨e, stops⟩ := stops
  exact ⟨e, by rw [createTags, stops]; rfl⟩

theorem Filed.exists_createTags_eq_ok (free : ¬Hindered n ids tags) :
    ∃ m, n.createTags ids tags = .ok () m ∧ Retagged n m ids (Overlaid tags) := by
  refine ⟨_, createTags_eq_ok (h.each_merged legal free), h.retagged_foldl (fun _ _ => rfl) fun id old there => ?_⟩
  rw [overlaid_iff, overlay, there, Option.getD_some]

end

/-! ### Tags that are taken off -/

section

variable {scope : Scope} {n : Network} {ids : List String}

theorem forM_requireTags_eq_ok (known : ∀ id ∈ ids, ∃ tags, n.tagsOf? id = some tags) :
    (ids.forM fun id => (n.requireTags id).map fun _ => ()) = .ok () := by
  induction ids with
  | nil => rfl
  | cons id ids ih =>
    obtain ⟨⟨tags, there⟩, known⟩ := List.forall_mem_cons.1 known
    rw [List.forM, ih known, requireTags, there]
    rfl

theorem exists_forM_requireTags_eq_error {id : String} (listed : id ∈ ids) (absent : n.tagsOf? id = none) :
    ∃ e, (ids.forM fun id => (n.requireTags id).map fun _ => ()) = .error e := by
  induction ids with
  | nil => cases listed
  | cons id' ids ih =>
    rw [List.forM, requireTags]
    cases there : n.tagsOf? id' with
    | none => exact ⟨_, rfl⟩
    | some tags =>
      rcases List.mem_cons.1 listed with rfl | later
      · cases absent.symm.trans there
      · obtain ⟨e, fails⟩ := ih later
        exact ⟨e, by rw [fails]; rfl⟩

variable (h : Filed scope n) (removals : List TagRemoval)
include h

theorem Filed.exists_deleteTags_eq_fail {id : String} (listed : id ∈ ids) (absent : ∀ kind, n.held? kind id = none) :
    ∃ e, n.deleteTags ids removals = .fail e n := by
  have none : n.tagsOf? id = none := by
    refine Option.eq_none_iff_forall_ne_some.2 fun tags there => ?_
    obtain ⟨kind, own, held⟩ := h.tagsOf?_eq_some_iff.1 there
    cases (absent kind).symm.trans held
  obtain ⟨e, fails⟩ := exists_forM_requireTags_eq_error listed none
  exact ⟨e, by rw [deleteTags, fails]; rfl⟩

theorem Filed.exists_deleteTags_eq_ok (known : ∀ id ∈ ids, ∃ kind x, n.held? kind id = some x) :
    ∃ m, n.deleteTags ids removals = .ok () m ∧ Retagged n m ids (Cleared removals) := by
  have passes := forM_requireTags_eq_ok fun id listed => h.exists_tagsOf?_iff.2 (known id listed)
  refine ⟨_, by rw [deleteTags, passes]; rfl, h.retagged_foldl (fun _ => foldl_apply_foldl_apply removals) ?_⟩
  exact fun _ old _ => cleared_foldl_apply removals old

end

/-! ### After a run -/

theorem legalTags_run (scope : Scope) (ops : List Op) : ((blank scope).run ops).LegalTags := by
  refine run_keeps ?_ (fun _ op h => h.step op) ops
  constructor <;> exact Store.each_new _ _

/-- A call that fails without change in bad cases, and ends well in all others, does each in no other case. -/
theorem ends_iff {n : Network} {o : Outcome Network NetworkError Unit} {bad : Prop} {good : Network → Prop}
    (fails : bad → ∃ e, o = .fail e n) (ends : ¬bad → ∃ m, o = .ok () m ∧ good m) :
    ((∃ e, o = .fail e n) ↔ bad) ∧ ((∃ m, o = .ok () m ∧ good m) ↔ ¬bad) := by
  refine ⟨⟨?_, fails⟩, ⟨?_, ends⟩⟩
  · rintro ⟨e, failed⟩
    by_contra fine
    obtain ⟨m, ok, -⟩ := ends fine
    cases failed.symm.trans ok
  · rintro ⟨m, ok, -⟩ bad
    obtain ⟨e, failed⟩ := fails bad
    cases failed.symm.trans ok

/-- **Tags are put on all resources of a list or on none**, and so they are taken off. After any run of a network, tags
are refused exactly if some id of the list names no resource or some resource would have tags that break the rules, and
a removal exactly if some id names no resource; then nothing changes. Otherwise each listed resource has its old tags
with the new ones over them, or without those that some removal means, and nothing else is different. -/
theorem tags_all_or_nothing (scope : Scope) (ops : List Op) (ids : List String) (tags : List Tag)
    (removals : List TagRemoval) :
    let n := (blank scope).run ops
    ((∃ e, n.createTags ids tags = .fail e n) ↔ Hindered n ids tags) ∧
      ((∃ m, n.createTags ids tags = .ok () m ∧ Retagged n m ids (Overlaid tags)) ↔ ¬Hindered n ids tags) ∧
      ((∃ e, n.deleteTags ids removals = .fail e n) ↔ ∃ id ∈ ids, ∀ kind, n.held? kind id = none) ∧
      ((∃ m, n.deleteTags ids removals = .ok () m ∧ Retagged n m ids (Cleared removals)) ↔
        ∀ id ∈ ids, ∃ kind x, n.held? kind id = some x) := by
  intro n
  have filed : n.Filed scope := (filed_blank scope).run ops
  have legal : n.LegalTags := legalTags_run scope ops
  have all_known : (¬∃ id ∈ ids, ∀ kind, n.held? kind id = none) ↔ ∀ id ∈ ids, ∃ kind x, n.held? kind id = some x := by
    push Not
    simp only [Option.ne_none_iff_exists']
  obtain ⟨refused, tagged⟩ := ends_iff (filed.exists_createTags_eq_fail legal)
    (filed.exists_createTags_eq_ok legal)
  obtain ⟨unknown, cleared⟩ := ends_iff
    (fun ⟨_, listed, absent⟩ => filed.exists_deleteTags_eq_fail removals listed absent)
    (fun known => filed.exists_deleteTags_eq_ok removals (all_known.1 known))
  exact ⟨refused, tagged, unknown, cleared.trans all_known⟩

end Network

end MockCloud
