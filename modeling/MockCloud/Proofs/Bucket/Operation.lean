import MockCloud.Bucket.Basic

/-! # Runs of a shelf of buckets

The operations that change the buckets of an account, as data, and what each of them can do.

* `Effect s op o`: the rules by which an operation comes to its outcome. A refused operation leaves the
  shelf alone.
* `changeTags_cases`: the tags of a bucket change as a whole or not at all.
* `Filed.run`: every bucket stands under its own name, which is a legal one. -/

namespace MockCloud.Bucket.Shelf

/-- An operation that changes the shelf, with all its arguments. -/
inductive Op where
  | create (name region : String) (created : Instant)
  | delete (name : String)
  | putTags (name : String) (tags : List Tag)
  | deleteTags (name : String)
  | tag (name : String) (tags : List Tag)
  | untag (name : String) (keys : List String)
  | putLifecycle (name : String) (rules : List LifecycleRule)
  | deleteLifecycle (name : String)

/-- The outcome of an operation, its answer left out. -/
def perform (s : Shelf) : Op → Outcome Shelf BucketError Unit
  | .create name region created => (s.create name region created).done
  | .delete name => s.delete name
  | .putTags name tags => s.putTags name tags
  | .deleteTags name => s.deleteTags name
  | .tag name tags => s.tag name tags
  | .untag name keys => s.untag name keys
  | .putLifecycle name rules => s.putLifecycle name rules
  | .deleteLifecycle name => s.deleteLifecycle name

/-- The shelf after an operation, whether it succeeds or fails. -/
def step (s : Shelf) (op : Op) : Shelf :=
  (s.perform op).state

/-- The shelf after a run. -/
def run (s : Shelf) (ops : List Op) : Shelf :=
  ops.foldl step s

/-- A shelf without buckets. -/
def blank (scope : Scope) : Shelf :=
  Backend.new scope

/-- The shelf with a bucket under a name. -/
def put (s : Shelf) (name : String) (b : Bucket) : Shelf :=
  { s with buckets := s.buckets.put name b }

/-- The shelf without the bucket of a name. -/
def drop (s : Shelf) (name : String) : Shelf :=
  { s with buckets := s.buckets.drop name }

/-! ### The rules -/

/-- The bucket operations that set the tags of a bucket to `new`, where `old` are those it has. -/
inductive Retags : Op → String → Option TagMap → Option TagMap → Prop
  | put {name : String} {tags : List Tag} {old : Option TagMap} (unique : TagPolicy.checkUnique tags = .ok ())
      (allowed : TagPolicy.standard.checkReplacement (.ofTags tags) = .ok ()) :
      Retags (.putTags name tags) name old (some (.ofTags tags))
  | delete {name : String} {old : Option TagMap} : Retags (.deleteTags name) name old none
  | tag {name : String} {tags : List Tag} {old : Option TagMap} {all : TagMap}
      (merged : TagPolicy.standard.merged (old.getD .empty) (.ofTags tags) = .ok all) :
      Retags (.tag name tags) name old (some all)
  | untag {name : String} {keys : List String} {old : Option TagMap} :
      Retags (.untag name keys) name old (old.map fun tags => tags.eraseKeys keys)

/-- The rules by which an operation on `s` comes to its outcome. -/
inductive Effect (s : Shelf) : Op → Outcome Shelf BucketError Unit → Prop
  | refused {op : Op} (e : BucketError) : Effect s op (.fail e s)
  | created {name region : String} {created : Instant} (free : s.buckets.get? name = none)
      (legal : isName name = true) :
      Effect s (.create name region created) (.ok () (s.put name ⟨name, region, created, none, none⟩))
  | deleted {name : String} {b : Bucket} (there : s.buckets.get? name = some b) :
      Effect s (.delete name) (.ok () (s.drop name))
  | retagged {op : Op} {name : String} {b : Bucket} {tags : Option TagMap}
      (there : s.buckets.get? name = some b) (retags : Retags op name b.tags tags) :
      Effect s op (.ok () (s.put name { b with tags }))
  | lifecyclePut {name : String} {rules : List LifecycleRule} {b : Bucket}
      (there : s.buckets.get? name = some b) (valid : validateRules rules = .ok ()) :
      Effect s (.putLifecycle name rules) (.ok () (s.put name { b with lifecycle := some rules }))
  | lifecycleDeleted {name : String} {b : Bucket} (there : s.buckets.get? name = some b) :
      Effect s (.deleteLifecycle name) (.ok () (s.put name { b with lifecycle := none }))

/-- Tags are changed as a whole; where the bucket is missing or the change refuses, nothing has changed. -/
theorem changeTags_cases (s : Shelf) (name : String) (f : Option TagMap → Except BucketError (Option TagMap)) :
    (∃ e, s.changeTags name f = .fail e s ∧
        ∀ b tags, s.buckets.get? name = some b → f b.tags ≠ .ok tags) ∨
      ∃ b tags, s.buckets.get? name = some b ∧ f b.tags = .ok tags ∧
        s.changeTags name f = .ok () (s.put name { b with tags }) := by
  unfold changeTags get
  rcases Store.require_cases s.buckets name with ⟨missing, h⟩ | ⟨b, there, h⟩
  · refine .inl ⟨_, by rw [h]; rfl, fun b tags there => ?_⟩
    cases missing.symm.trans there
  · rw [h, Outcome.guard_ok]
    rcases Outcome.guard_cases (f b.tags) s _ with ⟨e, he, h⟩ | ⟨tags, new, h⟩
    · refine .inl ⟨e, h, fun b' tags there' new => ?_⟩
      cases there.symm.trans there'
      cases he.symm.trans new
    · refine .inr ⟨b, tags, there, new, ?_⟩
      rw [h, Store.modify_of_get? there]
      rfl

theorem create_effect (s : Shelf) (name region : String) (created : Instant) :
    Effect s (.create name region created) (s.create name region created).done := by
  unfold create
  rcases Store.create_cases s.buckets name (region, created) with ⟨e, -, h⟩ | ⟨b, free, made, h⟩
  · rw [h]; exact .refused e
  · rw [h]
    change make name region created = .ok b at made
    unfold make at made
    split at made
    · next legal => cases made; exact .created free legal
    · cases made

theorem delete_effect (s : Shelf) (name : String) : Effect s (.delete name) (s.delete name) := by
  unfold delete
  rcases Store.delete_cases s.buckets name with ⟨e, h⟩ | ⟨b, there, -, h⟩
  · rw [h]; exact .refused e
  · rw [h]; exact .deleted there

theorem changeTags_effect (s : Shelf) {op : Op} {name : String}
    {f : Option TagMap → Except BucketError (Option TagMap)}
    (retags : ∀ old tags, f old = .ok tags → Retags op name old tags) : Effect s op (s.changeTags name f) := by
  rcases changeTags_cases s name f with ⟨e, h, -⟩ | ⟨b, tags, there, new, h⟩
  · rw [h]; exact .refused e
  · rw [h]; exact .retagged there (retags _ _ new)

theorem putTags_effect (s : Shelf) (name : String) (tags : List Tag) :
    Effect s (.putTags name tags) (s.putTags name tags) := by
  unfold putTags
  rcases Outcome.guard_mapError_cases (TagPolicy.checkUnique tags) BucketError.ofTags s _ with
    ⟨e, -, h⟩ | ⟨⟨⟩, unique, h⟩
  · rw [h]; exact .refused _
  rw [h]
  rcases Outcome.guard_mapError_cases (TagPolicy.standard.checkReplacement (.ofTags tags)) BucketError.ofTags s _
    with ⟨e, -, h⟩ | ⟨⟨⟩, allowed, h⟩
  · rw [h]; exact .refused _
  rw [h]
  refine changeTags_effect s fun old new is => ?_
  cases is
  exact .put unique allowed

theorem setLifecycle_cases (b : Bucket) (rules : Option (List LifecycleRule)) :
    (∃ e, b.setLifecycle rules = .fail e b) ∨
      validateRules (rules.getD []) = .ok () ∧ b.setLifecycle rules = .ok () { b with lifecycle := rules } := by
  unfold setLifecycle
  rcases Outcome.guard_cases (validateRules (rules.getD [])) b _ with ⟨e, -, h⟩ | ⟨⟨⟩, valid, h⟩
  · exact .inl ⟨e, h⟩
  · exact .inr ⟨valid, h⟩

theorem update_cases (s : Shelf) (name : String) (rules : Option (List LifecycleRule)) :
    (∃ e, ((s.buckets.update name rules).within ({ s with buckets := · })).done = .fail e s) ∨
      ∃ b, s.buckets.get? name = some b ∧ validateRules (rules.getD []) = .ok () ∧
        ((s.buckets.update name rules).within ({ s with buckets := · })).done =
          .ok () (s.put name { b with lifecycle := rules }) := by
  rcases Store.update_cases s.buckets name rules with ⟨-, h⟩ | ⟨b, b', there, ⟨hb, h⟩ | ⟨e, hb, h⟩⟩
  · exact .inl ⟨_, by rw [h]; rfl⟩
  all_goals
    change b.setLifecycle rules = _ at hb
    rcases setLifecycle_cases b rules with ⟨e', he⟩ | ⟨valid, ok⟩
  · cases he.symm.trans hb
  · cases ok.symm.trans hb
    exact .inr ⟨b, there, valid, by rw [h]; rfl⟩
  · cases he.symm.trans hb
    exact .inl ⟨_, by rw [h, Store.put_of_get? there]; rfl⟩
  · cases ok.symm.trans hb

/-- Every operation obeys a rule. -/
theorem perform_effect (s : Shelf) (op : Op) : Effect s op (s.perform op) := by
  cases op with
  | create name region created => exact create_effect s name region created
  | delete name => exact delete_effect s name
  | putTags name tags => exact putTags_effect s name tags
  | deleteTags name =>
    rw [perform, deleteTags]
    refine changeTags_effect s fun old new is => ?_
    cases is
    exact .delete
  | tag name tags =>
    rw [perform, tag]
    refine changeTags_effect s fun old new is => ?_
    cases merged : TagPolicy.standard.merged (old.getD .empty) (.ofTags tags) with
    | error v => rw [merged] at is; cases is
    | ok all => rw [merged] at is; cases is; exact .tag merged
  | untag name keys =>
    rw [perform, untag]
    refine changeTags_effect s fun old new is => ?_
    cases is
    exact .untag
  | putLifecycle name rules =>
    rw [perform, putLifecycle]
    rcases update_cases s name (some rules) with ⟨e, h⟩ | ⟨b, there, valid, h⟩
    · rw [h]; exact .refused e
    · rw [h]; exact .lifecyclePut there valid
  | deleteLifecycle name =>
    rw [perform, deleteLifecycle]
    rcases update_cases s name none with ⟨e, h⟩ | ⟨b, there, -, h⟩
    · rw [h]; exact .refused e
    · rw [h]; exact .lifecycleDeleted there

/-! ### Where buckets stand -/

/-- The shelf belongs to a place, and its buckets stand under their names, which are legal. -/
structure Filed (scope : Scope) (s : Shelf) : Prop where
  home : s.scope = scope
  each : s.buckets.Each fun name b => b.name = name ∧ isName name = true

theorem filed_blank (scope : Scope) : Filed scope (blank scope) :=
  ⟨rfl, Store.each_new _ _⟩

theorem Effect.filed {scope : Scope} {s : Shelf} {op : Op} {o : Outcome Shelf BucketError Unit}
    (effect : Effect s op o) (h : Filed scope s) : Filed scope o.state := by
  cases effect with
  | refused e => exact h
  | created _ legal => exact ⟨h.home, h.each.put ⟨rfl, legal⟩⟩
  | deleted _ => exact ⟨h.home, h.each.drop _⟩
  | retagged there _ | lifecyclePut there _ | lifecycleDeleted there =>
    have filed := h.each _ _ there
    exact ⟨h.home, h.each.put filed⟩

theorem Filed.run {scope : Scope} {s : Shelf} (h : Filed scope s) (ops : List Op) :
    Filed scope (s.run ops) := by
  refine List.foldlRecOn ops step h fun s hs op _ => ?_
  exact (perform_effect s op).filed hs

end MockCloud.Bucket.Shelf
