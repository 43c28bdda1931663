import MockCloud.Role.Directory

/-! # Runs of a directory of roles

The operations that change the roles of an account, as data, and what each of them can do. What a new role
draws is among the arguments of the operation that makes it.

* `change_cases`: the three ways in which a change of a role ends. The one that stops at the session
  duration has the new policy and the new description written already (`retexted`).
* `make_eq_ok`: what a role that is made has been checked for, and what it is.
* `Effect d op o`: the rules by which an operation comes to its outcome. A refused operation leaves the
  directory alone; `changeLeft` is the one way to fail half-way.
* `perform_effect`: every operation obeys a rule. -/

namespace MockCloud.Role

/-! ### Changing one role -/

/-- Whether the change brings no policy or one that is JSON. -/
def Change.readable (c : Change) : Bool :=
  c.policy.all fun document => (Json.Value.parse? document).isSome

/-- Whether the change brings no session duration or one within the bounds. -/
def Change.lasting (c : Change) : Bool :=
  c.maxSessionDuration.all fun seconds => 3600 ≤ seconds ∧ seconds ≤ 43200

/-- The role with the policy and the description that the change brings. -/
def retexted (r : Role) (c : Change) : Role :=
  { r with policy := c.policy.getD r.policy, description := c.description <|> r.description }

/-- The role with all that the change brings. -/
def changed (r : Role) (c : Change) : Role :=
  { r.retexted c with maxSessionDuration := c.maxSessionDuration.getD r.maxSessionDuration }

theorem readPolicy_cases (document : String) :
    ((Json.Value.parse? document).isSome = false ∧ readPolicy document = .error .malformedPolicy) ∨
      (Json.Value.parse? document).isSome = true ∧ ∃ v, readPolicy document = .ok v := by
  unfold readPolicy
  cases h : Json.Value.parse? document with
  | none => exact .inl ⟨rfl, rfl⟩
  | some v => exact .inr ⟨rfl, v, rfl⟩

theorem setPolicy_cases (r : Role) (c : Change) :
    (c.readable = false ∧ r.setPolicy c.policy = .fail .malformedPolicy r) ∨
      c.readable = true ∧ r.setPolicy c.policy = .ok () { r with policy := c.policy.getD r.policy } := by
  unfold Change.readable
  cases c.policy with
  | none => exact .inr ⟨rfl, rfl⟩
  | some document =>
    rcases readPolicy_cases document with ⟨hp, h⟩ | ⟨hp, v, h⟩
    · exact .inl ⟨hp, by rw [setPolicy, h]; rfl⟩
    · exact .inr ⟨hp, by rw [setPolicy, h]; rfl⟩

theorem setDuration_cases (r : Role) (c : Change) :
    (∃ seconds, c.maxSessionDuration = some seconds ∧ c.lasting = false ∧
        r.setDuration c.maxSessionDuration = .fail (.invalidDuration seconds) r) ∨
      c.lasting = true ∧ r.setDuration c.maxSessionDuration =
        .ok () { r with maxSessionDuration := c.maxSessionDuration.getD r.maxSessionDuration } := by
  unfold Change.lasting
  cases c.maxSessionDuration with
  | none => exact .inr ⟨rfl, rfl⟩
  | some seconds =>
    by_cases h : 3600 ≤ seconds ∧ seconds ≤ 43200
    · exact .inr ⟨by simpa using h, if_pos h⟩
    · exact .inl ⟨seconds, rfl, by simpa using h, if_neg h⟩

theorem change_cases (r : Role) (c : Change) :
    (c.readable = false ∧ r.change c = .fail .malformedPolicy r) ∨
      (c.readable = true ∧ ∃ seconds, c.maxSessionDuration = some seconds ∧ c.lasting = false ∧
        r.change c = .fail (.invalidDuration seconds) (r.retexted c)) ∨
      c.readable = true ∧ c.lasting = true ∧ r.change c = .ok () (r.changed c) := by
  unfold change
  rcases setPolicy_cases r c with ⟨hp, h⟩ | ⟨hp, h⟩
  · exact .inl ⟨hp, by rw [h]; rfl⟩
  · rw [h, Outcome.bind_ok]
    rcases setDuration_cases (r.retexted c) c with ⟨seconds, hs, hl, h⟩ | ⟨hl, h⟩
    · exact .inr (.inl ⟨hp, seconds, hs, hl, h⟩)
    · exact .inr (.inr ⟨hp, hl, h⟩)

/-! ### Making one -/

/-- The path that a role is made with. -/
def New.pathOr (p : New) : String :=
  p.path.getD "/"

/-- The role that is made if the checks pass. -/
def fresh (name : String) (p : New) (scope : Scope) : Role where
  name
  id := "AROA" ++ p.idStem
  arn := scope.globalArn "iam" ("role" ++ p.pathOr ++ name)
  path := p.pathOr
  policy := p.policy
  description := p.description
  maxSessionDuration := p.maxSessionDuration.getD usualSessionDuration
  created := p.created
  tags := .ofTags p.tags

/-- What is checked when a role is made. The session duration is not. -/
structure New.Checked (p : New) : Prop where
  readable : (Json.Value.parse? p.policy).isSome = true
  unique : TagPolicy.checkUnique p.tags = .ok ()
  allowed : TagPolicy.standard.checkReplacement (.ofTags p.tags) = .ok ()
  opened : ∃ rest, p.pathOr = "/" ++ rest
  closed : ∃ front, p.pathOr = front ++ "/"

theorem make_eq_ok {name : String} {p : New} {scope : Scope} {r : Role} (made : make name p scope = .ok r) :
    p.Checked ∧ r = fresh name p scope := by
  unfold make at made
  dsimp only at made
  rcases readPolicy_cases p.policy with ⟨-, read⟩ | ⟨readable, v, read⟩
  · rw [read] at made; cases made
  cases unique : TagPolicy.checkUnique p.tags with
  | error v => rw [read, unique] at made; cases made
  | ok _ =>
    cases allowed : TagPolicy.standard.checkReplacement (.ofTags p.tags) with
    | error v => rw [read, unique, allowed] at made; cases made
    | ok _ =>
      rw [read, unique, allowed] at made
      dsimp only [bind, Except.bind, Except.mapError] at made
      split at made
      · cases made
      · next slashes =>
        simp only [Bool.or_eq_true, Bool.not_eq_true', not_or, Bool.not_eq_false] at slashes
        cases made
        exact ⟨⟨readable, unique, allowed, Text.beginsWith_iff.1 slashes.1, Text.endsWith_iff.1 slashes.2⟩, rfl⟩

namespace Directory

/-! ### Operations -/

/-- An operation that changes the directory, with all its arguments. -/
inductive Op where
  | create (name : String) (p : New)
  | update (name : String) (c : Change)
  | updatePolicy (name document : String)
  | delete (name : String)
  | tag (name : String) (tags : List Tag)
  | untag (name : String) (keys : List String)

/-- The outcome of an operation, its answer left out. -/
def perform (d : Directory) : Op → Outcome Directory RoleError Unit
  | .create name p => (d.create name p).done
  | .update name c => (d.update name c).done
  | .updatePolicy name document => d.updatePolicy name document
  | .delete name => d.delete name
  | .tag name tags => d.tag name tags
  | .untag name keys => d.untag name keys

/-- The directory after an operation, whether it succeeds or fails. -/
def step (d : Directory) (op : Op) : Directory :=
  (d.perform op).state

/-- The directory after a run. -/
def run (d : Directory) (ops : List Op) : Directory :=
  ops.foldl step d

/-- A directory without roles. -/
def blank (scope : Scope) : Directory :=
  Backend.new scope

/-- The directory with a role under a name. -/
def put (d : Directory) (name : String) (r : Role) : Directory :=
  { d with roles := d.roles.put name r }

/-- The directory without the role of a name. -/
def drop (d : Directory) (name : String) : Directory :=
  { d with roles := d.roles.drop name }

theorem get?_put (d : Directory) (name k : String) (r : Role) :
    (d.put name r).roles.get? k = if k = name then some r else d.roles.get? k :=
  Store.get?_put ..

theorem put_of_get? {d : Directory} {name : String} {r : Role} (h : d.roles.get? name = some r) :
    d.put name r = d := by
  rw [put, Store.put_of_get? h]

/-! ### The rules -/

/-- The rules by which an operation on `d` comes to its outcome. -/
inductive Effect (d : Directory) : Op → Outcome Directory RoleError Unit → Prop
  | refused {op : Op} (e : RoleError) : Effect d op (.fail e d)
  | created {name : String} {p : New} {r : Role} (free : d.roles.get? name = none)
      (made : Role.make name p d.roles.context = .ok r) : Effect d (.create name p) (.ok () (d.put name r))
  | changed {name : String} {c : Change} {r : Role} (there : d.roles.get? name = some r)
      (readable : c.readable = true) (lasting : c.lasting = true) :
      Effect d (.update name c) (.ok () (d.put name (r.changed c)))
  | changeLeft {name : String} {c : Change} {r : Role} {seconds : Nat}
      (there : d.roles.get? name = some r) (readable : c.readable = true)
      (brought : c.maxSessionDuration = some seconds) (off : c.lasting = false) :
      Effect d (.update name c) (.fail (.invalidDuration seconds) (d.put name (r.retexted c)))
  | policyChanged {name document : String} {r : Role} {v : Json.Value}
      (there : d.roles.get? name = some r) (read : readPolicy document = .ok v) :
      Effect d (.updatePolicy name document) (.ok () (d.put name { r with policy := document }))
  | deleted {name : String} {r : Role} (there : d.roles.get? name = some r) :
      Effect d (.delete name) (.ok () (d.drop name))
  | tagged {name : String} {tags : List Tag} {r : Role} {all : TagMap}
      (unique : TagPolicy.checkUnique tags = .ok ()) (there : d.roles.get? name = some r)
      (merged : TagPolicy.standard.merged r.tags (.ofTags tags) = .ok all) :
      Effect d (.tag name tags) (.ok () (d.put name { r with tags := all }))
  | untagged {name : String} {keys : List String} {r : Role} (there : d.roles.get? name = some r) :
      Effect d (.untag name keys) (.ok () (d.put name { r with tags := r.tags.eraseKeys keys }))

theorem create_effect (d : Directory) (name : String) (p : New) :
    Effect d (.create name p) (d.create name p).done := by
  unfold create
  rcases Store.create_cases d.roles name p with ⟨e, -, h⟩ | ⟨r, free, made, h⟩
  · rw [h]; exact .refused e
  · rw [h]; exact .created free made

theorem update_effect (d : Directory) (name : String) (c : Change) :
    Effect d (.update name c) (d.update name c).done := by
  unfold update
  rcases Store.update_cases d.roles name c with ⟨-, h⟩ | ⟨r, r', there, ⟨hc, h⟩ | ⟨e, hc, h⟩⟩
  · rw [h]; exact .refused _
  · rw [h]
    change r.change c = _ at hc
    rcases change_cases r c with ⟨-, h'⟩ | ⟨-, s, -, -, h'⟩ | ⟨readable, lasting, h'⟩
    all_goals cases h'.symm.trans hc
    exact .changed there readable lasting
  · rw [h]
    change r.change c = _ at hc
    rcases change_cases r c with ⟨-, h'⟩ | ⟨readable, s, brought, off, h'⟩ | ⟨-, -, h'⟩
    all_goals cases h'.symm.trans hc
    · have same : d.roles.put name r = d.roles := Store.put_of_get? there
      rw [same]
      exact .refused _
    · exact .changeLeft there readable brought off

theorem updatePolicy_effect (d : Directory) (name document : String) :
    Effect d (.updatePolicy name document) (d.updatePolicy name document) := by
  unfold updatePolicy
  have effect := update_effect d name { policy := some document }
  generalize (d.update name { policy := some document }).done = o at effect ⊢
  cases effect with
  | refused e => exact .refused e
  | changeLeft _ _ brought _ => cases brought
  | @changed _ _ r there readable _ =>
    rcases readPolicy_cases document with ⟨unread, -⟩ | ⟨-, v, read⟩
    · cases readable.symm.trans unread
    · exact .policyChanged (r := r) there read

theorem delete_effect (d : Directory) (name : String) : Effect d (.delete name) (d.delete name) := by
  unfold delete
  rcases Store.delete_cases d.roles name with ⟨e, h⟩ | ⟨r, there, -, h⟩
  · rw [h]; exact .refused e
  · rw [h]; exact .deleted there

theorem get_cases (d : Directory) (name : String) :
    (∃ e, d.get name = .error e) ∨ ∃ r, d.roles.get? name = some r ∧ d.get name = .ok r := by
  rcases Store.require_cases d.roles name with ⟨-, h⟩ | ⟨r, there, h⟩
  · exact .inl ⟨_, h⟩
  · exact .inr ⟨r, there, h⟩

theorem tag_effect (d : Directory) (name : String) (tags : List Tag) :
    Effect d (.tag name tags) (d.tag name tags) := by
  unfold tag
  rcases Outcome.guard_mapError_cases (TagPolicy.checkUnique tags) RoleError.ofTags d _ with
    ⟨e, -, h⟩ | ⟨⟨⟩, unique, h⟩
  · rw [h]; exact .refused _
  · rw [h]
    rcases get_cases d name with ⟨e, h⟩ | ⟨r, there, h⟩
    · rw [h]; exact .refused e
    · rw [h, Outcome.guard_ok]
      rcases Outcome.guard_mapError_cases (TagPolicy.standard.merged r.tags (.ofTags tags))
        RoleError.ofTags d _ with ⟨e, -, h⟩ | ⟨all, merged, h⟩
      · rw [h]; exact .refused _
      · rw [h, Store.modify_of_get? there]
        exact .tagged unique there merged

theorem untag_effect (d : Directory) (name : String) (keys : List String) :
    Effect d (.untag name keys) (d.untag name keys) := by
  unfold untag
  rcases get_cases d name with ⟨e, h⟩ | ⟨r, there, h⟩
  · rw [h]; exact .refused e
  · rw [h, Outcome.guard_ok, Store.modify_of_get? there]
    exact .untagged there

/-- Every operation obeys a rule. -/
theorem perform_effect (d : Directory) (op : Op) : Effect d op (d.perform op) := by
  cases op with
  | create name p => exact create_effect d name p
  | update name c => exact update_effect d name c
  | updatePolicy name document => exact updatePolicy_effect d name document
  | delete name => exact delete_effect d name
  | tag name tags => exact tag_effect d name tags
  | untag name keys => exact untag_effect d name keys

end Directory

end MockCloud.Role
