import MockCloud.Role.Basic

/-! # The directory of roles

The roles of an account. There is one directory for all regions. -/

namespace MockCloud.Role

/-- The roles of an account. -/
structure Directory where
  scope : Scope
  roles : Store Role Scope

instance : Backend Directory where
  service := "iam"
  isGlobal := true
  new scope := ⟨scope, .new scope⟩
  scope := Directory.scope

namespace Directory

/-- Sizes of the pages of roles. -/
def pageLimits : PageLimits := ⟨100, 1000⟩

/-- Makes a role. -/
def create (d : Directory) (name : String) (p : New) : Outcome Directory RoleError Role :=
  (d.roles.create name p).within ({ d with roles := · })

/-- The role of a name. -/
def get (d : Directory) (name : String) : Except RoleError Role :=
  d.roles.require name

/-- The first role, in the order of names, with this resource name. -/
def getByArn (d : Directory) (arn : String) : Except RoleError Role :=
  match d.roles.values.find? (·.arn == arn) with
  | some r => .ok r
  | none => .error (.arnNotFound arn)

/-- The roles in the order of their names, those whose path begins with `pathStart` if one is given. -/
def list (d : Directory) (pathStart : Option String) (request : PageRequest) :
    Except RoleError (Page Role) :=
  let roles := d.roles.values.filter fun r => pathStart.all fun start => Text.beginsWith r.path start
  let params := .record [("path_prefix", Json.Tree.option .str pathStart)]
  (paginate roles request pageLimits params Role.name).mapError .invalidPageToken

/-- Changes a role. -/
def update (d : Directory) (name : String) (c : Change) : Outcome Directory RoleError Role :=
  (d.roles.update name c).within ({ d with roles := · })

/-- Sets the trust policy of a role. -/
def updatePolicy (d : Directory) (name document : String) : Outcome Directory RoleError Unit :=
  (d.update name { policy := some document }).done

/-- Removes a role. -/
def delete (d : Directory) (name : String) : Outcome Directory RoleError Unit :=
  ((d.roles.delete name).within ({ d with roles := · })).done

/-- Puts tags on a role; the list may name a key only once. -/
def tag (d : Directory) (name : String) (tags : List Tag) : Outcome Directory RoleError Unit :=
  .guard ((TagPolicy.checkUnique tags).mapError RoleError.ofTags) d fun _ =>
    .guard (d.get name) d fun r =>
      .guard ((TagPolicy.standard.merged r.tags (.ofTags tags)).mapError RoleError.ofTags) d fun all =>
        .ok () { d with roles := d.roles.modify name fun r => { r with tags := all } }

/-- Takes tags off a role. -/
def untag (d : Directory) (name : String) (keys : List String) : Outcome Directory RoleError Unit :=
  .guard (d.get name) d fun _ =>
    .ok () { d with roles := d.roles.modify name fun r => { r with tags := r.tags.eraseKeys keys } }

/-- The tags of a role in the order of their keys. -/
def tagsOf (d : Directory) (name : String) : Except RoleError (List Tag) :=
  (d.get name).map fun r => r.tags.toTags

end Directory

end MockCloud.Role
