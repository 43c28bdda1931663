import MockCloud.Proofs.Role.Operation

/-! # Where roles stand

What a role is checked for when it is made holds of it as long as it is there. A change reads a new policy
before it writes it, and one that stops at the session duration afterwards has read the policy that it leaves.
Name, path and resource name are never written again.

* `Recorded scope name r`: what holds of a role that stands under a name.
* `Filed.run`: it holds of every role, after every run. -/

namespace MockCloud.Role

/-- The role has the name that it stands under, a policy that can be read, a path between slashes, and the
resource name made of path and name. -/
structure Recorded (scope : Scope) (name : String) (r : Role) : Prop where
  named : r.name = name
  readable : ∃ policy, Json.Value.parse? r.policy = some policy
  opened : ∃ rest, r.path = "/" ++ rest
  closed : ∃ front, r.path = front ++ "/"
  arn : r.arn = scope.globalArn "iam" ("role" ++ r.path ++ r.name)

section

variable {scope : Scope} {name : String} {r : Role}

theorem recorded_of_make {p : New} (made : make name p scope = .ok r) : Recorded scope name r := by
  obtain ⟨checked, rfl⟩ := make_eq_ok made
  exact ⟨rfl, Option.isSome_iff_exists.1 checked.readable, checked.opened, checked.closed, rfl⟩

theorem Recorded.withPolicy (h : Recorded scope name r) {document : String} {v : Json.Value}
    (read : readPolicy document = .ok v) : Recorded scope name { r with policy := document } := by
  rcases readPolicy_cases document with ⟨-, unread⟩ | ⟨readable, -⟩
  · cases unread.symm.trans read
  · exact { h with readable := Option.isSome_iff_exists.1 readable }

/-- The texts of a change that can be read are as good as those that they replace. -/
theorem Recorded.retexted (h : Recorded scope name r) {c : Change} (readable : c.readable = true) :
    Recorded scope name (r.retexted c) := by
  refine { h with readable := ?_ }
  change ∃ policy, Json.Value.parse? (c.policy.getD r.policy) = some policy
  unfold Change.readable at readable
  cases brought : c.policy with
  | none => exact h.readable
  | some document =>
    rw [brought] at readable
    exact Option.isSome_iff_exists.1 readable

theorem Recorded.changed (h : Recorded scope name r) {c : Change} (readable : c.readable = true) :
    Recorded scope name (r.changed c) :=
  { h.retexted readable with }

end

namespace Directory

/-- An account. -/
def account : Scope :=
  { account := "123456789012", region := globalRegion }

/-- The directory belongs to a place, and its roles stand where their names say. -/
structure Filed (scope : Scope) (d : Directory) : Prop where
  home : d.scope = scope
  context : d.roles.context = scope
  each : d.roles.Each (Recorded scope)

section

variable {scope : Scope} {d : Directory}

theorem filed_blank (scope : Scope) : Filed scope (blank scope) :=
  ⟨rfl, rfl, Store.each_new _ _⟩

theorem Filed.put (h : Filed scope d) {name : String} {r : Role} (recorded : Recorded scope name r) :
    Filed scope (d.put name r) :=
  ⟨h.home, h.context, h.each.put recorded⟩

theorem Filed.step (h : Filed scope d) (op : Op) : Filed scope (d.step op) := by
  have effect := d.perform_effect op
  unfold Directory.step
  generalize d.perform op = o at effect ⊢
  cases effect with
  | refused e => exact h
  | created _ made =>
    rw [h.context] at made
    exact h.put (recorded_of_make made)
  | changed there readable _ => exact h.put ((h.each _ _ there).changed readable)
  | changeLeft there readable _ _ => exact h.put ((h.each _ _ there).retexted readable)
  | policyChanged there read => exact h.put ((h.each _ _ there).withPolicy read)
  | deleted _ => exact ⟨h.home, h.context, h.each.drop _⟩
  | tagged _ there _ | untagged there =>
    have recorded := h.each _ _ there
    exact h.put { recorded with }

/-- **A run keeps its roles in order.** -/
theorem Filed.run (h : Filed scope d) (ops : List Op) : Filed scope (d.run ops) :=
  List.foldlRecOn ops Directory.step h fun _ hd op _ => hd.step op

end

end Directory

end MockCloud.Role
