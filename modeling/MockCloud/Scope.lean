import MockCloud.Arn
import MockCloud.SortedMap

/-! # Places and backends

A backend is the state of one service at one place: an account and a region. A registry keeps the
backends of one service and makes a backend when it is first asked for. A service that is global has one
backend for each account, which stands under the region `global`.

* `Registry.visit` runs an operation on a backend, making it first if need be. -/

namespace MockCloud

/-- Where a backend lives. -/
structure Scope where
  account : String
  region : String
  partition : String := "aws"
  deriving DecidableEq, Repr, Inhabited

namespace Scope

/-- The name of a resource of this place. -/
def arn (s : Scope) (service resource : String) : String :=
  Arn.render ⟨s.partition, service, s.region, s.account, resource⟩

/-- The name of a resource of this account, without a region. -/
def globalArn (s : Scope) (service resource : String) : String :=
  Arn.render ⟨s.partition, service, "", s.account, resource⟩

theorem arn_inj {s : Scope} {service a b : String} : s.arn service a = s.arn service b ↔ a = b := by
  simp [arn, Arn.render]

theorem globalArn_inj {s : Scope} {service a b : String} :
    s.globalArn service a = s.globalArn service b ↔ a = b := by
  simp [globalArn, Arn.render]

end Scope

instance : Json.ToTree Scope where
  toTree s := .record [("account_id", .str s.account), ("region", .str s.region),
    ("partition", .str s.partition)]

/-- The state of a service at one place. -/
class Backend (β : Type) where
  service : String
  /-- Whether one backend serves all regions of an account. -/
  isGlobal : Bool
  /-- The backend before its first call. -/
  new : Scope → β
  /-- The place of a backend. -/
  scope : β → Scope

/-- The region under which a global service keeps its backends. -/
def globalRegion : String := "global"

/-- The backends of one service, by account and region. -/
structure Registry (β : Type) where
  accounts : SortedMap (SortedMap β)

namespace Registry

variable {β : Type}

/-- A registry without backends. -/
def empty : Registry β :=
  ⟨.empty⟩

instance : EmptyCollection (Registry β) := ⟨empty⟩

variable [Backend β]

/-- The region under which the service keeps the backend of a region. -/
def regionKey (β : Type) [Backend β] (region : String) : String :=
  if Backend.isGlobal β then globalRegion else region

/-- The backend of a place, if it has been made. -/
def get? (r : Registry β) (account region : String) : Option β :=
  (r.accounts.get? account).bind fun regions => regions.get? (regionKey β region)

/-- Whether the backend of a place has been made. -/
def contains (r : Registry β) (account region : String) : Bool :=
  (r.get? account region).isSome

/-- The backend of a place, which is a new one if there is none yet. -/
def backend (r : Registry β) (account region : String) : β :=
  (r.get? account region).getD (Backend.new { account, region := regionKey β region })

/-- The registry with a backend at a place. -/
def set (r : Registry β) (account region : String) (b : β) : Registry β :=
  let regions := (r.accounts.get? account).getD .empty
  ⟨r.accounts.insert account (regions.insert (regionKey β region) b)⟩

/-- Runs an operation on the backend of a place. -/
def visit {α : Type} (r : Registry β) (account region : String) (f : β → α × β) : α × Registry β :=
  let (a, b) := f (r.backend account region)
  (a, r.set account region b)

/-- Forgets the backend of one place. -/
def resetPlace (r : Registry β) (account region : String) : Registry β :=
  ⟨r.accounts.modify account fun regions => regions.erase (regionKey β region)⟩

omit [Backend β] in
/-- The backends with their accounts and regions, in order. -/
def toList (r : Registry β) : List (String × String × β) :=
  r.accounts.entries.flatMap fun (account, regions) =>
    regions.entries.map fun (region, b) => (account, region, b)

/-! ### What the operations do at a place -/

@[simp] theorem get?_empty (account region : String) : (empty : Registry β).get? account region = none := rfl

theorem get?_set (r : Registry β) (account region account' region' : String) (b : β) :
    (r.set account region b).get? account' region' =
      if account' = account ∧ regionKey β region' = regionKey β region then some b
      else r.get? account' region' := by
  unfold set get?
  dsimp only
  rw [SortedMap.get?_insert]
  by_cases ha : account' = account
  · subst ha
    simp only [true_and, if_true, Option.bind_some]
    rw [SortedMap.get?_insert]
    cases r.accounts.get? account' <;> rfl
  · simp [ha]

/-- Something holds of every backend and the place that it is kept under. -/
def Each (r : Registry β) (P : Scope → β → Prop) : Prop :=
  ∀ account regions, r.accounts.get? account = some regions → ∀ region b, regions.get? region = some b →
    P { account, region } b

omit [Backend β] in
theorem each_empty (P : Scope → β → Prop) : (empty : Registry β).Each P :=
  fun _ _ h => (by cases h)

theorem Each.set {r : Registry β} {P : Scope → β → Prop} (h : r.Each P) {account region : String} {b : β}
    (hb : P { account, region := regionKey β region } b) : (r.set account region b).Each P := by
  intro account' regions there region' b' there'
  unfold Registry.set at there
  dsimp only at there
  rw [SortedMap.get?_insert] at there
  split at there
  · next same =>
    subst same
    cases there
    rw [SortedMap.get?_insert] at there'
    split at there'
    · next same => subst same; cases there'; exact hb
    · cases old : r.accounts.get? account' with
      | none => rw [old] at there'; cases there'
      | some regions => rw [old] at there'; exact h account' regions old region' b' there'
  · exact h account' regions there region' b' there'

/-- A backend that is asked for is one of those that are there, or a new one. -/
theorem Each.backend {r : Registry β} {P : Scope → β → Prop} (h : r.Each P)
    (new : ∀ scope, P scope (Backend.new scope)) (account region : String) :
    P { account, region := regionKey β region } (r.backend account region) := by
  unfold Registry.backend
  cases there : r.get? account region with
  | none => exact new _
  | some b =>
    obtain ⟨regions, found, there⟩ := Option.bind_eq_some_iff.1 there
    exact h account regions found _ b there

/-- Something holds of every backend. -/
def Every (r : Registry β) (P : β → Prop) : Prop :=
  ∀ account regions, r.accounts.get? account = some regions → ∀ region b, regions.get? region = some b → P b

omit [Backend β] in
theorem Every.of_mem_toList {r : Registry β} {P : β → Prop} (h : r.Every P) {account region : String} {b : β}
    (there : (account, region, b) ∈ r.toList) : P b := by
  unfold toList at there
  obtain ⟨⟨account', regions⟩, found, there⟩ := List.mem_flatMap.1 there
  obtain ⟨⟨region', b'⟩, found', same⟩ := List.mem_map.1 there
  cases same
  exact h account regions (SortedMap.get?_of_mem found) region b (SortedMap.get?_of_mem found')

end Registry

end MockCloud
