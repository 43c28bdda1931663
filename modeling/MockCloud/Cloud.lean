import MockCloud.Config
import MockCloud.Mail.Sending
import MockCloud.Tagging

/-! # The cloud

A cloud has a registry for every service, and a configuration that says which place is meant when a call
names none. Some operations need the backends of several services of one place.

* `Cloud.visit` runs an operation on a backend; `visitPipelines`, `visitPost` and `visitTagging` run one on
  backends that work together.
* `Cloud.reset` and `Cloud.resetService` forget backends; the next call makes new ones.

What is drawn at random, the moment of a call and the variables that a configuration is read from are arguments.
What callers put together themselves, such as a rule, a template or a query, is given whole. A field that no
operation changes, such as the state of a VPC, is not kept but shown as the constant that it is, and log records
are left out, as nothing depends on them. -/

namespace MockCloud

/-- The backends of all services. -/
structure Cloud where
  config : Config := {}
  roles : Registry Role.Directory := .empty
  topics : Registry Topic.Board := .empty
  pipelines : Registry Pipeline.Catalog := .empty
  network : Registry Network := .empty
  mail : Registry Mail.Office := .empty
  buckets : Registry Bucket.Shelf := .empty

/-- A service of the cloud. -/
class Hosted (β : Type) extends Backend β where
  registry : Cloud → Registry β
  setRegistry : Cloud → Registry β → Cloud

instance : Hosted Role.Directory := ⟨Cloud.roles, fun c roles => { c with roles }⟩

instance : Hosted Topic.Board := ⟨Cloud.topics, fun c topics => { c with topics }⟩

instance : Hosted Pipeline.Catalog := ⟨Cloud.pipelines, fun c pipelines => { c with pipelines }⟩

instance : Hosted Network := ⟨Cloud.network, fun c network => { c with network }⟩

instance : Hosted Mail.Office := ⟨Cloud.mail, fun c mail => { c with mail }⟩

instance : Hosted Bucket.Shelf := ⟨Cloud.buckets, fun c buckets => { c with buckets }⟩

/-- The account and the region that a call is for. -/
structure Site where
  account : String
  region : String
  deriving DecidableEq, Repr

namespace Cloud

variable {α β : Type} [Hosted β]

/-- The site of a call; the configuration stands in for what the call leaves open. -/
def site (c : Cloud) (account region : Option String) : Site :=
  ⟨account.getD c.config.account, region.getD c.config.region⟩

/-- The backend of a site, which is a new one if there is none yet. -/
def backend (c : Cloud) (s : Site) : β :=
  (Hosted.registry c).backend s.account s.region

/-- The cloud with a backend at a site. -/
def put (c : Cloud) (s : Site) (b : β) : Cloud :=
  Hosted.setRegistry c ((Hosted.registry c).set s.account s.region b)

/-- Runs an operation on the backend of a site. -/
def visit (c : Cloud) (s : Site) (f : β → α × β) : α × Cloud :=
  let (a, b) := f (c.backend s)
  (a, c.put s b)

/-! ### Services together -/

/-- Runs an operation on the pipelines of a site that reads the roles of the account. -/
def visitPipelines (c : Cloud) (s : Site) (f : Role.Directory → Pipeline.Catalog → α × Pipeline.Catalog) :
    α × Cloud :=
  let roles : Role.Directory := c.backend s
  (c.put s roles).visit s (f roles)

/-- Runs an operation on the mail and the topics of a site. -/
def visitPost (c : Cloud) (s : Site) (f : Mail.Post → α × Mail.Post) : α × Cloud :=
  let (a, office, topics) := f (c.backend s, c.backend s)
  (a, (c.put s office).put s topics)

/-- Runs an operation on the tags of a site. -/
def visitTagging (c : Cloud) (s : Site) (f : Tagging.Place → α × Tagging.Place) : α × Cloud :=
  let (a, p) := f ⟨c.backend s, c.backend s, c.backend s, c.backend s⟩
  (a, (((c.put s p.pipelines).put s p.network).put s p.topics).put s p.buckets)

end Cloud

/-! ### Services by name -/

/-- The services of the cloud. -/
inductive CloudService where
  | roles
  | topics
  | pipelines
  | network
  | mail
  | buckets
  deriving DecidableEq, Repr

namespace CloudService

/-- What `f` gives for the backends of the service. -/
def choose {α : Type} (f : ∀ (β : Type) [Hosted β], α) : CloudService → α
  | roles => f Role.Directory
  | topics => f Topic.Board
  | pipelines => f Pipeline.Catalog
  | network => f Network
  | mail => f Mail.Office
  | buckets => f Bucket.Shelf

/-- The service of a name. -/
def ofName? (name : String) : Option CloudService :=
  [roles, topics, pipelines, network, mail, buckets].find? fun s =>
    s.choose (fun β _ => Backend.service β) == name

end CloudService

namespace Cloud

/-- Forgets every backend. -/
def reset (c : Cloud) : Cloud :=
  { config := c.config }

/-- Forgets every backend of one service. -/
def resetService (c : Cloud) (service : CloudService) : Cloud :=
  service.choose fun β _ => Hosted.setRegistry c (.empty : Registry β)

/-- Whether the backend of a service has been made at a site. -/
def contains (c : Cloud) (s : Site) (service : CloudService) : Bool :=
  service.choose fun β _ => (Hosted.registry c : Registry β).contains s.account s.region

/-- The sites at which a service has backends, in order. -/
def sites (c : Cloud) (service : CloudService) : List (String × String) :=
  service.choose fun β _ => (Hosted.registry c : Registry β).toList.map fun (account, region, _) =>
    (account, region)

/-- The scope of a service's backend at a site, which is made if need be. -/
def scopeAt (c : Cloud) (s : Site) (service : CloudService) : Scope × Cloud :=
  service.choose fun β _ => c.visit s fun b : β => (Backend.scope b, b)

end Cloud

end MockCloud
