import MockCloud.Proofs.Bucket.Operation
import MockCloud.Proofs.Network.Foundation
import MockCloud.Proofs.Pipeline.Operation
import MockCloud.Proofs.Topic.Operation

/-! # Refused calls

A call of a service is made whole or not at all. Topics, pipelines and buckets are only written after the
last check, whatever state they are in. The network writes twice when it makes a VPC or a subnet, and what
the second write needs is not checked beforehand: a free id for the access list, and a default list of the
VPC. Both are there in the networks that can come about.

* `Effect.unchanged`, of each service: what fails leaves the state as it was.
* `refused_call_changes_nothing`: the same for runs of the four services.
* `repeated_id_leaves_vpc`: why the identifiers of a network must not repeat. -/

namespace MockCloud

theorem Topic.Board.Effect.unchanged {b : Board} {op : Op} {o : Outcome Board TopicError Unit}
    {e : TopicError} (effect : Effect b op o) (failed : o.result = .error e) : o.state = b := by
  cases effect with
  | refused => rfl
  | _ => cases failed

theorem Pipeline.Catalog.Effect.unchanged {c : Catalog} {op : Op} {o : Outcome Catalog PipelineError Unit}
    {e : PipelineError} (effect : Effect c op o) (failed : o.result = .error e) : o.state = c := by
  cases effect with
  | refused => rfl
  | _ => cases failed

theorem Bucket.Shelf.Effect.unchanged {s : Shelf} {op : Op} {o : Outcome Shelf BucketError Unit}
    {e : BucketError} (effect : Effect s op o) (failed : o.result = .error e) : o.state = s := by
  cases effect with
  | refused => rfl
  | _ => cases failed

namespace Network

/-- The two ways to fail half-way are closed: the id of a new access list has not been made before, and
every VPC has kept its default list. -/
theorem Effect.unchanged {drawn : List String} {n : Network} {op : Op} {o : Outcome Network NetworkError Unit}
    {e : NetworkError} (effect : Effect n op o) (founded : Founded drawn n) (new : ∀ id ∈ op.ids, id ∉ drawn)
    (failed : o.result = .error e) : o.state = n := by
  cases effect with
  | refused => rfl
  | vpcLeft _ _ _ aclTaken =>
    obtain ⟨a, there⟩ := Option.ne_none_iff_exists'.1 aclTaken
    exact absurd (founded.acls _ a there).1 (new _ (by simp [Op.ids]))
  | subnetLeft _ there _ _ _ _ _ noDefault =>
    obtain ⟨a, default, -⟩ := founded.exists_defaultAcl there
    exact absurd default (noDefault a)
  | _ => cases failed

theorem failed_step_eq {scope : Scope} {ops : List Op} {op : Op} {e : NetworkError}
    (fresh : (drawnIds (ops ++ [op])).Nodup)
    (failed : (((blank scope).run ops).perform op).result = .error e) :
    ((blank scope).run ops).step op = (blank scope).run ops := by
  obtain ⟨fresh', new⟩ := fresh_of_nodup fresh
  exact (perform_effect _ op).unchanged (founded_run scope ops fresh') new failed

/-- With an id made twice, a VPC is left without its access list. -/
theorem repeated_id_leaves_vpc :
    ¬∀ (scope : Scope) (ops : List Op) (op : Op) (e : NetworkError),
      (((blank scope).run ops).perform op).result = .error e →
        ((blank scope).run ops).step op = (blank scope).run ops := by
  intro unchanged
  have same := unchanged home [.createVpc "10.0.0.0/16" [] "1" "1"] (.createVpc "10.1.0.0/16" [] "2" "1") _ rfl
  have before : ((blank home).run [.createVpc "10.0.0.0/16" [] "1" "1"]).vpcs.ids = ["vpc-1"] := by rfl
  have after : (((blank home).run [.createVpc "10.0.0.0/16" [] "1" "1"]).step
      (.createVpc "10.1.0.0/16" [] "2" "1")).vpcs.ids = ["vpc-1", "vpc-2"] := by rfl
  rw [same, before] at after
  cases after

end Network

/-- **A refused call changes nothing.** After any run of the operations of a network, of topics, of pipelines
or of buckets, an operation that ends in an error leaves everything as it was. In a network this takes
identifiers that do not repeat. -/
theorem refused_call_changes_nothing (scope : Scope) :
    (∀ (ops : List Network.Op) (op : Network.Op) (e : Network.NetworkError),
      (Network.drawnIds (ops ++ [op])).Nodup →
        (((Network.blank scope).run ops).perform op).result = .error e →
          ((Network.blank scope).run ops).step op = (Network.blank scope).run ops) ∧
    (∀ (ops : List Bucket.Shelf.Op) (op : Bucket.Shelf.Op) (e : Bucket.BucketError),
      (((Bucket.Shelf.blank scope).run ops).perform op).result = .error e →
        ((Bucket.Shelf.blank scope).run ops).step op = (Bucket.Shelf.blank scope).run ops) ∧
    (∀ (ops : List Topic.Board.Op) (op : Topic.Board.Op) (e : Topic.TopicError),
      (((Topic.Board.blank scope).run ops).perform op).result = .error e →
        ((Topic.Board.blank scope).run ops).step op = (Topic.Board.blank scope).run ops) ∧
    ∀ (ops : List Pipeline.Catalog.Op) (op : Pipeline.Catalog.Op) (e : Pipeline.PipelineError),
      (((Pipeline.Catalog.blank scope).run ops).perform op).result = .error e →
        ((Pipeline.Catalog.blank scope).run ops).step op = (Pipeline.Catalog.blank scope).run ops := by
  refine ⟨fun ops op e fresh failed => Network.failed_step_eq fresh failed, fun ops op e failed => ?_,
    fun ops op e failed => ?_, fun ops op e failed => ?_⟩
  · exact (Bucket.Shelf.perform_effect _ op).unchanged failed
  · exact (Topic.Board.perform_effect _ op).unchanged failed
  · exact (Pipeline.Catalog.perform_effect _ op).unchanged failed

/-- A VPC with a subnet. -/
def overlapRun : List Network.Op :=
  [.createVpc "10.0.0.0/16" [] "1" "1", .createSubnet "10.0.1.0/24" ⟨"vpc-1", none, []⟩ "1" "1"]

/-- A subnet in the second half of the one that is there. -/
def overlapping : Network.Op :=
  .createSubnet "10.0.1.128/25" ⟨"vpc-1", none, []⟩ "2" "2"

/-- A subnet that would overlap another one, tags that name a key twice, a notice to a topic that is gone and a
change of a pipeline that was never made. -/
theorem refused_call_changes_nothing_each :
    ((Network.blank Network.home).run overlapRun).step overlapping = (Network.blank Network.home).run overlapRun ∧
    ((Bucket.Shelf.blank Network.home).run [.create "logs" "us-east-1" ⟨0, 0⟩]).step
        (.putTags "logs" [⟨"team", "core"⟩, ⟨"team", "web"⟩]) =
      (Bucket.Shelf.blank Network.home).run [.create "logs" "us-east-1" ⟨0, 0⟩] ∧
    ((Topic.Board.blank Network.home).run []).step (.publish "bounces" none "text" "1" ⟨0, 0⟩) =
      (Topic.Board.blank Network.home).run [] ∧
    ((Pipeline.Catalog.blank Network.home).run []).step (.tag "pipe" [⟨"team", "core"⟩]) =
      (Pipeline.Catalog.blank Network.home).run [] := by
  obtain ⟨network, buckets, topics, pipelines⟩ := refused_call_changes_nothing Network.home
  refine ⟨network overlapRun overlapping (.invalidValue (.overlap "10.0.1.128/25")) (by decide) ?_,
    buckets _ _ _ rfl, topics _ _ _ rfl, pipelines _ _ _ rfl⟩
  rfl

end MockCloud
