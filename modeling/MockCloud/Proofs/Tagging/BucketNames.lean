import MockCloud.Proofs.Bucket.Naming
import MockCloud.Proofs.Tagging.Handling

/-! # Resource names that are handed to the buckets

A call for tags takes a name apart twice. Dispatch reads its parts and looks at the service alone. What has the service
of the buckets goes to them, and they take the text as it came and look for a bucket's name at its end. The two should
not take one text for two things: a bucket other than the resource that dispatch reads, or a bucket where dispatch
reads no name.

* `Alike p c x`: dispatch and the buckets take the text for the same thing.
* `bucket_names_agree`: they do, whatever the text. -/

namespace MockCloud.Tagging

theorem exists_parse?_of_serviceName {x service : String} (is : serviceName x = service) (named : service ≠ "") :
    ∃ a, Arn.parse? x = some a ∧ a.service = service := by
  unfold serviceName at is
  split at is
  · next a read => exact ⟨a, read, is⟩
  · exact absurd is.symm named

/-- A change is kept from the buckets if dispatch does not read the name of their service. -/
theorem buckets_handle (p : Place) (op : Operation) {x : String} (other : serviceName x ≠ "s3") :
    (p.handle op x).state.buckets = p.buckets := by
  unfold Place.handle
  dsimp only
  split_ifs with _ _ _ same
  · rfl
  · rfl
  · rfl
  · exact absurd same other
  · rfl

/-- Dispatch and the buckets take the text for the same thing. The buckets are left alone unless dispatch reads a name
of their service. Then the call ends as the change of the bucket that the resource names, and if no bucket can have this
name, it is refused for the whole text. -/
structure Alike (p : Place) (c : Call) (x : String) : Prop where
  kept : (∀ a, Arn.parse? x = some a → a.service ≠ "s3") → (p.handle c.operation x).state.buckets = p.buckets
  served : ∀ a, Arn.parse? x = some a → a.service = "s3" → a.resource ≠ "" → '/' ∉ a.resource.toList →
    p.handle c.operation x =
      ((shared (c.onBucket p.buckets a.resource)).mapError .rejected).within ({ p with buckets := · })
  refused : ∀ a, Arn.parse? x = some a → a.service = "s3" → a.resource = "" ∨ '/' ∈ a.resource.toList →
    p.handle c.operation x = .fail (.rejected (Fault.details (Bucket.BucketError.noSuchBucket x))) p

theorem alike (p : Place) (c : Call) (x : String) : Alike p c x where
  kept other := by
    refine buckets_handle p c.operation fun same => ?_
    obtain ⟨a, read, service⟩ := exists_parse?_of_serviceName same (by decide)
    exact other a read service
  served a read service nonempty plain := by
    have found : Bucket.nameOfArn? x = some a.resource :=
      Bucket.nameOfArn?_eq_some_iff.2 ⟨a, read, rfl, nonempty, plain⟩
    rw [handle_eq_onBucket p c ((serviceName_of_parse? read).trans service), onBucket, found]
  refused a read service off := by
    have missing := Bucket.nameOfArn?_eq_none_of_parse? read off
    rw [handle_eq_onBucket p c ((serviceName_of_parse? read).trans service), onBucket, missing]
    rfl

/-- **One reading of the names of buckets.** In a text the name of a bucket is found exactly if it is a resource name
whose resource is not empty and has no slash, and the bucket's name is this resource. The resource name of a bucket with
a legal name is read in its parts, in any partition without colons, and the bucket's name is found in it. So dispatch
and the buckets take every text for the same thing. -/
theorem bucket_names_agree :
    (∀ x n : String, Bucket.nameOfArn? x = some n ↔
      ∃ a, Arn.parse? x = some a ∧ a.resource = n ∧ n ≠ "" ∧ '/' ∉ n.toList) ∧
    (∀ (b : Bucket) (partition : String), Bucket.isName b.name = true → ':' ∉ partition.toList →
      Bucket.nameOfArn? (b.arn partition) = some b.name ∧
        Arn.parse? (b.arn partition) = some ⟨partition, "s3", "", "", b.name⟩) ∧
    ∀ (p : Place) (c : Call) (x : String), Alike p c x := by
  refine ⟨fun x n => Bucket.nameOfArn?_eq_some_iff, fun b partition legal plain => ?_, alike⟩
  exact ⟨Bucket.nameOfArn?_arn legal plain, b.parse?_arn plain⟩

/-! ### A place with a bucket -/

/-- The place with a bucket and nothing else. -/
def oneBucket : Place where
  pipelines := .blank (Config.scope {})
  network := .blank (Config.scope {})
  topics := .blank (Config.scope {})
  buckets := (Bucket.Shelf.blank (Config.globalScope {})).run [.create "logs" "us-east-1" ⟨0, 0⟩]

/-- The bucket. -/
def logs : Bucket :=
  ⟨"logs", "us-east-1", ⟨0, 0⟩, none, none⟩

/-- A name of the bucket in another partition reaches it, and the name of an object in it does not. A text is read with
empty parts and colons in the resource. -/
theorem bucket_names_agree_logs :
    Bucket.isName logs.name = true ∧ ':' ∉ "aws-cn".toList ∧
      Bucket.nameOfArn? (logs.arn "aws-cn") = some "logs" ∧ Bucket.nameOfArn? "arn::::::a:" = some ":a:" ∧
      (oneBucket.handle (Call.untag []).operation (logs.arn "aws-cn")).result = .ok () ∧
      (oneBucket.handle (Call.untag []).operation "arn:aws:s3:::logs/key").state = oneBucket := by
  obtain ⟨found_iff, own, alike⟩ := bucket_names_agree
  have legal : Bucket.isName logs.name = true := by decide
  have plain : ':' ∉ "aws-cn".toList := by decide
  obtain ⟨found, read⟩ := own logs "aws-cn" legal plain
  refine ⟨legal, plain, found, (found_iff _ _).2 ⟨⟨"", "", "", "", ":a:"⟩, by decide, rfl, by decide, by decide⟩, ?_, ?_⟩
  · rw [(alike oneBucket _ _).served _ read rfl (by decide) (by decide)]
    rfl
  · rw [(alike oneBucket _ _).refused ⟨"aws", "s3", "", "", "logs/key"⟩ (by decide) rfl (.inr (by decide)),
      Outcome.state_fail]

end MockCloud.Tagging
