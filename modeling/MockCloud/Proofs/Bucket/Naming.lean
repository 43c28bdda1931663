import MockCloud.Bucket.Basic
import MockCloud.Proofs.Arn.RoundTrip

/-! # The names of buckets in resource names

A bucket is found by the end of its resource name. `arn:` is taken off the text, and all that follows the fourth colon
behind it is the bucket's name, unless it is empty or has a slash, which stands in front of the key of an object. A
resource name is read in another way, in six parts of which the first is `arn`. How a name is written decides both ways.

* `nameOfArn?_render`: what is found in a name that was written from its parts.
* `nameOfArn?_eq_some_iff`: the texts in which a name is found, and which.
* `nameOfArn?_eq_none_of_parse?`: the resource names of no bucket.
* `nameOfArn?_arn`, `parse?_arn`: the resource name of a bucket, taken in both ways. -/

namespace MockCloud.Bucket

/-! ### Names that are found -/

theorem nameOfArn?_render {a : Arn} (h : a.Plain) :
    nameOfArn? a.render = if a.resource = "" ∨ '/' ∈ a.resource.toList then none else some a.resource := by
  have front : Text.after? "arn:".toList a.render.toList = some (a.partition.toList ++ ':' :: (a.service.toList ++
      ':' :: (a.region.toList ++ ':' :: (a.account.toList ++ ':' :: a.resource.toList)))) := by
    rw [Text.after?_eq_some_iff]
    simp [Arn.render]
  rw [nameOfArn?, front, Option.bind_eq_bind, Option.bind_some, Arn.parts?_append h.partition,
    Arn.parts?_append h.service, Arn.parts?_append h.region, Arn.parts?_append h.account]
  simp [Arn.parts?]

/-- A name is found only in a text that could have been written from parts. -/
theorem exists_render_of_nameOfArn? {x n : String} (found : nameOfArn? x = some n) :
    ∃ a : Arn, a.Plain ∧ a.render = x ∧ a.resource = n := by
  obtain ⟨cs, front, found⟩ := Option.bind_eq_some_iff.1 found
  obtain ⟨⟨parts, rest⟩, cut, found⟩ := Option.bind_eq_some_iff.1 found
  obtain ⟨-, is⟩ := Option.ite_none_left_eq_some.1 found
  cases is
  -- what was cut off are the parts in front, and the name is all that is left
  obtain ⟨partition, service, region, account, rfl⟩ := Arn.exists_four_of_parts? cut
  obtain ⟨rfl, plain⟩ := Arn.eq_of_parts? cut
  refine ⟨⟨.ofList partition, .ofList service, .ofList region, .ofList account, .ofList rest⟩,
    Arn.plain_ofList plain _, String.toList_inj.1 ?_, rfl⟩
  rw [Text.after?_eq_some_iff.1 front]
  simp [Arn.render]

/-- **The texts in which a bucket's name is found**: resource names, and the name is the resource. -/
theorem nameOfArn?_eq_some_iff {x n : String} :
    nameOfArn? x = some n ↔ ∃ a, Arn.parse? x = some a ∧ a.resource = n ∧ n ≠ "" ∧ '/' ∉ n.toList := by
  constructor
  · intro found
    obtain ⟨a, plain, rfl, rfl⟩ := exists_render_of_nameOfArn? found
    rw [nameOfArn?_render plain] at found
    obtain ⟨legal, -⟩ := Option.ite_none_left_eq_some.1 found
    exact ⟨a, Arn.parse?_render plain, rfl, not_or.1 legal⟩
  · rintro ⟨a, read, rfl, legal⟩
    obtain ⟨plain, rfl⟩ := Arn.parse?_eq_some_iff.1 read
    rw [nameOfArn?_render plain, if_neg (not_or.2 legal)]

theorem nameOfArn?_eq_none_of_parse? {x : String} {a : Arn} (read : Arn.parse? x = some a)
    (off : a.resource = "" ∨ '/' ∈ a.resource.toList) : nameOfArn? x = none := by
  obtain ⟨plain, rfl⟩ := Arn.parse?_eq_some_iff.1 read
  rw [nameOfArn?_render plain, if_pos off]

/-! ### The resource name of a bucket -/

theorem ne_empty_of_isName {name : String} (legal : isName name = true) : name ≠ "" := by
  rintro rfl
  cases legal

theorem slash_not_mem_of_isName {name : String} (legal : isName name = true) : '/' ∉ name.toList := by
  simp only [isName, Bool.and_eq_true, List.all_eq_true] at legal
  have letters := legal.1.1.2
  exact fun slash => absurd (letters '/' slash) (by decide)

theorem parse?_arn (b : Bucket) {partition : String} (plain : ':' ∉ partition.toList) :
    Arn.parse? (b.arn partition) = some ⟨partition, "s3", "", "", b.name⟩ := by
  rw [b.arn_eq_render]
  exact Arn.parse?_render ⟨plain, by simp, by simp, by simp⟩

theorem nameOfArn?_arn {b : Bucket} (legal : isName b.name = true) {partition : String}
    (plain : ':' ∉ partition.toList) : nameOfArn? (b.arn partition) = some b.name :=
  nameOfArn?_eq_some_iff.2 ⟨_, b.parse?_arn plain, rfl, ne_empty_of_isName legal, slash_not_mem_of_isName legal⟩

end MockCloud.Bucket
