import MockCloud.Proofs.Pipeline.Operation
import MockCloud.Proofs.Tag.Rules

/-! # Pipelines by their resource names

The resource name of a pipeline is made of its name, which may be any text. Calls for tags get the resource name
and take what follows its last colon for the name. That is the name again unless it has a colon itself; then it
is a shorter name, which no pipeline has or another one.

* `nameOfArn_arn`, `nameOfArn_eq_self_iff`: what a resource name is taken for, and when that is its own name.
* `ByArn c name p`: calls with the resource name of the pipeline serve this pipeline and no other.
* `byArn_iff`: they do exactly if its name has no colon. -/

namespace MockCloud.Pipeline

/-! ### Names in resource names -/

/-- The front part of a resource name has no say in what it is taken for. -/
theorem nameOfArn_arn (s : Scope) (service name : String) : nameOfArn (s.arn service name) = nameOfArn name := by
  obtain ⟨front, layout⟩ : ∃ front : List Char, (s.arn service name).toList = front ++ ':' :: name.toList :=
    ⟨("arn:" ++ s.partition ++ ":" ++ service ++ ":" ++ s.region ++ ":" ++ s.account).toList,
      by simp [Scope.arn, Arn.render]⟩
  unfold nameOfArn
  cases cut : Text.cutLast (· = ':') name.toList with
  | none =>
    rw [layout, Text.cutLast_append (Text.eq_false_of_cutLast_eq_none cut) (by decide)]
    exact String.ofList_toList
  | some parts =>
    obtain ⟨c, colon, split, behind⟩ := Text.eq_append_of_cutLast cut
    rw [layout, split, ← List.cons_append, ← List.append_assoc, Text.cutLast_append behind colon]

theorem nameOfArn_eq_self_iff {name : String} : nameOfArn name = name ↔ ':' ∉ name.toList := by
  unfold nameOfArn
  cases cut : Text.cutLast (· = ':') name.toList with
  | none =>
    refine iff_of_true rfl fun there => ?_
    simpa using Text.eq_false_of_cutLast_eq_none cut ':' there
  | some parts =>
    obtain ⟨front, back⟩ := parts
    obtain ⟨c, colon, split, -⟩ := Text.eq_append_of_cutLast cut
    rw [decide_eq_true_iff] at colon
    subst colon
    refine iff_of_false (fun same => ?_) (by simp [split])
    -- the part behind the colon is shorter than the whole
    have whole := congrArg (List.length ∘ String.toList) same
    simp only [Function.comp_apply, String.toList_ofList, split, List.length_append, List.length_cons] at whole
    omega

namespace Catalog

/-! ### Calls for tags -/

section

variable {c : Catalog} {arn name : String}

/-- The name that a resource name is taken for is the only one whose pipeline gets the tags. -/
theorem get?_tag_of_ne (other : name ≠ nameOfArn arn) (tags : List Tag) :
    (c.tag arn tags).state.pipelines.get? name = c.pipelines.get? name := by
  rcases tag_cases c arn tags with ⟨e, failed, -⟩ | ⟨p, all, -, -, done⟩
  · rw [failed, Outcome.state_fail]
  · rw [done, Outcome.state_ok, get?_put, if_neg other]

theorem get?_untag_of_ne (other : name ≠ nameOfArn arn) (keys : List String) :
    (c.untag arn keys).state.pipelines.get? name = c.pipelines.get? name := by
  rcases untag_cases c arn keys with ⟨e, failed, -⟩ | ⟨p, -, done⟩
  · rw [failed, Outcome.state_fail]
  · rw [done, Outcome.state_ok, get?_put, if_neg other]

end

/-- Calls with the resource name of the pipeline `p`, which stands under `name`, are about this pipeline: its tags
are listed in the order of their keys, incoming tags are put over its tags if its tags may have them, and keys are
taken off its tags. Nothing else changes. -/
structure ByArn (c : Catalog) (name : String) (p : Pipeline) : Prop where
  listed : ∃ tags, c.tagsOf p.arn = .ok tags ∧ tags.Pairwise (·.key < ·.key) ∧
    ∀ t, t ∈ tags ↔ p.tags.get? t.key = some t.value
  tagged : ∀ tags all, p.mergedTags tags = .ok all →
    c.tag p.arn tags = .ok () (c.put name { p with tags := p.tags.insertAll (TagMap.ofTags tags).entries })
  refused : ∀ tags e, p.mergedTags tags = .error e → c.tag p.arn tags = .fail e c
  untagged : ∀ keys, c.untag p.arn keys = .ok () (c.put name { p with tags := p.tags.eraseKeys keys })

section

variable {c : Catalog} {name : String} {p : Pipeline}

/-- A resource name that is taken for the right name serves its pipeline. -/
theorem byArn_of_nameOfArn (there : c.pipelines.get? name = some p) (taken : nameOfArn p.arn = name) :
    ByArn c name p := by
  have found : c.getByArn p.arn = .ok p := by
    rw [getByArn, taken]
    exact Store.require_eq_ok_iff.2 there
  refine ⟨⟨p.tags.toTags, ?_, p.tags.pairwise_toTags, fun t => TagMap.mem_toTags_iff⟩, fun tags all merged => ?_,
    fun tags e refused => ?_, fun keys => ?_⟩
  · rw [tagsOf, found]
    rfl
  · have whole := (TagPolicy.merged_eq_ok_iff.1 (mergedTags_eq_ok_iff.1 merged).2).2.2
    rw [tag, found, Outcome.guard_ok, merged, Outcome.guard_ok, taken, Store.modify_of_get? there, whole]
    rfl
  · rw [tag, found, Outcome.guard_ok, refused, Outcome.guard_error]
  · rw [untag, found, Outcome.guard_ok, taken, Store.modify_of_get? there]
    rfl

/-- A pipeline that is served under its resource name is what the name is taken for: another one would lose its
tags or get one when this pipeline should. -/
theorem nameOfArn_of_byArn (there : c.pipelines.get? name = some p) (served : ByArn c name p) :
    nameOfArn p.arn = name := by
  by_contra taken
  have other : name ≠ nameOfArn p.arn := Ne.symm taken
  -- what a call should leave under the name is what was there
  have kept {q : Pipeline} {c' : Catalog} (should : c' = c.put name q)
      (left : c'.pipelines.get? name = c.pipelines.get? name) : q.tags = p.tags := by
    rw [should, get?_put, if_pos rfl, there, Option.some.injEq] at left
    rw [left]
  have bare : p.tags = .empty := by
    have same := kept (congrArg Outcome.state (served.untagged p.tags.keys)) (get?_untag_of_ne other _)
    exact same.symm.trans p.tags.eraseKeys_keys
  obtain ⟨all, whole⟩ : ∃ all, TagPolicy.standard.merged .empty (.ofTags [⟨"team", "core"⟩]) = .ok all := ⟨_, rfl⟩
  have merged : p.mergedTags [⟨"team", "core"⟩] = .ok all := mergedTags_eq_ok_iff.2 ⟨rfl, bare ▸ whole⟩
  have same := kept (congrArg Outcome.state (served.tagged _ all merged)) (get?_tag_of_ne other _)
  dsimp only at same
  rw [bare] at same
  exact absurd (congrArg (SortedMap.get? · "team") same) (by decide)

/-- **When a resource name serves its pipeline.** After a run, calls with the resource name of a pipeline that stands
there are about that pipeline exactly if its name has no colon. -/
theorem byArn_iff (scope : Scope) (ops : List Op) (name : String) (p : Pipeline)
    (there : ((blank scope).run ops).pipelines.get? name = some p) :
    ByArn ((blank scope).run ops) name p ↔ ':' ∉ name.toList := by
  obtain ⟨-, arn⟩ := ((filed_blank scope).run ops).each name p there
  rw [← nameOfArn_eq_self_iff, ← nameOfArn_arn scope "codepipeline" name, ← arn]
  exact ⟨nameOfArn_of_byArn there, byArn_of_nameOfArn there⟩

end

/-! ### A pipeline whose name ends in the name of another -/

/-- Two pipelines are made. The one with the longer name has a tag. -/
def teams : List Op :=
  [.create trusting (staged "build" 2) [] ⟨0, 0⟩,
    .create trusting (staged "team:build" 2) [⟨"team", "core"⟩] ⟨1, 0⟩]

theorem byArn_build :
    ∃ p, ((blank site).run teams).pipelines.get? "build" = some p ∧ ByArn ((blank site).run teams) "build" p := by
  have found : (((blank site).run teams).pipelines.get? "build").isSome = true := by
    decide +kernel
  obtain ⟨p, there⟩ := Option.isSome_iff_exists.1 found
  exact ⟨p, there, (byArn_iff site teams "build" p there).2 (by decide)⟩

/-- The resource name of the one pipeline lists the tags of the other, which has none. -/
theorem tagsOf_team_build :
    ∃ p, ((blank site).run teams).pipelines.get? "team:build" = some p ∧ p.tags.get? "team" = some "core" ∧
      ((blank site).run teams).tagsOf p.arn = .ok [] := by
  have seen : (((blank site).run teams).pipelines.get? "team:build").map
      (fun p => (p.tags.get? "team", ((blank site).run teams).tagsOf p.arn)) = some (some "core", .ok []) := by
    decide +kernel
  obtain ⟨p, there, is⟩ := Option.map_eq_some_iff.1 seen
  obtain ⟨tag, listed⟩ := Prod.mk.inj is
  exact ⟨p, there, tag, listed⟩

theorem not_always_byArn :
    ¬∀ (scope : Scope) (ops : List Op) (name : String) (p : Pipeline),
      ((blank scope).run ops).pipelines.get? name = some p → ByArn ((blank scope).run ops) name p := by
  intro always
  obtain ⟨p, there, tag, unlisted⟩ := tagsOf_team_build
  obtain ⟨tags, listed, -, mem_iff⟩ := (always _ _ _ p there).listed
  cases unlisted.symm.trans listed
  exact List.not_mem_nil ((mem_iff ⟨"team", "core"⟩).2 tag)

end Catalog

end MockCloud.Pipeline
