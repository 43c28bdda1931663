import MockCloud.Pipeline.Basic
import MockCloud.Proofs.Role.Filing

/-! # Roles by their resource names

The resource name of a role is made of its path and its name, one behind the other. No two roles have one name,
but a name may hold slashes. So the path of one role can go on where the name of another begins, and then the two
have one resource name. A look-up finds the one that comes first in the order of names, and the trust policy that
a pipeline is made by is the policy of that one.

* `Overlaps r r'`: the path of `r'` goes on where the name of `r` begins.
* `arn_eq_iff`: which roles have one resource name.
* `getByArn_eq_ok_iff`: which role a look-up finds.
* `Identified d`: resource names tell the roles apart, and each leads to its role.
* `identified_run_iff`: after a run they do exactly if no two roles overlap. -/

namespace MockCloud.Role

/-- The path of `r'` is the path of `r` and a text more, with which the name of `r` begins. What is left of that
name is the name of `r'`. -/
def Overlaps (r r' : Role) : Prop :=
  ∃ text, text ≠ "" ∧ r'.path = r.path ++ text ∧ r.name = text ++ r'.name

/-- Two paths with names behind them are the same text if both are the same or one goes on in the other. -/
theorem path_append_name_eq_iff (r r' : Role) :
    r.path ++ r.name = r'.path ++ r'.name ↔
      (r.path = r'.path ∧ r.name = r'.name) ∨ Overlaps r r' ∨ Overlaps r' r := by
  constructor
  · intro same
    have split : r.path.toList ++ r.name.toList = r'.path.toList ++ r'.name.toList := by
      rw [← String.toList_append, ← String.toList_append, same]
    rcases List.append_eq_append_iff.1 split with ⟨text, path, name⟩ | ⟨text, path, name⟩
    all_goals
      rw [← String.toList_ofList (l := text), ← String.toList_append, String.toList_inj] at path name
      by_cases none : String.ofList text = ""
      · rw [none, String.append_empty] at path
        rw [none, String.empty_append] at name
        exact .inl ⟨by rw [path], by rw [name]⟩
    · exact .inr (.inl ⟨_, none, path, name⟩)
    · exact .inr (.inr ⟨_, none, path, name⟩)
  · rintro (⟨path, name⟩ | ⟨text, -, path, name⟩ | ⟨text, -, path, name⟩)
    · rw [path, name]
    · rw [path, name, String.append_assoc]
    · rw [path, name, String.append_assoc]

theorem not_overlaps_self (r : Role) : ¬Overlaps r r := by
  rintro ⟨text, nonempty, path, -⟩
  have long := congrArg String.length path
  rw [String.length_append] at long
  exact nonempty (String.length_eq_zero_iff.1 (by omega))

section

variable {scope : Scope} {name name' : String} {r r' : Role}

/-- Roles of different names have one resource name exactly if one overlaps the other. -/
theorem arn_eq_iff (h : Recorded scope name r) (h' : Recorded scope name' r') (ne : name ≠ name') :
    r.arn = r'.arn ↔ Overlaps r r' ∨ Overlaps r' r := by
  have other : ¬(r.path = r'.path ∧ r.name = r'.name) := by
    rw [h.named, h'.named]
    exact fun same => ne same.2
  rw [h.arn, h'.arn, Scope.globalArn_inj, String.append_assoc, String.append_assoc, String.append_right_inj,
    path_append_name_eq_iff, or_iff_right other]

/-- A name that goes on in the path of another role ends a part of that path. -/
theorem Overlaps.slash (overlaps : Overlaps r r') (h' : Recorded scope name' r') : '/' ∈ r.name.toList := by
  obtain ⟨text, nonempty, path, name⟩ := overlaps
  obtain ⟨front, closed⟩ := h'.closed
  have ends : r.path.toList ++ text.toList = front.toList ++ ['/'] := by
    rw [← String.toList_append, ← path, closed, String.toList_append]
    rfl
  have last := congrArg List.getLast? ends
  rw [List.getLast?_append, List.getLast?_concat] at last
  cases own : text.toList.getLast? with
  | none => exact absurd (String.toList_inj.1 (List.getLast?_eq_none_iff.1 own)) nonempty
  | some c =>
    rw [own, Option.some_or] at last
    cases last
    rw [name, String.toList_append]
    exact List.mem_append_left _ (List.mem_of_getLast? own)

end

namespace Directory

/-- Each resource name of a role is the name of no other role and leads to its role. -/
structure Identified (d : Directory) : Prop where
  distinct : ∀ name r name' r', d.roles.get? name = some r → d.roles.get? name' = some r' → r.arn = r'.arn →
    name = name'
  found : ∀ name r, d.roles.get? name = some r → d.getByArn r.arn = .ok r

/-- Whether pipelines may assume the role of a resource name is up to the role that the look-up finds. -/
theorem Identified.isTrusted {d : Directory} (h : d.Identified) {name : String} {r : Role}
    (there : d.roles.get? name = some r) :
    Pipeline.Catalog.isTrusted d r.arn = r.trusts Pipeline.principal := by
  rw [Pipeline.Catalog.isTrusted, h.found name r there]

section

variable {scope : Scope} {d : Directory}

/-- The role that is found is the first one that has the resource name. -/
theorem getByArn_eq_ok_iff {arn : String} {r : Role} :
    d.getByArn arn = .ok r ↔ ∃ name, d.roles.get? name = some r ∧ r.arn = arn ∧
      ∀ name' r', d.roles.get? name' = some r' → r'.arn = arn → ¬name' < name := by
  have first : d.roles.values.find? (·.arn == arn) = some r ↔ _ := SortedMap.find?_values_eq_some_iff
  simp only [beq_iff_eq] at first
  refine Iff.trans ?_ first
  unfold getByArn
  cases d.roles.values.find? (·.arn == arn) with
  | none => simp only [reduceCtorEq]
  | some r' => rw [Except.ok.injEq, Option.some.injEq]

/-- A role is found by its resource name unless one before it overlaps with it. -/
theorem Filed.getByArn_eq_ok_iff (h : Filed scope d) {name : String} {r : Role}
    (there : d.roles.get? name = some r) :
    d.getByArn r.arn = .ok r ↔ ∀ name' r', d.roles.get? name' = some r' → name' < name →
      ¬(Overlaps r r' ∨ Overlaps r' r) := by
  have recorded := h.each name r there
  rw [Directory.getByArn_eq_ok_iff]
  constructor
  · rintro ⟨own, there', -, least⟩ name' r' before lt overlap
    have same : own = name := (h.each own r there').named.symm.trans recorded.named
    have arn := (arn_eq_iff recorded (h.each name' r' before) (String.ne_of_lt lt).symm).2 overlap
    exact least name' r' before arn.symm (same ▸ lt)
  · intro apart
    refine ⟨name, there, rfl, fun name' r' before arn lt => ?_⟩
    have overlap := (arn_eq_iff recorded (h.each name' r' before) (String.ne_of_lt lt).symm).1 arn.symm
    exact apart name' r' before lt overlap

/-- Resource names identify roles exactly if no two roles overlap. -/
theorem Filed.identified_iff (h : Filed scope d) :
    d.Identified ↔ ∀ name r name' r', d.roles.get? name = some r → d.roles.get? name' = some r' → ¬Overlaps r r' := by
  constructor
  · intro identified name r name' r' there there' overlaps
    have recorded := h.each name r there
    have recorded' := h.each name' r' there'
    have ne : name ≠ name' := by
      rintro rfl
      cases there.symm.trans there'
      exact not_overlaps_self r overlaps
    exact ne (identified.distinct _ _ _ _ there there' ((arn_eq_iff recorded recorded' ne).2 (.inl overlaps)))
  · intro apart
    refine ⟨fun name r name' r' there there' arn => ?_, fun name r there => ?_⟩
    · by_cases same : name = name'
      · exact same
      · rcases (arn_eq_iff (h.each name r there) (h.each name' r' there') same).1 arn with overlaps | overlaps
        · exact absurd overlaps (apart _ _ _ _ there there')
        · exact absurd overlaps (apart _ _ _ _ there' there)
    · refine (h.getByArn_eq_ok_iff there).2 fun name' r' there' _ overlaps => ?_
      exact overlaps.elim (apart _ _ _ _ there there') (apart _ _ _ _ there' there)

/-- **When resource names identify roles.** After a run, the resource names of the roles are all different and each
leads to its role exactly if no role has a path that goes on where the name of another begins. A single role is
found by its resource name exactly if no role before it overlaps with it. As long as no name holds a slash, no two
roles overlap. -/
theorem identified_run_iff (scope : Scope) (ops : List Op) :
    (((blank scope).run ops).Identified ↔
        ∀ name r name' r', ((blank scope).run ops).roles.get? name = some r →
          ((blank scope).run ops).roles.get? name' = some r' → ¬Overlaps r r') ∧
      (∀ name r, ((blank scope).run ops).roles.get? name = some r →
        (((blank scope).run ops).getByArn r.arn = .ok r ↔
          ∀ name' r', ((blank scope).run ops).roles.get? name' = some r' → name' < name →
            ¬(Overlaps r r' ∨ Overlaps r' r))) ∧
      ((∀ name r, ((blank scope).run ops).roles.get? name = some r → '/' ∉ name.toList) →
        ((blank scope).run ops).Identified) := by
  have filed := (filed_blank scope).run ops
  refine ⟨filed.identified_iff, fun name r there => filed.getByArn_eq_ok_iff there, fun plain => ?_⟩
  refine filed.identified_iff.2 fun name r name' r' there there' overlaps => ?_
  have slash := overlaps.slash (filed.each name' r' there')
  rw [(filed.each name r there).named] at slash
  exact plain name r there slash

end

/-! ### Paths that go on in names -/

/-- A policy that lets pipelines assume its role. -/
def pipelinePolicy : String :=
  "\x7b\"Statement\":[\x7b\"Principal\":\x7b\"Service\":\"codepipeline.amazonaws.com\"\x7d\x7d]\x7d"

/-- The path of the one role begins as the name of the other does, and goes on in another way. -/
def apart : List Op :=
  [.create "build" { policy := pipelinePolicy, path := some "/team/", idStem := "A", created := ⟨0, 0⟩ },
    .create "team/deploy" { policy := "{}", idStem := "B", created := ⟨1, 0⟩ }]

theorem identified_apart : ((blank account).run apart).Identified := by
  refine (identified_run_iff account apart).1.2 fun name r name' r' there there' overlaps => ?_
  have longer : ∀ r ∈ ((blank account).run apart).roles.values, ∀ r' ∈ ((blank account).run apart).roles.values,
      r.path ++ r.name = r'.path ++ r'.name → r = r' := by
    decide +kernel
  have same := longer r (Store.mem_values_iff.2 ⟨name, there⟩) r' (Store.mem_values_iff.2 ⟨name', there'⟩)
    ((path_append_name_eq_iff r r').2 (.inr (.inl overlaps)))
  exact not_overlaps_self r (same ▸ overlaps)

/-- The path of the role that trusts pipelines goes on in the name of the other role. -/
def overlapping : List Op :=
  [.create "build" { policy := pipelinePolicy, path := some "/a-team/", idStem := "A", created := ⟨0, 0⟩ },
    .create "a-team/build" { policy := "{}", idStem := "B", created := ⟨1, 0⟩ }]

/-- Pipelines may not assume a role that trusts them. -/
theorem trust_overlapping :
    ∃ r, ((blank account).run overlapping).roles.get? "build" = some r ∧ r.trusts Pipeline.principal = true ∧
      Pipeline.Catalog.isTrusted ((blank account).run overlapping) r.arn = false := by
  have seen : (((blank account).run overlapping).roles.get? "build").map (fun r => (r.trusts Pipeline.principal,
      Pipeline.Catalog.isTrusted ((blank account).run overlapping) r.arn)) = some (true, false) := by
    decide +kernel
  obtain ⟨r, there, is⟩ := Option.map_eq_some_iff.1 seen
  obtain ⟨trusts, refused⟩ := Prod.mk.inj is
  exact ⟨r, there, trusts, refused⟩

theorem not_always_identified : ¬∀ (scope : Scope) (ops : List Op), ((blank scope).run ops).Identified := by
  intro always
  obtain ⟨r, there, trusts, refused⟩ := trust_overlapping
  cases refused.symm.trans (((always account overlapping).isTrusted there).trans trusts)

end Directory

end MockCloud.Role
