import MockCloud.Role.Basic

/-! # Who may assume a role

A trust policy is a JSON document, of which the first statement counts. What it says about a service is found by a
walk along the names of fields, each of which may be missing or hold something else.

* `Leads policy s`: `s` is the first statement of the policy.
* `Names s service`: the statement names the service.
* `trusts_iff`: a service may assume a role exactly if the first statement of its policy names the service. -/

namespace MockCloud.Role

open Json (Value)

/-- The statement is the first one of the list of statements, or it is an object and stands there by itself. -/
def Leads (policy s : Value) : Prop :=
  (∃ rest, policy.field? "Statement" = some (.list (s :: rest))) ∨
    ∃ fields, policy.field? "Statement" = some (.object fields) ∧ s = .object fields

/-- The principal of the statement names services by a text in which this one occurs, or by a list that has it. -/
def Names (s : Value) (service : String) : Prop :=
  ∃ p, s.field? "Principal" = some p ∧
    ((∃ text, p.field? "Service" = some (.text text) ∧ ∃ front back, text = front ++ service ++ back) ∨
      ∃ items, p.field? "Service" = some (.list items) ∧ .text service ∈ items)

/-- The policy of the role can be read, and its first statement names the service. -/
def LetsAssume (r : Role) (service : String) : Prop :=
  ∃ policy s, Value.parse? r.policy = some policy ∧ Leads policy s ∧ Names s service

theorem firstStatement?_eq_some_iff {policy s : Value} : firstStatement? policy = some s ↔ Leads policy s := by
  unfold firstStatement? Leads
  split
  · next items found => cases items <;> simp [found]
  · next fields found => simp [found, eq_comm]
  · next noList noObject =>
    refine iff_of_false nofun ?_
    rintro (⟨rest, found⟩ | ⟨fields, found, -⟩)
    · exact noList _ found
    · exact noObject _ found

theorem namesService_iff {s : Value} {service : String} : namesService s service = true ↔ Names s service := by
  unfold namesService Names
  cases s.field? "Principal" with
  | none => simp
  | some p =>
    simp only [Option.bind_some, Option.some.injEq, exists_eq_left']
    split
    · next text found => simp [found, Text.contains_iff]
    · next items found =>
      simp only [found, reduceCtorEq, Option.some.injEq, Value.list.injEq, false_and, exists_false, false_or,
        exists_eq_left', List.any_eq_true]
      constructor
      · rintro ⟨item, there, same⟩
        split at same
        · exact beq_iff_eq.1 same ▸ there
        · cases same
      · exact fun there => ⟨_, there, beq_self_eq_true service⟩
    · next noText noList =>
      refine iff_of_false nofun ?_
      rintro (⟨text, found, -⟩ | ⟨items, found, -⟩)
      · exact noText _ found
      · exact noList _ found

/-- **Trust.** A service may assume a role exactly if the first statement of its policy names the service. -/
theorem trusts_iff {r : Role} {service : String} : r.trusts service = true ↔ r.LetsAssume service := by
  unfold trusts readPolicy LetsAssume
  cases Value.parse? r.policy with
  | none => simp
  | some policy => simp [policyTrusts, Option.any_eq_true, firstStatement?_eq_some_iff, namesService_iff]

end MockCloud.Role
