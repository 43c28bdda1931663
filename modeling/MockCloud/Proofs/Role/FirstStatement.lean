import MockCloud.Proofs.Json.Value
import MockCloud.Proofs.Role.Trust

/-! # The first statement decides

A trust policy may say much, but a service is let in by what stands at `Principal.Service` of the first statement, and
by nothing else. Wherever the walk to that place finds no field of the name it ends at `null`, and no service is let in.

* `services s`: what stands at that place of a statement.
* `trusts_iff_lists`: the services that may assume a role are those that are listed there.
* `Nameless v`, `nameless_iff`: what lists no service at all.
* `first_statement_decides`: two policies with the same value at that place let the same services in. -/

namespace MockCloud.Role

open Json (Value)

/-- What stands at `Principal.Service` of a statement: `null` if there is no such place. -/
def services (s : Value) : Value :=
  ((s.field? "Principal").bind fun p => p.field? "Service").getD .null

/-- The service is listed: it occurs in a text, or it is an item of a list. -/
inductive Lists : Value → String → Prop
  | text (front service back : String) : Lists (.text (front ++ service ++ back)) service
  | item {items : List Value} {service : String} (there : .text service ∈ items) : Lists (.list items) service

/-- No service is listed: there is no text, and no list with a text in it. -/
structure Nameless (v : Value) : Prop where
  noText : ∀ text, v ≠ .text text
  noItem : ∀ items, v = .list items → ∀ text, .text text ∉ items

theorem names_iff_lists {s : Value} {service : String} : Names s service ↔ Lists (services s) service := by
  unfold Names services
  constructor
  · rintro ⟨p, principal, ⟨_, found, front, back, rfl⟩ | ⟨items, found, there⟩⟩
    · rw [principal, Option.bind_some, found, Option.getD_some]
      exact .text front service back
    · rw [principal, Option.bind_some, found, Option.getD_some]
      exact .item there
  · intro lists
    cases principal : s.field? "Principal" with
    | none =>
      rw [principal] at lists
      cases lists
    | some p =>
      rw [principal, Option.bind_some] at lists
      refine ⟨p, rfl, ?_⟩
      cases found : p.field? "Service" with
      | none =>
        rw [found] at lists
        cases lists
      | some v =>
        rw [found, Option.getD_some] at lists
        cases lists with
        | text front _ back => exact .inl ⟨_, rfl, front, back, rfl⟩
        | item there => exact .inr ⟨_, rfl, there⟩

/-- There is one first statement. -/
theorem Leads.unique {policy s s' : Value} (h : Leads policy s) (h' : Leads policy s') : s = s' :=
  Option.some.inj ((firstStatement?_eq_some_iff.2 h).symm.trans (firstStatement?_eq_some_iff.2 h'))

theorem not_leads_of_empty {policy s : Value} (empty : policy.field? "Statement" = some (.list [])) :
    ¬Leads policy s := by
  rintro (⟨rest, found⟩ | ⟨fields, found, -⟩) <;> cases empty.symm.trans found

/-- The services that may assume a role are those that the first statement of its policy lists. -/
theorem trusts_iff_lists {r : Role} {policy s : Value} {service : String} (read : Value.parse? r.policy = some policy)
    (first : Leads policy s) : r.trusts service = true ↔ Lists (services s) service := by
  rw [trusts_iff, ← names_iff_lists]
  constructor
  · rintro ⟨policy', s', read', first', named⟩
    cases read.symm.trans read'
    exact first.unique first' ▸ named
  · exact fun named => ⟨policy, s, read, first, named⟩

/-- A value lists no service exactly if every service is missing from it: a text at least lists itself. -/
theorem nameless_iff {v : Value} : Nameless v ↔ ∀ service, ¬Lists v service := by
  constructor
  · rintro ⟨noText, noItem⟩ service (⟨front, _, back⟩ | there)
    · exact noText _ rfl
    · exact noItem _ rfl service there
  · intro none
    refine ⟨?_, ?_⟩
    · rintro text rfl
      refine none text ?_
      simpa using Lists.text "" text ""
    · rintro items rfl text there
      exact none text (.item there)

/-- A policy without a first statement lets nobody in. -/
theorem trusts_eq_false_of_not_leads {r : Role} {policy : Value} (read : Value.parse? r.policy = some policy)
    (none : ∀ s, ¬Leads policy s) (service : String) : r.trusts service = false := by
  refine Bool.eq_false_iff.2 fun trusted => ?_
  obtain ⟨policy', s, read', first, -⟩ := trusts_iff.1 trusted
  cases read.symm.trans read'
  exact none s first

/-- **The first statement decides.** Take any policy that can be read and has a list of statements, or a single one
that stands there by itself. The services that may assume the role are those that stand at `Principal.Service` of the
first statement. So any other policy, whose first statement has the same value there, lets the same services in,
whatever else is different. Nobody is let in if the list is empty, and a first statement lets nobody in exactly if it
names no service. -/
theorem first_statement_decides :
    (∀ (r : Role) (policy s : Value), Value.parse? r.policy = some policy → Leads policy s →
      (∀ service, r.trusts service = true ↔ Lists (services s) service) ∧
      (∀ (r' : Role) (policy' s' : Value), Value.parse? r'.policy = some policy' → Leads policy' s' →
        services s' = services s → ∀ service, r'.trusts service = r.trusts service) ∧
      ((∀ service, r.trusts service = false) ↔ Nameless (services s))) ∧
    ∀ (r : Role) (policy : Value), Value.parse? r.policy = some policy →
      policy.field? "Statement" = some (.list []) → ∀ service, r.trusts service = false := by
  refine ⟨fun r policy s read first => ⟨fun service => trusts_iff_lists read first, ?_, ?_⟩,
    fun r policy read empty => trusts_eq_false_of_not_leads read fun _ => not_leads_of_empty empty⟩
  · intro r' policy' s' read' first' same service
    rw [Bool.eq_iff_iff, trusts_iff_lists read' first', trusts_iff_lists read first, same]
  · simp only [nameless_iff, ← trusts_iff_lists read first, Bool.not_eq_true]

/-! ### A policy that is rewritten -/

/-- A role with a policy. -/
def under (policy : Value) : Role where
  name := "builder"
  id := "AROABUILDER"
  arn := "arn:aws:iam::123456789012:role/builder"
  path := "/"
  policy := policy.render
  description := none
  maxSessionDuration := usualSessionDuration
  created := ⟨0, 0⟩
  tags := .empty

/-- A statement about services. -/
def statementOf (effect : String) (services : Value) : Value :=
  .ofFields [("Effect", .text effect), ("Principal", .ofFields [("Service", services)])]

/-- A policy with such a value as its statements. -/
def policyOf (version : String) (statements : Value) : Value :=
  .ofFields [("Version", .text version), ("Statement", statements)]

theorem plain_statementOf {depth : Nat} (effect : String) {services : Value} (plain : services.Plain depth) :
    (statementOf effect services).Plain (depth + 2) := by
  have principal : (Value.ofFields [("Service", services)]).Plain (depth + 1) := .ofFields (by simpa using plain)
  exact .ofFields (by simpa using ⟨.text effect, principal⟩)

theorem plain_policyOf {depth : Nat} (version : String) {statements : Value} (plain : statements.Plain depth) :
    (policyOf version statements).Plain (depth + 1) :=
  .ofFields (by simpa using ⟨.text version, plain⟩)

/-- The first statement is put in the place of the list, with another effect and without the statement behind it. -/
theorem first_statement_decides_rewritten :
    let builds : Value := .text "codebuild.amazonaws.com"
    let first := statementOf "Allow" builds
    let listed := policyOf "2008-10-17" (.list [first, statementOf "Allow" (.text "lambda.amazonaws.com")])
    let alone := policyOf "2012-10-17" (statementOf "Deny" builds)
    let bare := policyOf "2012-10-17" (.list [])
    Value.parse? (under listed).policy = some listed ∧ Leads listed first ∧
      Value.parse? (under alone).policy = some alone ∧ Leads alone (statementOf "Deny" builds) ∧
      Value.parse? (under bare).policy = some bare ∧
      (∀ service, (under alone).trusts service = (under listed).trusts service) ∧
      (under listed).trusts "codebuild.amazonaws.com" = true ∧
      ¬(under listed).trusts "lambda.amazonaws.com" = true ∧
      ∀ service, (under bare).trusts service = false := by
  intro builds first listed alone bare
  have readListed : Value.parse? (under listed).policy = some listed := by
    refine Value.parse?_render (plain_policyOf _ (.list ?_))
    simpa using ⟨plain_statementOf _ (.text _), plain_statementOf _ (.text _)⟩
  have readAlone : Value.parse? (under alone).policy = some alone :=
    Value.parse?_render (plain_policyOf _ (plain_statementOf _ (.text _)))
  have readBare : Value.parse? (under bare).policy = some bare :=
    Value.parse?_render (plain_policyOf _ (.list nofun))
  have leadsListed : Leads listed first := .inl ⟨_, rfl⟩
  have leadsAlone : Leads alone (statementOf "Deny" builds) := .inr ⟨_, rfl, rfl⟩
  obtain ⟨decides, empty⟩ := first_statement_decides
  obtain ⟨lists, same, -⟩ := decides _ _ _ readListed leadsListed
  refine ⟨readListed, leadsListed, readAlone, leadsAlone, readBare, same _ _ _ readAlone leadsAlone rfl,
    (lists _).2 (.text "" "codebuild.amazonaws.com" ""), ?_, empty _ _ readBare rfl⟩
  rw [lists, ← names_iff_lists, ← namesService_iff]
  decide +kernel

end MockCloud.Role
