import MockCloud.Json.ToTree

/-! # Resource names

A resource name is `arn:` and five parts with colons between them. The first four hold no colon; the
last one, the resource, may. Within the resource a type may stand in front, up to the first slash or
colon.

* `Arn.parse?` reads a name, `Arn.render` writes it.
* `Arn.parse?_eq_some_iff`: a text is read as a name exactly if it is how that name is written. -/

namespace MockCloud

/-- The parts of a resource name. -/
structure Arn where
  partition : String
  service : String
  region : String
  account : String
  resource : String
  deriving DecidableEq, Repr

namespace Arn

/-- The name made of these parts. -/
def render (a : Arn) : String :=
  "arn:" ++ a.partition ++ ":" ++ a.service ++ ":" ++ a.region ++ ":" ++ a.account ++ ":" ++ a.resource

/-- Up to `n` parts that a colon ends, and what follows them. -/
def parts? : Nat → List Char → Option (List (List Char) × List Char)
  | 0, rest => some ([], rest)
  | n + 1, cs => do
    let (part, cs) ← Text.cutFirst (· = ':') cs
    let (parts, rest) ← parts? n cs
    return (part :: parts, rest)

/-- Reads a resource name. -/
def parse? (text : String) : Option Arn :=
  match parts? 5 text.toList with
  | some ([arn, partition, service, region, account], resource) =>
    if arn = "arn".toList then
      some ⟨.ofList partition, .ofList service, .ofList region, .ofList account, .ofList resource⟩
    else none
  | _ => none

/-- The resource cut at its first slash or colon. -/
def cut? (a : Arn) : Option (String × String) :=
  (Text.cutFirst (fun c => c = '/' || c = ':') a.resource.toList).map fun (kind, name) =>
    (String.ofList kind, String.ofList name)

/-- The type in front of the resource. -/
def resourceType? (a : Arn) : Option String :=
  a.cut?.map (·.1)

/-- The resource without the type in front of it. -/
def resourceName (a : Arn) : String :=
  (a.cut?.map (·.2)).getD a.resource

/-- The first four parts hold no colon, as in a name that is read. -/
structure Plain (a : Arn) : Prop where
  partition : ':' ∉ a.partition.toList
  service : ':' ∉ a.service.toList
  region : ':' ∉ a.region.toList
  account : ':' ∉ a.account.toList

theorem parts?_append {part : List Char} (h : ':' ∉ part) (n : Nat) (rest : List Char) :
    parts? (n + 1) (part ++ ':' :: rest) = (parts? n rest).map fun x => (part :: x.1, x.2) := by
  have cut : Text.cutFirst (· = ':') (part ++ ':' :: rest) = some (part, rest) := by
    refine Text.cutFirst_append (fun c hc => ?_) rfl
    have : c ≠ ':' := fun e => h (e ▸ hc)
    simpa using this
  rw [parts?, cut]
  change (parts? n rest).bind (fun x => some (part :: x.1, x.2)) = _
  cases parts? n rest <;> rfl

/-- A name that was written is read back. -/
theorem parse?_render {a : Arn} (h : a.Plain) : parse? a.render = some a := by
  have layout : a.render.toList = "arn".toList ++ ':' :: (a.partition.toList ++ ':' :: (a.service.toList ++
      ':' :: (a.region.toList ++ ':' :: (a.account.toList ++ ':' :: a.resource.toList)))) := by
    simp [render]
  unfold parse?
  rw [layout, parts?_append (by decide), parts?_append h.partition, parts?_append h.service,
    parts?_append h.region, parts?_append h.account]
  simp [parts?]

/-- Parts that were cut off hold no colon and are put together again with one behind each. -/
theorem eq_of_parts? {n : Nat} {cs rest : List Char} {parts : List (List Char)}
    (h : parts? n cs = some (parts, rest)) :
    cs = parts.flatMap (· ++ [':']) ++ rest ∧ ∀ part ∈ parts, ':' ∉ part := by
  induction n generalizing cs parts with
  | zero => cases h; simp
  | succ n ih =>
    rw [parts?] at h
    obtain ⟨⟨part, cs'⟩, cut, h⟩ := Option.bind_eq_some_iff.1 h
    obtain ⟨⟨parts', rest'⟩, others, h⟩ := Option.bind_eq_some_iff.1 h
    cases h
    obtain ⟨c, hc, rfl, plain⟩ := Text.eq_append_of_cutFirst cut
    obtain ⟨rfl, plain'⟩ := ih others
    have colon : c = ':' := of_decide_eq_true hc
    refine ⟨by simp [colon], List.forall_mem_cons.2 ⟨fun there => ?_, plain'⟩⟩
    exact of_decide_eq_false (plain ':' there) rfl

theorem plain_ofList {partition service region account : List Char}
    (h : ∀ part ∈ [partition, service, region, account], ':' ∉ part) (resource : String) :
    Plain ⟨.ofList partition, .ofList service, .ofList region, .ofList account, resource⟩ := by
  simp only [List.forall_mem_cons] at h
  obtain ⟨partition', service', region', account', -⟩ := h
  constructor
  all_goals rwa [String.toList_ofList]

/-- What is read is a name, and the text is how it is written. -/
theorem parse?_eq_some_iff {text : String} {a : Arn} : parse? text = some a ↔ a.Plain ∧ a.render = text := by
  constructor
  · intro h
    unfold parse? at h
    split at h
    · next arn partition service region account resource cut =>
      obtain ⟨rfl, is⟩ := Option.ite_none_right_eq_some.1 h
      cases is
      obtain ⟨layout, plain⟩ := eq_of_parts? cut
      refine ⟨plain_ofList (List.forall_mem_cons.1 plain).2 _, String.toList_inj.1 ?_⟩
      rw [layout]
      simp [render]
    · cases h
  · rintro ⟨plain, rfl⟩
    exact parse?_render plain

/-- The type of the resource is what stands in front of its first slash or colon. -/
def TypeIs (a : Arn) (kind : String) : Prop :=
  ∃ c rest, (c = '/' ∨ c = ':') ∧ a.resource.toList = kind.toList ++ c :: rest ∧
    '/' ∉ kind.toList ∧ ':' ∉ kind.toList

theorem resourceType?_eq_some_iff {a : Arn} {kind : String} : a.resourceType? = some kind ↔ a.TypeIs kind := by
  rw [resourceType?, cut?, Option.map_map, Option.map_eq_some_iff]
  constructor
  · rintro ⟨⟨front, rest⟩, cut, rfl⟩
    obtain ⟨c, hc, layout, plain⟩ := Text.eq_append_of_cutFirst cut
    refine ⟨c, rest, by simpa using hc, by simp [layout], fun there => ?_, fun there => ?_⟩
    · simpa using plain '/' (by simpa using there)
    · simpa using plain ':' (by simpa using there)
  · rintro ⟨c, rest, hc, layout, slash, colon⟩
    refine ⟨(kind.toList, rest), ?_, by simp⟩
    rw [layout]
    refine Text.cutFirst_append (fun x hx => ?_) (by simpa using hc)
    simp only [Bool.or_eq_false_iff, decide_eq_false_iff_not]
    exact ⟨fun same => slash (same ▸ hx), fun same => colon (same ▸ hx)⟩

/-- Names of one partition are of one service if they are the same, whatever their other parts hold. -/
theorem service_of_render_eq {a b : Arn} (same : a.render = b.render) (partition : a.partition = b.partition)
    (ha : ':' ∉ a.service.toList) (hb : ':' ∉ b.service.toList) : a.service = b.service := by
  have layout (a : Arn) : a.render.toList = ("arn:" ++ a.partition ++ ":").toList ++ (a.service.toList ++
      ':' :: (a.region.toList ++ ':' :: (a.account.toList ++ ':' :: a.resource.toList))) := by
    simp [render]
  have rest := congrArg String.toList same
  rw [layout, layout, partition, List.append_cancel_left_eq] at rest
  exact String.toList_inj.1 (Text.eq_of_append_cons (Text.forall_ne_of_not_mem ha) (Text.forall_ne_of_not_mem hb)
    (decide_eq_true rfl) (decide_eq_true rfl) rest)

end Arn

instance : Json.ToTree Arn where
  toTree a := .record [("partition", .str a.partition), ("service", .str a.service), ("region", .str a.region),
    ("account_id", .str a.account), ("resource", .str a.resource),
    ("resource_type", .option .str a.resourceType?), ("resource_name", .str a.resourceName)]

end MockCloud
