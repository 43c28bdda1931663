import MockCloud.Network.Labels
import MockCloud.Proofs.Tag.Rules

/-! # What filters ask for

A filter asks for resources that have, under its name, some value that fits one of the listed ones. Every kind of
resource knows some names of its own, and the names for tags.

* `Catalogued`: a kind of resource and the names that it knows.
* `Fits a f`: the filter asks for the resource.
* `select_of_known`: a selection keeps the resources that every filter asks for.
* `select_of_unknown`: an unknown name is refused only if some resource fits the filters in front of it. -/

namespace MockCloud.Network

/-! ### Names -/

/-- A name for tags, known to every kind of resource. -/
def General (name : String) : Prop :=
  (∃ key, name = "tag:" ++ key) ∨ name = "tag-key" ∨ name = "tag-value"

instance (name : String) : Decidable (General name) :=
  decidable_of_iff (Text.beginsWith name "tag:" = true ∨ name = "tag-key" ∨ name = "tag-value")
    (or_congr_left Text.beginsWith_iff)

/-- A kind of resource with the names that it knows besides those for tags. -/
class Catalogued (α : Type) [Filterable α] where
  names : List String
  not_general : ∀ name ∈ names, ¬General name
  known_iff : ∀ (a : α) name, (∃ values, Filterable.attribute? a name = some values) ↔ name ∈ names

instance : Catalogued Vpc where
  names := ["vpc-id", "cidr", "cidr-block", "cidrBlock", "state", "owner-id", "is-default", "isDefault"]
  not_general := by decide +kernel
  known_iff v name := by
    simp only [Filterable.attribute?]
    split <;> simp_all

instance : Catalogued Subnet where
  names := ["subnet-id", "vpc-id", "cidr", "cidr-block", "cidrBlock", "availability-zone", "availabilityZone", "state",
    "owner-id"]
  not_general := by decide +kernel
  known_iff s name := by
    simp only [Filterable.attribute?]
    split <;> simp_all

instance : Catalogued Acl where
  names := ["default", "vpc-id", "network-acl-id", "association.network-acl-id", "association.subnet-id",
    "association.association-id", "owner-id", "entry.rule-number", "entry.rule-action"]
  not_general := by decide +kernel
  known_iff a name := by
    simp only [Filterable.attribute?]
    split <;> simp_all

instance : Catalogued Gateway where
  names := ["nat-gateway-id", "vpc-id", "subnet-id", "state"]
  not_general := by decide +kernel
  known_iff g name := by
    simp only [Filterable.attribute?]
    split <;> simp_all

instance : Catalogued TagDescription where
  names := ["resource-id", "resource-type", "key", "value"]
  not_general := by decide +kernel
  known_iff t name := by
    simp only [Filterable.attribute?]
    split <;> simp_all

/-- The kind of resource knows the name of the filter. -/
def Filter.Known (α : Type) [Filterable α] [Catalogued α] (f : Filter) : Prop :=
  General f.name ∨ f.name ∈ Catalogued.names α

instance (α : Type) [Filterable α] [Catalogued α] (f : Filter) : Decidable (f.Known α) :=
  inferInstanceAs (Decidable (_ ∨ _))

/-! ### Values -/

section

variable {α : Type} [Filterable α]

/-- The resource has the value under the name: `tag:` with a key stands for the value of this tag, `tag-key` and
`tag-value` for the keys and the values of all tags, and any other name for an attribute. -/
inductive HasValue (a : α) (name value : String) : Prop
  | tag {key : String} (named : name = "tag:" ++ key) (there : (Filterable.tags a).get? key = some value)
  | tagKey {v : String} (named : name = "tag-key") (there : (Filterable.tags a).get? value = some v)
  | tagValue {key : String} (named : name = "tag-value") (there : (Filterable.tags a).get? key = some value)
  | own {values : List String} (known : Filterable.attribute? a name = some values) (mem : value ∈ values)

/-- The filter asks for the resource: a value that it has under this name fits one of the listed ones. -/
def Fits (a : α) (f : Filter) : Prop :=
  ∃ pattern ∈ f.values, ∃ value, HasValue a f.name value ∧ Text.Wildcard.fits pattern.toList value.toList = true

end

theorem tag_append_ne (key : String) : "tag:" ++ key ≠ "tag-key" ∧ "tag:" ++ key ≠ "tag-value" := by
  have apart (name : String) (other : Text.beginsWith name "tag:" = false) : "tag:" ++ key ≠ name := fun same =>
    Bool.eq_false_iff.1 other (Text.beginsWith_iff.2 ⟨key, same.symm⟩)
  exact ⟨apart _ (by decide), apart _ (by decide)⟩

/-! ### One filter -/

section

variable {α : Type} [Filterable α] (a : α) {f : Filter}

theorem anyFits_iff {values : List String} (has : ∀ v, v ∈ values ↔ HasValue a f.name v) :
    anyFits f.values values = true ↔ Fits a f := by
  simp only [anyFits, List.any_eq_true, has, Fits]

/-- A filter whose name is not one for tags looks at the attribute of this name. -/
theorem Filter.candidates_of_not_general (own : ¬General f.name) :
    f.candidates a =
      match Filterable.attribute? a f.name with
      | some values => .ok values
      | none => .error (.invalidValue (.filter f.name)) := by
  unfold candidates
  cases cut : Text.after? "tag:".toList f.name.toList with
  | some key =>
    have named : f.name = "tag:" ++ String.ofList key := String.toList_inj.1 (by simp [Text.after?_eq_some_iff.1 cut])
    exact absurd (.inl ⟨_, named⟩) own
  | none =>
    exact (if_neg fun isKey => own (.inr (.inl isKey))).trans (if_neg fun isValue => own (.inr (.inr isValue)))

variable [Catalogued α] {name value : String}

/-- A name for tags is not the name of an attribute. -/
theorem attribute?_ne_some (general : General name) (values : List String) :
    Filterable.attribute? a name ≠ some values := fun known =>
  Catalogued.not_general name ((Catalogued.known_iff a name).1 ⟨values, known⟩) general

theorem hasValue_tag_iff {key : String} :
    HasValue a ("tag:" ++ key) value ↔ value ∈ ((Filterable.tags a).get? key).toList := by
  rw [Option.mem_toList]
  constructor
  · rintro (⟨named, there⟩ | ⟨named, -⟩ | ⟨named, -⟩ | ⟨own, -⟩)
    · rw [(String.append_right_inj "tag:").1 named]
      exact there
    · exact absurd named (tag_append_ne key).1
    · exact absurd named (tag_append_ne key).2
    · exact absurd own (attribute?_ne_some a (.inl ⟨key, rfl⟩) _)
  · exact fun there => .tag rfl there

theorem hasValue_tagKey_iff : HasValue a "tag-key" value ↔ value ∈ (Filterable.tags a).keys := by
  rw [SortedMap.mem_keys_iff]
  constructor
  · rintro (⟨named, -⟩ | ⟨-, there⟩ | ⟨named, -⟩ | ⟨own, -⟩)
    · exact absurd named.symm (tag_append_ne _).1
    · exact ⟨_, there⟩
    · exact absurd named (by decide)
    · exact absurd own (attribute?_ne_some a (.inr (.inl rfl)) _)
  · exact fun ⟨_, there⟩ => .tagKey rfl there

theorem hasValue_tagValue_iff : HasValue a "tag-value" value ↔ value ∈ (Filterable.tags a).values := by
  rw [SortedMap.mem_values_iff]
  constructor
  · rintro (⟨named, -⟩ | ⟨named, -⟩ | ⟨-, there⟩ | ⟨own, -⟩)
    · exact absurd named.symm (tag_append_ne _).2
    · exact absurd named (by decide)
    · exact ⟨_, there⟩
    · exact absurd own (attribute?_ne_some a (.inr (.inr rfl)) _)
  · exact fun ⟨_, there⟩ => .tagValue rfl there

theorem hasValue_own_iff {values : List String} (own : Filterable.attribute? a name = some values) :
    HasValue a name value ↔ value ∈ values := by
  have plain : ¬General name := fun general => attribute?_ne_some a general values own
  constructor
  · rintro (⟨named, -⟩ | ⟨named, -⟩ | ⟨named, -⟩ | ⟨own', mem⟩)
    · exact absurd (.inl ⟨_, named⟩) plain
    · exact absurd (.inr (.inl named)) plain
    · exact absurd (.inr (.inr named)) plain
    · rw [Option.some.inj (own.symm.trans own')]
      exact mem
  · exact fun mem => .own own mem

/-- **A known filter** looks at the values that the resource has under its name. -/
theorem Filter.candidates_of_known (known : f.Known α) :
    ∃ values, f.candidates a = .ok values ∧ ∀ v, v ∈ values ↔ HasValue a f.name v := by
  obtain ⟨name, patterns⟩ := f
  rcases known with (⟨key, rfl⟩ | rfl | rfl) | mem
  · refine ⟨((Filterable.tags a).get? key).toList, ?_, fun v => (hasValue_tag_iff a).symm⟩
    rw [candidates, Text.after?_eq_some_iff.2 String.toList_append]
    dsimp only
    rw [String.ofList_toList]
  · refine ⟨(Filterable.tags a).keys, ?_, fun v => (hasValue_tagKey_iff a).symm⟩
    rw [candidates, (by decide : Text.after? "tag:".toList "tag-key".toList = none)]
    rfl
  · refine ⟨(Filterable.tags a).values, ?_, fun v => (hasValue_tagValue_iff a).symm⟩
    rw [candidates, (by decide : Text.after? "tag:".toList "tag-value".toList = none)]
    rfl
  · obtain ⟨values, own⟩ := (Catalogued.known_iff a name).2 mem
    refine ⟨values, ?_, fun v => (hasValue_own_iff a own).symm⟩
    rw [candidates_of_not_general a (Catalogued.not_general name mem), own]

theorem Filter.candidates_of_unknown (unknown : ¬f.Known α) :
    f.candidates a = .error (.invalidValue (.filter f.name)) := by
  rw [Known, not_or] at unknown
  rw [candidates_of_not_general a unknown.1]
  cases own : Filterable.attribute? a f.name with
  | some values => exact absurd ((Catalogued.known_iff a f.name).1 ⟨values, own⟩) unknown.2
  | none => rfl

/-! ### A list of filters -/

section

variable {rest before : List Filter}

theorem fitsAll_cons_of_fits (known : f.Known α) (fits : Fits a f) : fitsAll a (f :: rest) = fitsAll a rest := by
  obtain ⟨values, candidates, has⟩ := Filter.candidates_of_known a known
  rw [fitsAll, candidates]
  exact if_pos ((anyFits_iff a has).2 fits)

theorem fitsAll_cons_of_not_fits (known : f.Known α) (fails : ¬Fits a f) : fitsAll a (f :: rest) = .ok false := by
  obtain ⟨values, candidates, has⟩ := Filter.candidates_of_known a known
  rw [fitsAll, candidates]
  exact if_neg fun any => fails ((anyFits_iff a has).1 any)

theorem fitsAll_cons_of_unknown (unknown : ¬f.Known α) :
    fitsAll a (f :: rest) = .error (.invalidValue (.filter f.name)) := by
  rw [fitsAll, Filter.candidates_of_unknown a unknown]

/-- Known filters that ask for the resource are passed. -/
theorem fitsAll_append_of_fits (known : ∀ g ∈ before, g.Known α) (fits : ∀ g ∈ before, Fits a g) :
    fitsAll a (before ++ rest) = fitsAll a rest := by
  induction before with
  | nil => rfl
  | cons g before ih =>
    obtain ⟨knownHere, known⟩ := List.forall_mem_cons.1 known
    obtain ⟨fitsHere, fits⟩ := List.forall_mem_cons.1 fits
    rw [List.cons_append, fitsAll_cons_of_fits a knownHere fitsHere, ih known fits]

/-- Behind known filters one of which does not ask for the resource nothing is looked at. -/
theorem fitsAll_append_of_not_fits (known : ∀ g ∈ before, g.Known α) (fails : ¬∀ g ∈ before, Fits a g) :
    fitsAll a (before ++ rest) = .ok false := by
  induction before with
  | nil => exact absurd nofun fails
  | cons g before ih =>
    obtain ⟨knownHere, known⟩ := List.forall_mem_cons.1 known
    rw [List.cons_append]
    by_cases here : Fits a g
    · rw [fitsAll_cons_of_fits a knownHere here]
      exact ih known fun fits => fails (List.forall_mem_cons.2 ⟨here, fits⟩)
    · exact fitsAll_cons_of_not_fits a knownHere here

end

/-! ### Selections -/

/-- **A selection by known filters** keeps the resources that all of them ask for, in their order. -/
theorem select_of_known {filters : List Filter} (known : ∀ f ∈ filters, f.Known α) (items : List α) :
    ∃ kept, select items filters = .ok kept ∧ kept.Sublist items ∧
      ∀ a, a ∈ kept ↔ a ∈ items ∧ ∀ f ∈ filters, Fits a f := by
  induction items with
  | nil => exact ⟨[], rfl, .slnil, by simp⟩
  | cons a items ih =>
    obtain ⟨kept, selected, sublist, mem⟩ := ih
    by_cases fits : ∀ f ∈ filters, Fits a f
    · have passed : fitsAll a filters = .ok true := by
        rw [← List.append_nil filters, fitsAll_append_of_fits a known fits]
        rfl
      refine ⟨a :: kept, ?_, sublist.cons_cons a, fun b => ?_⟩
      · rw [select, passed, selected]
        rfl
      · rw [List.mem_cons, List.mem_cons, mem, or_and_right]
        exact or_congr_left ⟨fun same => ⟨same, same ▸ fits⟩, And.left⟩
    · have stopped : fitsAll a filters = .ok false := by
        rw [← List.append_nil filters, fitsAll_append_of_not_fits a known fits]
      refine ⟨kept, ?_, sublist.cons a, fun b => ?_⟩
      · rw [select, stopped, selected]
        rfl
      · rw [List.mem_cons, mem, or_and_right]
        exact (or_iff_right fun ⟨same, all⟩ => fits (same ▸ all)).symm

/-- **A selection by filters one of which is unknown** is refused if some resource gets to this filter; otherwise it
keeps nothing. -/
theorem select_of_unknown {before after : List Filter} (known : ∀ g ∈ before, g.Known α) (unknown : ¬f.Known α)
    (items : List α) :
    ((∃ a ∈ items, ∀ g ∈ before, Fits a g) →
      select items (before ++ f :: after) = .error (.invalidValue (.filter f.name))) ∧
    ((¬∃ a ∈ items, ∀ g ∈ before, Fits a g) → select items (before ++ f :: after) = .ok []) := by
  induction items with
  | nil => simp [select]
  | cons a items ih =>
    by_cases fits : ∀ g ∈ before, Fits a g
    · have refused : fitsAll a (before ++ f :: after) = .error (.invalidValue (.filter f.name)) := by
        rw [fitsAll_append_of_fits a known fits, fitsAll_cons_of_unknown a unknown]
      refine ⟨fun _ => by rw [select, refused], fun none => absurd ⟨a, List.mem_cons_self, fits⟩ none⟩
    · have stopped : fitsAll a (before ++ f :: after) = .ok false := fitsAll_append_of_not_fits a known fits
      have later : (∃ b ∈ a :: items, ∀ g ∈ before, Fits b g) ↔ ∃ b ∈ items, ∀ g ∈ before, Fits b g := by
        simp [fits]
      rw [later, select, stopped]
      refine ⟨fun some => ?_, fun none => ?_⟩
      · rw [ih.1 some]
      · rw [ih.2 none]
        rfl

end

end MockCloud.Network
