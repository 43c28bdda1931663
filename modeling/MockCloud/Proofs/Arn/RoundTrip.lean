import MockCloud.Arn

/-! # Resource names there and back

A resource name is read into its five parts and written from them. The parts in front of the resource end at the first
colon, so they are read back if they hold none; the resource takes what is left, whatever it holds.

* `parse?_isSome_iff`: the texts that are read begin with `arn:` and hold at least five colons.
* `render_inj`: names with plain parts are written differently.
* `CutAt`, `Uncut`: how the resource is put together again from its type and its name.
* `round_trip`: reading and writing undo each other, and so do cutting the resource and putting it together. -/

namespace MockCloud.Arn

/-! ### Which texts are read -/

/-- A text has as many parts that a colon ends as it has colons. -/
theorem parts?_isSome_iff {n : Nat} {cs : List Char} : (parts? n cs).isSome ↔ n ≤ cs.count ':' := by
  induction n generalizing cs with
  | zero => simp [parts?]
  | succ n ih =>
    cases cut : Text.cutFirst (· = ':') cs with
    | none =>
      have none : ':' ∉ cs := fun there => by simpa using Text.eq_false_of_cutFirst_eq_none cut ':' there
      have few : ¬n + 1 ≤ cs.count ':' := by rw [List.count_eq_zero.2 none]; omega
      simp [parts?, cut, few]
    | some parts =>
      obtain ⟨part, rest⟩ := parts
      obtain ⟨c, colon, rfl, before⟩ := Text.eq_append_of_cutFirst cut
      cases of_decide_eq_true colon
      have plain : ':' ∉ part := fun there => by simpa using before ':' there
      rw [parts?_append plain, Option.isSome_map, ih, List.count_append, List.count_eq_zero.2 plain, List.count_cons_self]
      omega

theorem length_of_parts? {n : Nat} {cs rest : List Char} {parts : List (List Char)}
    (h : parts? n cs = some (parts, rest)) : parts.length = n := by
  induction n generalizing cs parts with
  | zero => cases h; rfl
  | succ n ih =>
    rw [parts?] at h
    obtain ⟨⟨part, cs'⟩, -, h⟩ := Option.bind_eq_some_iff.1 h
    obtain ⟨⟨parts', rest'⟩, others, h⟩ := Option.bind_eq_some_iff.1 h
    cases h
    rw [List.length_cons, ih others]

theorem exists_four_of_parts? {cs rest : List Char} {parts : List (List Char)} (h : parts? 4 cs = some (parts, rest)) :
    ∃ partition service region account, parts = [partition, service, region, account] := by
  have four := length_of_parts? h
  match parts, four with
  | [partition, service, region, account], _ => exact ⟨partition, service, region, account, rfl⟩

/-- **The texts that are read**: five parts need five colons, and only the first of the parts is given. -/
theorem parse?_isSome_iff {x : String} : (parse? x).isSome ↔ Text.beginsWith x "arn:" ∧ 5 ≤ x.toList.count ':' := by
  rw [Text.beginsWith_iff]
  constructor
  · intro read
    obtain ⟨a, read⟩ := Option.isSome_iff_exists.1 read
    obtain ⟨-, rfl⟩ := parse?_eq_some_iff.1 read
    constructor
    · simp only [render, String.append_assoc]
      exact ⟨_, rfl⟩
    · have first : "arn:".toList.count ':' = 1 := rfl
      have colon : ":".toList.count ':' = 1 := rfl
      simp only [render, String.toList_append, List.count_append]
      omega
  · rintro ⟨⟨rest, rfl⟩, colons⟩
    -- the first colon ends `arn`, so there are four for the parts in front of the resource
    have layout : ("arn:" ++ rest).toList = "arn".toList ++ ':' :: rest.toList := by simp
    have enough : (parts? 4 rest.toList).isSome := by
      rw [layout, List.count_append, List.count_cons_self, show "arn".toList.count ':' = 0 from rfl] at colons
      rw [parts?_isSome_iff]
      omega
    obtain ⟨⟨parts, resource⟩, cut⟩ := Option.isSome_iff_exists.1 enough
    obtain ⟨partition, service, region, account, rfl⟩ := exists_four_of_parts? cut
    unfold parse?
    rw [layout, parts?_append (by decide), cut]
    rfl

/-- Names with plain parts are the same only if their parts are. -/
theorem render_inj {a b : Arn} (ha : a.Plain) (hb : b.Plain) : a.render = b.render ↔ a = b := by
  refine ⟨fun same => ?_, congrArg render⟩
  have read := parse?_render ha
  rw [same, parse?_render hb] at read
  exact (Option.some.inj read).symm

/-! ### The resource -/

/-- The resource is cut at this character, the first slash or colon in it, behind its type and before its name. -/
structure CutAt (a : Arn) (kind : String) (c : Char) : Prop where
  type : a.resourceType? = some kind
  separator : c = '/' ∨ c = ':'
  first : '/' ∉ kind.toList ∧ ':' ∉ kind.toList
  rebuilt : a.resource.toList = kind.toList ++ c :: a.resourceName.toList

/-- The resource has no slash and no colon, and is all name. -/
structure Uncut (a : Arn) : Prop where
  type : a.resourceType? = none
  plain : '/' ∉ a.resource.toList ∧ ':' ∉ a.resource.toList
  whole : a.resourceName = a.resource

theorem cutAt_or_uncut (a : Arn) : (∃ kind c, a.CutAt kind c) ∨ a.Uncut := by
  have plain {cs : List Char} (refused : ∀ x ∈ cs, (decide (x = '/') || decide (x = ':')) = false) :
      '/' ∉ cs ∧ ':' ∉ cs :=
    ⟨fun there => by simpa using refused '/' there, fun there => by simpa using refused ':' there⟩
  cases cut : Text.cutFirst (fun c => c = '/' || c = ':') a.resource.toList with
  | none =>
    have uncut : a.cut? = none := by rw [cut?, cut, Option.map_none]
    refine .inr ⟨?_, plain (Text.eq_false_of_cutFirst_eq_none cut), ?_⟩
    · rw [resourceType?, uncut, Option.map_none]
    · rw [resourceName, uncut, Option.map_none, Option.getD_none]
  | some parts =>
    obtain ⟨kind, name⟩ := parts
    obtain ⟨c, separator, layout, before⟩ := Text.eq_append_of_cutFirst cut
    have cut' : a.cut? = some (.ofList kind, .ofList name) := by rw [cut?, cut, Option.map_some]
    refine .inl ⟨.ofList kind, c, ?_, by simpa using separator, ?_, ?_⟩
    · rw [resourceType?, cut', Option.map_some]
    · rw [String.toList_ofList]
      exact plain before
    · rw [resourceName, cut', Option.map_some, Option.getD_some, String.toList_ofList, String.toList_ofList, layout]

/-- **Reading and writing undo each other.** A name made of four texts without colons and any resource is read as these
five parts. A text that is read gives four parts without colons, and the name made of the five is the text. A resource
is put together again from its type, the first slash or colon, and its name. -/
theorem round_trip :
    (∀ partition service region account resource : String, ':' ∉ partition.toList → ':' ∉ service.toList →
      ':' ∉ region.toList → ':' ∉ account.toList →
        parse? (render ⟨partition, service, region, account, resource⟩) =
          some ⟨partition, service, region, account, resource⟩) ∧
    (∀ (x : String) (a : Arn), parse? x = some a → a.Plain ∧ a.render = x) ∧
    ∀ a : Arn, (∃ kind c, a.CutAt kind c) ∨ a.Uncut := by
  refine ⟨?_, fun x a read => parse?_eq_some_iff.1 read, cutAt_or_uncut⟩
  intro partition service region account resource partition' service' region' account'
  exact parse?_render ⟨partition', service', region', account'⟩

/-- The resource of a name may have colons and slashes; the parts in front of it may be empty. -/
theorem round_trip_bucket :
    parse? (render ⟨"aws", "s3", "", "", "logs:daily/1"⟩) = some ⟨"aws", "s3", "", "", "logs:daily/1"⟩ ∧
    Plain ⟨"aws", "sns", "", "", ":"⟩ ∧ render ⟨"aws", "sns", "", "", ":"⟩ = "arn:aws:sns::::" := by
  obtain ⟨written, read, -⟩ := round_trip
  exact ⟨written _ _ _ _ _ (by decide) (by decide) (by decide) (by decide), read _ _ (by decide)⟩

end MockCloud.Arn
