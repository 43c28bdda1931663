import MockCloud.Mail.Template
import MockCloud.Proofs.Text.Trimming

/-! # Filling a part of a template

A part of a template is read once, from left to right. Each time the first hole of what is left is looked for; the text
in front of it stays as it is, and the reading goes on behind it. So what is put into a hole is never read, and the
holes do not hang on the data.

* `Hole path text`: how a hole is written. `hole?_eq_some_iff`: a text begins with at most one hole.
* `FirstHole`, `Scanned`: the first hole of a text, and all holes of a text. `exists_scanned`: the pieces of a part are
  what is scanned, and `Scanned.unique`: nothing else is.
* `ValueAt`, `Shown`: the value at a path, and how it is written.
* `filled_single_pass`: what a filled part is, and when a part cannot be filled. -/

namespace MockCloud.Mail

open Json (Value)

/-! ### Holes -/

/-- A path between double braces, with blank characters around it if the writer likes. -/
structure Hole (path text : List Char) : Prop where
  named : path ≠ []
  plain : ∀ c ∈ path, isPathChar c = true
  written : ∃ before after, (∀ c ∈ before, Text.isBlank c = true) ∧ (∀ c ∈ after, Text.isBlank c = true) ∧
    text = ['\x7b', '\x7b'] ++ before ++ path ++ after ++ ['\x7d', '\x7d']

/-- What ends a path is never mistaken for a part of it. -/
theorem isBlank_eq_false_of_isPathChar {c : Char} (h : isPathChar c = true) : Text.isBlank c = false := by
  simp only [isPathChar, Bool.or_eq_true, decide_eq_true_eq] at h
  rcases h with ((alphanum | rfl) | rfl) | rfl
  · have range : (65 ≤ c.toNat ∧ c.toNat ≤ 90) ∨ (97 ≤ c.toNat ∧ c.toNat ≤ 122) ∨ (48 ≤ c.toNat ∧ c.toNat ≤ 57) := by
      have within {low high : Nat} (h : (decide (low ≤ c.toNat) && decide (c.toNat ≤ high)) = true) :
          low ≤ c.toNat ∧ c.toNat ≤ high := by simpa using h
      rcases Bool.or_eq_true_iff.1 alphanum with letter | digit
      · exact (Bool.or_eq_true_iff.1 letter).imp of_decide_eq_true fun small => .inl (within small)
      · exact .inr (.inr (within digit))
    simp [Text.isBlank]
    omega
  all_goals decide

/-- A run of characters that `p` accepts ends where `p` accepts no more. -/
theorem takeWhile_dropWhile_append {p : Char → Bool} {front : List Char} (run : ∀ c ∈ front, p c = true)
    (back : List Char) (stop : ∀ c, back.head? = some c → p c = false) :
    (front ++ back).takeWhile p = front ∧ (front ++ back).dropWhile p = back := by
  rw [List.takeWhile_append_of_pos run, List.dropWhile_append_of_pos run]
  cases back with
  | nil => simp
  | cons c back => simp [stop c rfl]

section

variable {cs path rest : List Char}

theorem exists_hole_of_hole? (found : hole? cs = some (path, rest)) : ∃ text, Hole path text ∧ cs = text ++ rest := by
  simp only [hole?, Option.bind_eq_bind, Option.bind_eq_some_iff] at found
  obtain ⟨inner, opened, found⟩ := found
  split at found
  · cases found
  · next named =>
    simp only [Option.pure_def, Option.bind_eq_some_iff, Option.some.injEq, Prod.mk.injEq] at found
    obtain ⟨rest', closed, rfl, rfl⟩ := found
    rw [Text.after?_eq_some_iff] at opened closed
    refine ⟨['\x7b', '\x7b'] ++ inner.takeWhile Text.isBlank ++ (Text.trimStart inner).takeWhile isPathChar ++
      ((Text.trimStart inner).dropWhile isPathChar).takeWhile Text.isBlank ++ ['\x7d', '\x7d'],
      ⟨fun e => named (List.isEmpty_iff.2 e), fun c => List.mem_takeWhile_imp,
        ⟨_, _, fun c => List.mem_takeWhile_imp, fun c => List.mem_takeWhile_imp, rfl⟩⟩, ?_⟩
    have start : inner.takeWhile Text.isBlank ++ Text.trimStart inner = inner := List.takeWhile_append_dropWhile
    have name : (Text.trimStart inner).takeWhile isPathChar ++ (Text.trimStart inner).dropWhile isPathChar =
      Text.trimStart inner := List.takeWhile_append_dropWhile
    have tail : ((Text.trimStart inner).dropWhile isPathChar).takeWhile Text.isBlank ++ (['\x7d', '\x7d'] ++ rest') =
      (Text.trimStart inner).dropWhile isPathChar := by rw [← closed]; exact List.takeWhile_append_dropWhile
    simp only [List.append_assoc, tail, name, start, opened]

theorem hole?_append {text : List Char} (hole : Hole path text) (rest : List Char) :
    hole? (text ++ rest) = some (path, rest) := by
  obtain ⟨before, after, blank, blank', rfl⟩ := hole.written
  obtain ⟨c, path', rfl⟩ := List.exists_cons_of_ne_nil hole.named
  -- each part of the hole ends where the next one begins
  have start := takeWhile_dropWhile_append blank (c :: path' ++ (after ++ ['\x7d', '\x7d'] ++ rest))
    (by simpa using isBlank_eq_false_of_isPathChar (hole.plain c (by simp)))
  have name := takeWhile_dropWhile_append hole.plain (after ++ ['\x7d', '\x7d'] ++ rest) fun d first => by
    cases after with
    | nil =>
      cases first
      rfl
    | cons a after =>
      cases first
      exact Bool.eq_false_iff.2 fun plain => by simp [isBlank_eq_false_of_isPathChar plain] at blank'
  have tail := takeWhile_dropWhile_append blank' (['\x7d', '\x7d'] ++ rest) (by simp; decide)
  have opened : Text.after? ['\x7b', '\x7b'] (['\x7b', '\x7b'] ++ before ++ (c :: path') ++ after ++
      ['\x7d', '\x7d'] ++ rest) = some (before ++ (c :: path' ++ (after ++ ['\x7d', '\x7d'] ++ rest))) :=
    Text.after?_eq_some_iff.2 (by simp)
  have closed : Text.after? ['\x7d', '\x7d'] (['\x7d', '\x7d'] ++ rest) = some rest :=
    Text.after?_eq_some_iff.2 rfl
  unfold hole? Text.trimStart
  rw [opened]
  simp only [Option.bind_eq_bind, Option.bind_some]
  rw [start.2, name.1, name.2, if_neg (by simp), List.append_assoc, tail.2, closed]
  rfl

/-- A text begins with at most one hole, and this is the one that is found. -/
theorem hole?_eq_some_iff : hole? cs = some (path, rest) ↔ ∃ text, Hole path text ∧ cs = text ++ rest := by
  constructor
  · exact exists_hole_of_hole?
  · rintro ⟨text, hole, rfl⟩
    exact hole?_append hole rest

end

/-! ### The holes of a text -/

/-- No hole begins anywhere in the text. -/
def Free (text : List Char) : Prop :=
  ∀ front path hole rest, Hole path hole → text ≠ front ++ hole ++ rest

/-- The first hole of a text: no other one has less text in front of it. -/
structure FirstHole (text plain path rest : List Char) : Prop where
  split : ∃ hole, Hole path hole ∧ text = plain ++ hole ++ rest
  leftmost : ∀ plain' path' hole' rest', Hole path' hole' → text = plain' ++ hole' ++ rest' →
    plain.length ≤ plain'.length

/-- A text is scanned from left to right: the text in front of the first hole, the path in this hole, and then what the
rest of the text is scanned into, up to the text behind the last hole. -/
inductive Scanned : List Char → List (List Char × List Char) → List Char → Prop
  | last {text : List Char} (free : Free text) : Scanned text [] text
  | next {text plain path rest last : List Char} {gaps : List (List Char × List Char)}
      (first : FirstHole text plain path rest) (more : Scanned rest gaps last) :
      Scanned text ((plain, path) :: gaps) last

/-- The pieces of a text that is scanned. -/
def pieces (gaps : List (List Char × List Char)) (last : List Char) : List Segment :=
  gaps.flatMap (fun g => g.1.map .char ++ [.hole g.2]) ++ last.map .char

section

variable {text plain path rest behind last : List Char} {c : Char} {gaps : List (List Char × List Char)}

theorem FirstHole.unique {plain' path' rest' : List Char} (h : FirstHole text plain path rest)
    (h' : FirstHole text plain' path' rest') : plain' = plain ∧ path' = path ∧ rest' = rest := by
  obtain ⟨⟨hole, made, split⟩, least⟩ := h
  obtain ⟨⟨hole', made', split'⟩, least'⟩ := h'
  -- neither of the two has less text in front of it than the other
  have long := Nat.le_antisymm (least _ _ _ _ made' split') (least' _ _ _ _ made split)
  rw [split, List.append_assoc, List.append_assoc] at split'
  obtain ⟨rfl, same⟩ := List.append_inj split' long
  have found := hole?_append made rest
  rw [same, hole?_append made' rest'] at found
  cases found
  exact ⟨rfl, rfl, rfl⟩

theorem FirstHole.not_free (first : FirstHole text plain path rest) : ¬Free text := by
  obtain ⟨hole, made, split⟩ := first.split
  exact fun free => free _ _ _ _ made split

theorem Scanned.unique {gaps' : List (List Char × List Char)} {last' : List Char} (h : Scanned text gaps last)
    (h' : Scanned text gaps' last') : gaps' = gaps ∧ last' = last := by
  induction h generalizing gaps' with
  | last free =>
    cases h' with
    | last _ => exact ⟨rfl, rfl⟩
    | next first _ => exact absurd free first.not_free
  | next first _ ih =>
    cases h' with
    | last free => exact absurd free first.not_free
    | next first' more =>
      obtain ⟨rfl, rfl, rfl⟩ := first.unique first'
      obtain ⟨rfl, rfl⟩ := ih more
      exact ⟨rfl, rfl⟩

/-- A hole of a text that does not begin with one stands behind the first character. -/
theorem split_of_hole?_eq_none (none : hole? (c :: rest) = none) {front hole : List Char} (made : Hole path hole)
    (split : c :: rest = front ++ hole ++ behind) : ∃ front', front = c :: front' ∧ rest = front' ++ hole ++ behind := by
  cases front with
  | nil =>
    rw [List.nil_append] at split
    rw [split, hole?_append made] at none
    cases none
  | cons d front' =>
    obtain ⟨rfl, further⟩ := List.cons.inj split
    exact ⟨front', rfl, further⟩

theorem Hole.ne_nil {path text : List Char} (hole : Hole path text) : text ≠ [] := by
  obtain ⟨before, after, -, -, rfl⟩ := hole.written
  simp

theorem free_nil : Free [] := by
  intro front path hole rest made split
  have none := List.append_eq_nil_iff.1 (List.append_eq_nil_iff.1 split.symm).1
  exact made.ne_nil none.2

theorem Free.cons (none : hole? (c :: rest) = none) (free : Free rest) : Free (c :: rest) := by
  intro front path hole behind made split
  obtain ⟨front', -, further⟩ := split_of_hole?_eq_none none made split
  exact free front' path hole behind made further

theorem FirstHole.cons (none : hole? (c :: rest) = none) (first : FirstHole rest plain path behind) :
    FirstHole (c :: rest) (c :: plain) path behind := by
  obtain ⟨⟨hole, made, split⟩, least⟩ := first
  refine ⟨⟨hole, made, by rw [split]; rfl⟩, fun plain' path' hole' rest' made' split' => ?_⟩
  obtain ⟨front', rfl, further⟩ := split_of_hole?_eq_none none made' split'
  exact Nat.succ_le_succ (least front' path' hole' rest' made' further)

theorem firstHole_of_hole? (found : hole? text = some (path, rest)) : FirstHole text [] path rest where
  split := hole?_eq_some_iff.1 found
  leftmost _ _ _ _ _ _ := Nat.zero_le _

end

theorem segments_of_hole? {cs path rest : List Char} (found : hole? cs = some (path, rest)) :
    segments cs = .hole path :: segments rest := by
  obtain ⟨text, hole, rfl⟩ := hole?_eq_some_iff.1 found
  obtain ⟨c, more, same⟩ := List.exists_cons_of_ne_nil (List.append_ne_nil_of_left_ne_nil hole.ne_nil rest)
  rw [same] at found ⊢
  rw [segments]
  split
  · next found' =>
    cases found.symm.trans found'
    rfl
  · next none => cases none.symm.trans found

theorem segments_cons {c : Char} {rest : List Char} (none : hole? (c :: rest) = none) :
    segments (c :: rest) = .char c :: segments rest := by
  rw [segments]
  split
  · next found => cases none.symm.trans found
  · rfl

/-- **The pieces of a part are what is scanned**, by induction along the holes that are found. -/
theorem exists_scanned (text : List Char) : ∃ gaps last, Scanned text gaps last ∧ segments text = pieces gaps last := by
  induction text using segments.induct with
  | case1 => exact ⟨[], [], .last free_nil, by rw [segments]; rfl⟩
  | case2 c rest path behind found ih =>
    obtain ⟨gaps, last, scanned, same⟩ := ih
    refine ⟨([], path) :: gaps, last, .next (firstHole_of_hole? found) scanned, ?_⟩
    rw [segments_of_hole? found, same]
    rfl
  | case3 c rest none ih =>
    obtain ⟨gaps, last, scanned, same⟩ := ih
    rw [segments_cons none, same]
    cases scanned with
    | last free => exact ⟨[], c :: rest, .last (free.cons none), rfl⟩
    | next first more => exact ⟨_ :: _, last, .next (first.cons none) more, rfl⟩

/-! ### Values at a path -/

/-- Fields with these names, each inside the value of the one in front, lead to a value. Where an object has several
fields of a name, the first one counts; nothing but an object has fields. -/
inductive Leads : Value → List String → Value → Prop
  | here (v : Value) : Leads v [] v
  | field {front back : List (String × Value)} {name : String} {v w : Value} {names : List String}
      (first : ∀ f ∈ front, f.1 ≠ name) (on : Leads v names w) :
      Leads (.object (front ++ (name, v) :: back)) (name :: names) w

/-- The value at a path, whose names stand between dots. -/
def ValueAt (data : Value) (path : List Char) (v : Value) : Prop :=
  Leads data ((path.splitOn '.').map String.ofList) v

/-- No value is at the path, or null is. -/
def Missing (data : Value) (path : List Char) : Prop :=
  ∀ v, ValueAt data path v → v = .null

/-- How a value is written into a hole: a text as it is, anything else but null as compact JSON. -/
inductive Shown : Value → List Char → Prop
  | text (s : String) : Shown (.text s) s.toList
  | json {v : Value} (some : v ≠ .null) (other : ∀ s, v ≠ .text s) : Shown v v.render.toList

theorem field?_eq_some_iff {data v : Value} {name : String} :
    data.field? name = some v ↔
      ∃ front back, data = .object (front ++ (name, v) :: back) ∧ ∀ f ∈ front, f.1 ≠ name := by
  cases data with
  | object fields =>
    simp only [Value.field?, Option.map_eq_some_iff, List.find?_eq_some_iff_append]
    constructor
    · rintro ⟨f, ⟨same, front, back, rfl, first⟩, rfl⟩
      obtain rfl := eq_of_beq same
      exact ⟨front, back, rfl, by simpa using first⟩
    · rintro ⟨front, back, e, first⟩
      cases e
      exact ⟨(name, v), ⟨BEq.rfl, front, back, rfl, by simpa using first⟩, rfl⟩
  | _ => simp [Value.field?]

theorem foldlM_field?_eq_some_iff {names : List String} {data v : Value} :
    names.foldlM (fun value name => value.field? name) data = some v ↔ Leads data names v := by
  induction names generalizing data with
  | nil =>
    constructor
    · rintro ⟨⟩
      exact .here _
    · rintro ⟨⟩
      rfl
  | cons name names ih =>
    simp only [List.foldlM_cons, Option.bind_eq_bind, Option.bind_eq_some_iff, field?_eq_some_iff, ih]
    constructor
    · rintro ⟨w, ⟨front, back, rfl, first⟩, on⟩
      exact .field first on
    · rintro (_ | ⟨first, on⟩)
      exact ⟨_, ⟨_, _, rfl, first⟩, on⟩

section

variable {data v : Value} {path text : List Char}

theorem lookup?_eq_some_iff : lookup? data path = some v ↔ ValueAt data path v := by
  rw [ValueAt, ← foldlM_field?_eq_some_iff, List.foldlM_map]
  rfl

theorem holeText?_of_lookup? (found : lookup? data path = some v) : holeText? data path = some text ↔ Shown v text := by
  unfold holeText?
  rw [found]
  cases v with
  | null =>
    refine iff_of_false nofun fun shown => ?_
    cases shown with
    | json some _ => exact some rfl
  | text s =>
    constructor
    · rintro ⟨⟩
      exact .text s
    · rintro (_ | ⟨-, other⟩)
      · rfl
      · exact absurd rfl (other s)
  | _ =>
    rw [Option.some_inj]
    constructor
    · rintro rfl
      rw [← String.toList_ofList (l := Json.Tree.chars _)]
      exact .json nofun nofun
    · rintro (_ | _)
      exact String.toList_ofList.symm

/-- What is put into a hole is the value at its path as it is written. -/
theorem holeText?_eq_some_iff : holeText? data path = some text ↔ ∃ v, ValueAt data path v ∧ Shown v text := by
  simp only [← lookup?_eq_some_iff]
  cases found : lookup? data path with
  | none => simp [holeText?, found]
  | some v => simp [holeText?_of_lookup? found]

theorem holeText?_eq_none_iff : holeText? data path = none ↔ Missing data path := by
  simp only [Missing, ← lookup?_eq_some_iff, holeText?]
  cases found : lookup? data path with
  | none => simp
  | some v => cases v <;> simp

end

/-! ### Filling the pieces -/

theorem fill_chars (data : Value) (plain : List Char) (more : List Segment) :
    fill data (plain.map .char ++ more) = (fill data more).map (plain ++ ·) := by
  induction plain with
  | nil => cases h : fill data more <;> simp [h, Except.map]
  | cons c plain ih =>
    rw [List.map_cons, List.cons_append, fill, ih]
    cases fill data more <;> rfl

/-- **The pieces are filled at once**, or the first hole is told that has no value. -/
theorem fill_pieces (data : Value) (gaps : List (List Char × List Char)) (last : List Char) :
    fill data (pieces gaps last) = match gaps.find? fun g => (holeText? data g.2).isNone with
      | some g => .error (.ofList g.2)
      | none => .ok (gaps.flatMap (fun g => g.1 ++ (holeText? data g.2).getD []) ++ last) := by
  induction gaps with
  | nil =>
    have chars := fill_chars data last []
    simpa [pieces, fill, Except.map] using chars
  | cons g gaps ih =>
    obtain ⟨plain, path⟩ := g
    have split : pieces ((plain, path) :: gaps) last = plain.map .char ++ .hole path :: pieces gaps last := by
      simp [pieces]
    rw [split, fill_chars, fill, ih, List.find?_cons]
    cases found : holeText? data path with
    | none => rfl
    | some text =>
      cases gaps.find? fun g => (holeText? data g.2).isNone with
      | none => simp [found, Except.map]
      | some g => rfl

theorem fill_pieces_eq_error_iff {data : Value} {gaps : List (List Char × List Char)} {last : List Char} {e : String} :
    fill data (pieces gaps last) = .error e ↔ ∃ before plain path after, gaps = before ++ (plain, path) :: after ∧
      (∀ g ∈ before, ¬Missing data g.2) ∧ Missing data path ∧ e = .ofList path := by
  have none (path : List Char) : (holeText? data path).isNone = true ↔ Missing data path := by
    rw [Option.isNone_iff_eq_none, holeText?_eq_none_iff]
  have some (path : List Char) : (!(holeText? data path).isNone) = true ↔ ¬Missing data path := by
    rw [← none, Bool.not_eq_true', Bool.not_eq_true]
  have told : fill data (pieces gaps last) = .error e ↔
      ∃ g, gaps.find? (fun g => (holeText? data g.2).isNone) = .some g ∧ e = .ofList g.2 := by
    rw [fill_pieces]
    split
    · next g found => simp [found, eq_comm]
    · next found => simp [found]
  rw [told]
  constructor
  · rintro ⟨⟨plain, path⟩, found, rfl⟩
    obtain ⟨missing, before, after, rfl, first⟩ := List.find?_eq_some_iff_append.1 found
    exact ⟨before, plain, path, after, rfl, fun g hg => (some g.2).1 (first g hg), (none path).1 missing, rfl⟩
  · rintro ⟨before, plain, path, after, rfl, first, missing, rfl⟩
    refine ⟨(plain, path), List.find?_eq_some_iff_append.2 ⟨(none path).2 missing, before, after, rfl, ?_⟩, rfl⟩
    exact fun g hg => (some g.2).2 (first g hg)

theorem fill_pieces_eq_ok_iff {data : Value} {gaps : List (List Char × List Char)} {last text : List Char} :
    fill data (pieces gaps last) = .ok text ↔ ∃ put : List Char → List Char,
      (∀ g ∈ gaps, ∃ v, ValueAt data g.2 v ∧ Shown v (put g.2)) ∧
        text = gaps.flatMap (fun g => g.1 ++ put g.2) ++ last := by
  simp only [← holeText?_eq_some_iff]
  rw [fill_pieces]
  cases found : gaps.find? fun g => (holeText? data g.2).isNone with
  | none =>
    have filled : ∀ g ∈ gaps, ∃ t, holeText? data g.2 = some t := by
      simpa [Option.isSome_iff_exists, ← Option.ne_none_iff_isSome, Option.ne_none_iff_exists'] using found
    constructor
    · rintro ⟨⟩
      refine ⟨fun path => (holeText? data path).getD [], fun g hg => ?_, rfl⟩
      obtain ⟨t, filled⟩ := filled g hg
      simp [filled]
    · rintro ⟨put, shown, rfl⟩
      have same : gaps.flatMap (fun g => g.1 ++ (holeText? data g.2).getD []) =
          gaps.flatMap (fun g => g.1 ++ put g.2) :=
        List.flatMap_congr fun g hg => by rw [shown g hg, Option.getD_some]
      rw [same]
  | some g =>
    refine iff_of_false nofun ?_
    rintro ⟨put, shown, -⟩
    have missing := List.find?_some found
    simp [shown g (List.mem_of_find?_eq_some found)] at missing

theorem filled_eq_error_iff {part : String} {data : Value} {e : MailError} : Template.filled part data = .error e ↔
    ∃ path, fill data (segments part.toList) = .error path ∧ e = .attributeMissing path := by
  unfold Template.filled substitute
  cases fill data (segments part.toList) with
  | ok cs => simp [Except.map, Except.mapError]
  | error path => simp [Except.map, Except.mapError, eq_comm]

theorem filled_eq_ok_iff {part text : String} {data : Value} : Template.filled part data = .ok text ↔
    ∃ cs, fill data (segments part.toList) = .ok cs ∧ text = .ofList cs := by
  unfold Template.filled substitute
  cases fill data (segments part.toList) with
  | ok cs => simp [Except.map, Except.mapError, eq_comm]
  | error path => simp [Except.map, Except.mapError]

/-- **A part is filled in one pass.** A part is scanned in one way only, whatever the data are. It cannot be filled
exactly if the path in some hole has no value, or null, and the first such path is told; else the value at the path
stands in place of every hole, and all other text is as it was. -/
theorem filled_single_pass (part : String) (data : Value) :
    ∃ gaps last, (∀ gaps' last', Scanned part.toList gaps' last' ↔ gaps' = gaps ∧ last' = last) ∧
      (∀ e, Template.filled part data = .error e ↔ ∃ before plain path after,
        gaps = before ++ (plain, path) :: after ∧ (∀ g ∈ before, ¬Missing data g.2) ∧ Missing data path ∧
          e = .attributeMissing (.ofList path)) ∧
      ∀ text, Template.filled part data = .ok text ↔ ∃ put : List Char → List Char,
        (∀ g ∈ gaps, ∃ v, ValueAt data g.2 v ∧ Shown v (put g.2)) ∧
          text = .ofList (gaps.flatMap (fun g => g.1 ++ put g.2) ++ last) := by
  obtain ⟨gaps, last, scanned, same⟩ := exists_scanned part.toList
  refine ⟨gaps, last, fun gaps' last' => ⟨fun h => scanned.unique h, ?_⟩, fun e => ?_, fun text => ?_⟩
  · rintro ⟨rfl, rfl⟩
    exact scanned
  · rw [filled_eq_error_iff, same]
    simp only [fill_pieces_eq_error_iff]
    constructor
    · rintro ⟨_, ⟨before, plain, path, after, split, first, missing, rfl⟩, rfl⟩
      exact ⟨before, plain, path, after, split, first, missing, rfl⟩
    · rintro ⟨before, plain, path, after, split, first, missing, rfl⟩
      exact ⟨_, ⟨before, plain, path, after, split, first, missing, rfl⟩, rfl⟩
  · rw [filled_eq_ok_iff, same]
    simp only [fill_pieces_eq_ok_iff]
    constructor
    · rintro ⟨_, ⟨put, shown, rfl⟩, rfl⟩
      exact ⟨put, shown, rfl⟩
    · rintro ⟨put, shown, rfl⟩
      exact ⟨_, ⟨put, shown, rfl⟩, rfl⟩

/-- A brace too many stays in front, and what is put in is not filled again. -/
example : Template.filled "\x7b\x7b\x7bname\x7d\x7d!" (.object [("name", .text "\x7b\x7bname\x7d\x7d")]) =
    .ok "\x7b\x7b\x7bname\x7d\x7d!" := by
  decide +kernel

end MockCloud.Mail
