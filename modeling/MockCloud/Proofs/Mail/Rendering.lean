import MockCloud.Ident
import MockCloud.Proofs.Json.Value
import MockCloud.Proofs.Mail.Filling
import MockCloud.Proofs.Mail.HeaderLines

/-! # The headers of rendered messages

A template is rendered into a message with four headers of its own. What is put into its subject becomes part of the
header block: a text is put in as it is, and if it has further lines, these are read as headers, and an empty one ends
the block. Every other value is put in as JSON, which is written in one line.

* `furtherNames`: the names of the headers that begin in the further lines of a subject.
* `map_fst_headers_compose`: the names of all headers of a message.
* `newline_not_mem_toTree`, `newline_not_mem_substitute`: a filled part is one line if the part is one and all texts are.
* `Template.ownHeaders_iff`: when a rendered message has no headers but its own. -/

namespace MockCloud

/-! ### Values are written in one line -/

theorem newline_not_mem_toDigits (n : Nat) : '\n' ∉ Nat.toDigits 10 n :=
  fun inside => absurd (Text.isDigit_toDigits n _ inside) (by decide)

theorem newline_not_mem_zeros (k : Nat) : '\n' ∉ List.replicate k '0' :=
  fun inside => absurd (List.eq_of_mem_replicate inside) (by decide)

theorem digitChar_ne_newline : ∀ n < 16, Nat.digitChar n ≠ '\n' := by decide

namespace Json

theorem Numeral.newline_not_mem_chars {n : Numeral} (whole : '\n' ∉ n.whole)
    (fraction : ∀ f, n.fraction = some f → '\n' ∉ f) (exponent : ∀ e, n.exponent = some e → '\n' ∉ e.2) :
    '\n' ∉ n.chars := by
  obtain ⟨negative, ds, fractional, exponential⟩ := n
  have sign : ∀ b : Bool, '\n' ∉ if b then ['-'] else [] := by decide
  unfold chars
  simp only [List.mem_append, not_or]
  refine ⟨⟨⟨sign negative, whole⟩, ?_⟩, ?_⟩
  · cases fractional with
    | none => exact List.not_mem_nil
    | some f => simpa using fraction f rfl
  · cases exponential with
    | none => exact List.not_mem_nil
    | some e =>
      obtain ⟨down, es⟩ := e
      cases down <;> simpa using exponent _ rfl

theorem Number.newline_not_mem_numeral (n : Number) : '\n' ∉ n.numeral.chars := by
  cases n with
  | int n => exact Numeral.newline_not_mem_chars (newline_not_mem_toDigits _) nofun nofun
  | float x =>
    unfold numeral Numeral.ofFloat
    dsimp only
    generalize (Decimal.Interval.ofBits _).shortest = decimal
    obtain ⟨d, k⟩ := decimal
    dsimp only
    have digits := newline_not_mem_toDigits d
    generalize Nat.toDigits 10 d = ds at digits
    split_ifs
    · exact Numeral.newline_not_mem_chars (by simp) (by simp) nofun
    · refine Numeral.newline_not_mem_chars (fun h => ?_) (by simp) nofun
      exact (List.mem_append.1 (List.mem_of_mem_take h)).elim digits (newline_not_mem_zeros _)
    · refine Numeral.newline_not_mem_chars (fun h => ?_) ?_ nofun
      · exact (List.mem_append.1 (List.mem_of_mem_take h)).elim digits (newline_not_mem_zeros _)
      · rintro _ ⟨⟩ h
        exact (List.mem_append.1 (List.mem_of_mem_drop h)).elim digits (newline_not_mem_zeros _)
    · refine Numeral.newline_not_mem_chars (by simp) ?_ nofun
      rintro _ ⟨⟩ h
      exact (List.mem_append.1 h).elim (newline_not_mem_zeros _) digits
    · refine Numeral.newline_not_mem_chars (fun h => digits (List.mem_of_mem_take h)) nofun ?_
      rintro _ ⟨⟩
      exact newline_not_mem_toDigits _
    · refine Numeral.newline_not_mem_chars (fun h => digits (List.mem_of_mem_take h)) ?_ ?_
      · rintro _ ⟨⟩ h
        exact digits (List.mem_of_mem_drop h)
      · rintro _ ⟨⟩
        exact newline_not_mem_toDigits _

theorem newline_not_mem_quoted (s : String) : '\n' ∉ quoted s := by
  have each : ∀ c, '\n' ∉ escaped c := by
    intro c
    unfold escaped
    repeat' split
    any_goals decide
    · next low =>
      have high := digitChar_ne_newline (c.toNat / 16) (by omega)
      have rest := digitChar_ne_newline (c.toNat % 16) (by omega)
      simp [high.symm, rest.symm]
    · next feed _ _ _ _ _ => simpa using Ne.symm feed
  simp [quoted, each]

mutual

/-- A value is written in one line. -/
theorem Value.newline_not_mem_toTree : (v : Value) → '\n' ∉ v.toTree.chars
  | .null => by decide
  | .bool true => by decide
  | .bool false => by decide
  | .number n => n.newline_not_mem_numeral
  | .text s => newline_not_mem_quoted s
  | .list items => by
    have inside := newline_not_mem_treesOfItems items
    simpa [Value.toTree, Tree.chars] using inside
  | .object fields => by
    have inside := newline_not_mem_treesOfFields fields
    simpa [Value.toTree, Tree.chars] using inside

theorem newline_not_mem_treesOfItems : (items : List Value) → '\n' ∉ itemChars (treesOfItems items)
  | [] => List.not_mem_nil
  | [v] => v.newline_not_mem_toTree
  | v :: w :: rest => by
    have first := v.newline_not_mem_toTree
    have others := newline_not_mem_treesOfItems (w :: rest)
    rw [treesOfItems] at others
    simp [treesOfItems, itemChars, first, others]

theorem newline_not_mem_treesOfFields : (fields : List (String × Value)) → '\n' ∉ fieldChars (treesOfFields fields)
  | [] => List.not_mem_nil
  | [(k, v)] => by
    have name := newline_not_mem_quoted k
    have value := v.newline_not_mem_toTree
    simp [treesOfFields, fieldChars, name, value]
  | (k, v) :: (k', w) :: rest => by
    have name := newline_not_mem_quoted k
    have value := v.newline_not_mem_toTree
    have others := newline_not_mem_treesOfFields ((k', w) :: rest)
    rw [treesOfFields] at others
    simp [treesOfFields, fieldChars, name, value, others]

end

end Json

namespace Mail

open Json (Value)

/-! ### Filled parts -/

/-- The characters that stand for themselves are characters of the part. -/
theorem mem_of_char_mem_segments {c : Char} {part : List Char} (h : .char c ∈ segments part) : c ∈ part := by
  induction part using segments.induct with
  | case1 =>
    rw [segments] at h
    cases h
  | case2 d rest path behind found ih =>
    obtain ⟨hole, -, split⟩ := hole?_eq_some_iff.1 found
    rw [segments_of_hole? found] at h
    rw [split]
    exact List.mem_append_right _ (ih (by simpa using h))
  | case3 d rest none ih =>
    rw [segments_cons none] at h
    rcases List.mem_cons.1 h with ⟨⟨⟩⟩ | h
    · exact List.mem_cons_self
    · exact List.mem_cons_of_mem _ (ih h)

/-- What is put into a hole is written in one line, unless it is a text with further lines. -/
theorem newline_not_mem_holeText {value : Value} {path text : List Char} (put : holeText? value path = some text)
    (one : ∀ s, lookup? value path = some (.text s) → '\n' ∉ s.toList) : '\n' ∉ text := by
  unfold holeText? at put
  split at put
  · next s found =>
    cases put
    exact one s found
  · cases put
  · cases put
  · cases put
    exact Value.newline_not_mem_toTree _

/-- The pieces put together, by induction on the pieces. -/
theorem newline_not_mem_fill {value : Value} {pieces : List Segment} {text : List Char}
    (filled : fill value pieces = .ok text) (plain : .char '\n' ∉ pieces)
    (one : ∀ path s, .hole path ∈ pieces → lookup? value path = some (.text s) → '\n' ∉ s.toList) : '\n' ∉ text := by
  induction pieces generalizing text with
  | nil =>
    cases filled
    exact List.not_mem_nil
  | cons piece pieces ih =>
    rw [List.mem_cons, not_or] at plain
    have later {rest : List Char} (h : fill value pieces = .ok rest) : '\n' ∉ rest :=
      ih h plain.2 fun path s inside => one path s (List.mem_cons_of_mem _ inside)
    cases piece with
    | char c =>
      rw [fill] at filled
      cases h : fill value pieces with
      | error e => rw [h] at filled; cases filled
      | ok rest =>
        rw [h] at filled
        cases filled
        have other : '\n' ≠ c := fun same => plain.1 (same ▸ rfl)
        simp [other, later h]
    | hole path =>
      rw [fill] at filled
      split at filled
      · cases filled
      · next put =>
        cases h : fill value pieces with
        | error e => rw [h] at filled; cases filled
        | ok rest =>
          rw [h] at filled
          cases filled
          have piece := newline_not_mem_holeText put fun s found => one path s List.mem_cons_self found
          simp [piece, later h]

/-- **A filled part is one line** if the part is one, and all texts that are put into it are. -/
theorem newline_not_mem_substitute {part filled : String} {value : Value} (done : substitute part value = .ok filled)
    (plain : '\n' ∉ part.toList)
    (one : ∀ path s, .hole path ∈ segments part.toList → lookup? value path = some (.text s) → '\n' ∉ s.toList) :
    '\n' ∉ filled.toList := by
  unfold substitute at done
  cases h : fill value (segments part.toList) with
  | error path => rw [h] at done; cases done
  | ok text =>
    rw [h] at done
    cases done
    rw [String.toList_ofList]
    exact newline_not_mem_fill h (fun inside => plain (mem_of_char_mem_segments inside)) one

/-! ### The header block of a message -/

theorem newline_not_mem_padded (width n : Nat) : '\n' ∉ (Text.padded width n).toList := by
  rw [Text.padded, String.toList_ofList]
  exact List.not_mem_append (newline_not_mem_zeros _) (newline_not_mem_toDigits n)

theorem newline_not_mem_iso8601 (time : Instant) : '\n' ∉ time.iso8601.toList := by
  have year (year : Int) : '\n' ∉ (Instant.yearText year).toList := by
    unfold Instant.yearText
    split_ifs <;> simp [newline_not_mem_padded]
  simp [Instant.iso8601, year, newline_not_mem_padded]

theorem newline_not_mem_boundary (length : Nat) (draws : Draws) :
    '\n' ∉ (Template.boundary (Ident.hex length draws)).toList := by
  have digits : '\n' ∉ (Ident.hex length draws).toList := by
    rw [Ident.hex, Ident.text, String.toList_ofList]
    intro inside
    obtain ⟨k, -, same⟩ := List.mem_map.1 inside
    exact digitChar_ne_newline _ (Nat.mod_lt _ (by decide)) same
  change '\n' ∉ ("===============" ++ Ident.hex length draws ++ "==").toList
  rw [String.toList_append, String.toList_append]
  exact List.not_mem_append (List.not_mem_append (by decide +kernel) digits) (by decide +kernel)

/-- The names of the headers that begin in the further lines of a subject. -/
def furtherNames (subject : List Char) : List (List Char) :=
  blockNames (textLines subject).tail

/-- The lines of a message up to the first empty line of its own. -/
theorem exists_textLines_compose {date boundary : String} (dated : '\n' ∉ date.toList)
    (bounded : '\n' ∉ boundary.toList) (subject text html : String) :
    ∃ date' first type version rest, textLines (Template.compose date boundary subject text html).toList =
      withoutReturns ("Date".toList ++ ':' :: date') :: withoutReturns ("Subject".toList ++ ':' :: first) ::
        ((textLines subject.toList).tail ++ withoutReturns ("Content-Type".toList ++ ':' :: type) ::
          withoutReturns ("MIME-Version".toList ++ ':' :: version) :: [] :: rest) := by
  obtain ⟨first, subjectLines⟩ := exists_textLines_append (show '\n' ∉ "Subject: ".toList by decide) subject.toList
  obtain ⟨rest, lines⟩ : ∃ rest, textLines (Template.compose date boundary subject text html).toList =
      textLines ("Date: " ++ date).toList ++ (textLines ("Subject: " ++ subject).toList ++
        (textLines ("Content-Type: multipart/alternative; boundary=\"" ++ boundary ++ "\"").toList ++
          (textLines "MIME-Version: 1.0".toList ++ (textLines [] ++ rest)))) := by
    unfold Template.compose
    rw [String.toList_intercalate]
    exact ⟨_, textLines_intercalate textLines_append_crlf nofun⟩
  have dateLine : '\n' ∉ "Date: ".toList ++ date.toList := List.not_mem_append (by decide) dated
  have typeLine : '\n' ∉ "Content-Type: multipart/alternative; boundary=\"".toList ++ boundary.toList ++ "\"".toList :=
    List.not_mem_append (List.not_mem_append (by decide +kernel) bounded) (by decide +kernel)
  have versionLine : '\n' ∉ "MIME-Version: 1.0".toList := by decide +kernel
  refine ⟨' ' :: date.toList, ' ' :: first,
    " multipart/alternative; boundary=\"".toList ++ boundary.toList ++ "\"".toList, " 1.0".toList, rest, lines.trans ?_⟩
  simp only [String.toList_append] at subjectLines ⊢
  rw [subjectLines, textLines_of_line dateLine, textLines_of_line typeLine, textLines_of_line versionLine]
  rfl

/-- **The names of all headers of a message**: its own first two, those of the further lines of the subject and, unless
one of these lines is empty, its own last two. -/
theorem map_fst_headers_compose {date boundary : String} (dated : '\n' ∉ date.toList)
    (bounded : '\n' ∉ boundary.toList) (subject text html : String) :
    (headers (Template.compose date boundary subject text html).toList).map Prod.fst =
      "date".toList :: "subject".toList :: (furtherNames subject.toList ++
        if ∀ line ∈ (textLines subject.toList).tail, line ≠ [] then ["content-type".toList, "mime-version".toList]
        else []) := by
  obtain ⟨date', first, type, version, rest, lines⟩ := exists_textLines_compose dated bounded subject text html
  rw [map_fst_headers, lines, blockNames_cons (by decide) (by decide) (by decide),
    blockNames_cons (by decide) (by decide) (by decide), blockNames_append,
    blockNames_cons (by decide) (by decide) (by decide), blockNames_cons (by decide) (by decide) (by decide),
    blockNames_nil_cons]
  rfl

/-! ### Rendered messages -/

/-- The names of the headers that a message has of its own. -/
def ownNames : List (List Char) :=
  ["date", "subject", "content-type", "mime-version"].map String.toList

/-- A message is from nobody and for nobody, and has no headers but its own. -/
structure OwnHeaders (raw : String) : Prop where
  unaddressed : parseHeaders raw = ⟨none, []⟩
  own : ∀ header ∈ headers raw.toList, header.1 ∈ ownNames

theorem ownHeaders_iff_names {raw : String} :
    OwnHeaders raw ↔ ∀ name ∈ (headers raw.toList).map Prod.fst, name ∈ ownNames := by
  rw [List.forall_mem_map]
  have others : ∀ name ∈ ownNames, name ∉ mailboxNames := by decide
  exact ⟨OwnHeaders.own, fun own => ⟨parseHeaders_of_others fun header there => others _ (own header there), own⟩⟩

theorem ownHeaders_compose_iff {date boundary : String} (dated : '\n' ∉ date.toList) (bounded : '\n' ∉ boundary.toList)
    (subject text html : String) :
    OwnHeaders (Template.compose date boundary subject text html) ↔
      ∀ name ∈ furtherNames subject.toList, name ∈ ownNames := by
  have first : "date".toList ∈ ownNames ∧ "subject".toList ∈ ownNames := by decide
  have last : ∀ name ∈ ["content-type".toList, "mime-version".toList], name ∈ ownNames := by decide
  rw [ownHeaders_iff_names, map_fst_headers_compose dated bounded]
  simp only [List.forall_mem_cons, List.forall_mem_append, first, true_and]
  refine and_iff_left ?_
  split
  · exact last
  · exact List.forall_mem_nil _

/-- A subject of one line has no further lines. -/
theorem furtherNames_of_line {subject : List Char} (one : '\n' ∉ subject) : furtherNames subject = [] := by
  rw [furtherNames, textLines_of_line one]
  rfl

namespace Template

theorem render_eq_ok {t : Template} {data stem raw : String} {time : Instant} (done : t.render data stem time = .ok raw) :
    ∃ value subject text html, Value.parse? data = some value ∧ substitute t.subject value = .ok subject ∧
      raw = compose time.iso8601 (boundary stem) subject text html := by
  have part {text filled : String} {value : Value} (h : Template.filled text value = .ok filled) :
      substitute text value = .ok filled := by
    unfold Template.filled at h
    cases put : substitute text value with
    | error path => rw [put] at h; cases h
    | ok filled' => rw [put] at h; exact congrArg Except.ok (Except.ok.inj h)
  unfold render at done
  cases parsed : Value.parse? data with
  | none => rw [parsed] at done; cases done
  | some value =>
    rw [parsed] at done
    dsimp only [bind, Except.bind] at done
    split at done
    · cases done
    · next subject filledSubject =>
      split at done
      · cases done
      · next text filledText =>
        split at done
        · cases done
        · next html filledHtml =>
          exact ⟨value, subject, text, html, rfl, part filledSubject, (Except.ok.inj done).symm⟩

/-- **The headers of a rendered message.** When a template is rendered, the subject is filled with the values of the data.
The message is from nobody and for nobody and has no headers but its own just if the further lines of the filled subject
begin no other headers; in particular if the template's subject and all texts put into it have no line feeds. -/
theorem ownHeaders_iff (t : Template) (data raw : String) (draws : Draws) (time : Instant)
    (done : t.render data (Ident.hex 19 draws) time = .ok raw) :
    ∃ value subject, Value.parse? data = some value ∧ substitute t.subject value = .ok subject ∧
      (OwnHeaders raw ↔ ∀ name ∈ furtherNames subject.toList, name ∈ ownNames) ∧
      ('\n' ∉ t.subject.toList →
        (∀ path s, .hole path ∈ segments t.subject.toList → lookup? value path = some (.text s) → '\n' ∉ s.toList) →
        OwnHeaders raw) := by
  obtain ⟨value, subject, text, html, parsed, filled, rfl⟩ := render_eq_ok done
  have own := ownHeaders_compose_iff (newline_not_mem_iso8601 time) (newline_not_mem_boundary 19 draws) subject text html
  refine ⟨value, subject, parsed, filled, own, fun plain one => own.2 ?_⟩
  rw [furtherNames_of_line (newline_not_mem_substitute filled plain one)]
  exact List.forall_mem_nil _

/-! ### A greeting -/

/-- A template that greets somebody in its subject. -/
def greeting : Template :=
  { name := "greeting", subject := "Hi \x7b\x7bname\x7d\x7d", text := none, html := none, created := ⟨0, 0⟩ }

theorem segments_greeting :
    segments greeting.subject.toList = [.char 'H', .char 'i', .char ' ', .hole "name".toList] := by
  decide +kernel

/-- Data with a name. -/
def named (name : String) : Value :=
  .ofFields [("name", .text name)]

theorem parse?_named (name : String) : Value.parse? (named name).render = some (named name) :=
  Value.parse?_render (.ofFields (List.forall_mem_singleton.2 (.text name)))

/-- The message that greets somebody. -/
def greetingTo (name : String) : String :=
  compose (⟨0, 0⟩ : Instant).iso8601 (boundary (Ident.hex 19 fun _ => 0)) ("Hi " ++ name) "" ""

theorem render_greeting (name : String) :
    greeting.render (named name).render (Ident.hex 19 fun _ => 0) ⟨0, 0⟩ = .ok (greetingTo name) := by
  have subject : filled greeting.subject (named name) = .ok ("Hi " ++ name) := by
    have text : String.ofList ('H' :: 'i' :: ' ' :: (name.toList ++ [])) = "Hi " ++ name :=
      String.toList_inj.1 (by simp)
    unfold filled substitute
    rw [segments_greeting, ← text]
    rfl
  have missing : filled "" (named name) = .ok "" := by
    have none : segments "".toList = [] := by decide +kernel
    unfold filled substitute
    rw [none]
    rfl
  unfold render
  rw [parse?_named]
  dsimp only [bind, Except.bind]
  rw [subject, show greeting.text.getD "" = "" from rfl, show greeting.html.getD "" = "" from rfl, missing]
  rfl

theorem ownHeaders_greeting :
    greeting.render (named "Ann").render (Ident.hex 19 fun _ => 0) ⟨0, 0⟩ = .ok (greetingTo "Ann") ∧
      OwnHeaders (greetingTo "Ann") := by
  have done := render_greeting "Ann"
  obtain ⟨value, subject, parsed, -, -, own⟩ := ownHeaders_iff greeting _ _ _ _ done
  cases (parse?_named "Ann").symm.trans parsed
  refine ⟨done, own (by decide) fun path s there found => ?_⟩
  rw [segments_greeting] at there
  obtain rfl : path = "name".toList := by simpa using there
  cases found
  decide

theorem not_always_ownHeaders :
    ¬∀ (t : Template) (data raw : String) (draws : Draws) (time : Instant),
      '\n' ∉ t.subject.toList → '\r' ∉ t.subject.toList → t.render data (Ident.hex 19 draws) time = .ok raw →
        OwnHeaders raw := by
  intro always
  have own := always greeting _ _ _ _ (by decide) (by decide) (render_greeting "Ann\r\nFrom: eve@evil.org\r\n\r\n")
  have names := (ownHeaders_compose_iff (newline_not_mem_iso8601 _) (newline_not_mem_boundary _ _) _ _ _).1 own
  exact absurd (names "from".toList (by decide +kernel)) (by decide)

end Template

end Mail

end MockCloud

