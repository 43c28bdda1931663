import Mathlib.Data.List.Forall2
import MockCloud.Proofs.Mail.HeaderLines
import MockCloud.Proofs.Mail.Mailbox

/-! # Scanning a header block

What a raw message says about its sender and its recipients does not hang on how it is written: not on what stands
behind the header block, not on how its lines end, and not on where a header goes on in a further line.

* `headerLines_append`: the body behind the first empty line is not read.
* `textLines_feeds`: a carriage return in front of a line feed may be left out.
* `addLine_joined`: a line that goes on with a header may be put behind the first one, up to blank characters in front of
  the value (`Alike`), which nobody sees (`RawHeaders.add_alike`).
* `parseHeaders_rewritten`: the three laws together. -/

namespace MockCloud.Mail

open Text (trim trimStart trimEnd)

/-! ### The end of the block -/

/-- The text ends with the end of a line, or is empty. -/
def EndsLine (text : String) : Prop :=
  text = "" ∨ ∃ front, text = front ++ "\n"

/-- An empty line, perhaps with carriage returns at its end. -/
def emptyLine (returns : Nat) : String :=
  String.ofList (List.replicate returns '\r') ++ "\n"

theorem textLines_emptyLine (returns : Nat) (body : List Char) :
    textLines ((emptyLine returns).toList ++ body) = [] :: textLines body := by
  have nothing : withoutReturns (List.replicate returns '\r') = [] :=
    List.rdropWhile_eq_nil_iff.2 fun c hc => decide_eq_true (List.eq_of_mem_replicate hc)
  have one : '\n' ∉ List.replicate returns '\r' := fun inside => absurd (List.eq_of_mem_replicate inside) (by decide)
  have split : (emptyLine returns).toList ++ body = List.replicate returns '\r' ++ '\n' :: body := by
    simp [emptyLine]
  rw [split, textLines_append, textLines_of_line one, nothing]
  rfl

theorem headerLines_eq (raw : List Char) :
    headerLines raw = (textLines raw).takeWhile fun line => !line.isEmpty :=
  rfl

/-- The header block ends in front of the first empty line. -/
theorem headerLines_append {head : String} (ended : EndsLine head) (returns : Nat) (body : List Char) :
    headerLines (head.toList ++ ((emptyLine returns).toList ++ body)) = headerLines head.toList := by
  rw [headerLines_eq, headerLines_eq]
  rcases ended with rfl | ⟨front, rfl⟩
  · change (textLines ((emptyLine returns).toList ++ body)).takeWhile _ = _
    rw [textLines_emptyLine]
    rfl
  · have split : (front ++ "\n").toList ++ ((emptyLine returns).toList ++ body) =
        front.toList ++ '\n' :: ((emptyLine returns).toList ++ body) := by
      simp
    have whole : (front ++ "\n").toList = front.toList ++ '\n' :: [] := by simp
    rw [split, whole, textLines_append, textLines_append, textLines_emptyLine, List.takeWhile_append,
      List.takeWhile_append]
    rfl

/-! ### The ends of lines -/

/-- A text with a line feed in the place of each carriage return and line feed. -/
def feeds : List Char → List Char
  | '\r' :: '\n' :: rest => '\n' :: feeds rest
  | c :: rest => c :: feeds rest
  | [] => []

/-- By induction on the text, whatever stands in front of it. -/
theorem textLines_append_feeds (text front : List Char) : textLines (front ++ feeds text) = textLines (front ++ text) := by
  induction text using feeds.induct generalizing front with
  | case1 rest ih =>
    have split : front ++ '\r' :: '\n' :: rest = front ++ ['\r', '\n'] ++ rest := by simp
    have behind : textLines (feeds rest) = textLines rest := ih []
    rw [feeds, textLines_append, behind, split, textLines_append_crlf]
  | case2 c rest _ ih =>
    have split (text : List Char) : front ++ c :: text = (front ++ [c]) ++ text := by simp
    rw [feeds, split, ih, ← split]
    assumption
  | case3 => rfl

/-- **A carriage return in front of a line feed may be left out.** -/
theorem textLines_feeds (text : List Char) : textLines (feeds text) = textLines text :=
  textLines_append_feeds text []

/-! ### Headers in several lines -/

/-- Two headers that are the same up to blank characters in front of the value. -/
structure Alike (a b : Header) : Prop where
  name : a.1 = b.1
  value : trimStart a.2 = trimStart b.2

theorem trim_eq_of_trimStart_eq {a b : List Char} (same : trimStart a = trimStart b) : trim a = trim b :=
  congrArg trimEnd same

/-- A line that is read after two headers that are alike leaves them alike. -/
theorem alike_addLine {hs hs' : List Header} (alike : List.Forall₂ Alike hs hs') (line : List Char) :
    List.Forall₂ Alike (addLine hs line) (addLine hs' line) := by
  unfold addLine
  split
  · cases alike with
    | nil => exact .nil
    | @cons a b as bs first rest =>
      obtain ⟨name, value⟩ := a
      obtain ⟨name', value'⟩ := b
      refine .cons ⟨first.name, ?_⟩ rest
      have same : trimStart value = trimStart value' := first.value
      change trimStart (value ++ ' ' :: trim line) = trimStart (value' ++ ' ' :: trim line)
      rw [← Text.trimStart_trimStart_append value, same, Text.trimStart_trimStart_append]
  · cases Text.cutFirst (· = ':') line with
    | none => exact alike
    | some parts => exact .cons ⟨rfl, rfl⟩ alike

theorem alike_foldl_addLine {hs hs' : List Header} (alike : List.Forall₂ Alike hs hs') (lines : List (List Char)) :
    List.Forall₂ Alike (lines.foldl addLine hs) (lines.foldl addLine hs') := by
  induction lines generalizing hs hs' with
  | nil => exact alike
  | cons line lines ih => exact ih (alike_addLine alike line)

theorem forall₂_alike_refl (hs : List Header) : List.Forall₂ Alike hs hs :=
  List.forall₂_same.2 fun _ _ => ⟨rfl, rfl⟩

/-! ### Values with blank characters in front -/

/-- The first piece of a list has begun with what has been read of it. -/
theorem splitFrom_eq (s : ListState) (piece cs : List Char) :
    splitFrom s piece cs = (splitFrom s [] cs).modifyHead (piece.reverse ++ ·) := by
  induction cs generalizing s piece with
  | nil => simp [splitFrom]
  | cons c cs ih =>
    rw [splitFrom, splitFrom]
    split
    · simp
    · rw [ih _ (c :: piece), ih _ [c], List.modifyHead_modifyHead]
      congr 1
      funext front
      simp

/-- A blank character in front of a list stands in front of its first mailbox. -/
theorem splitMailboxes_cons {c : Char} (blank : Text.isBlank c = true) (cs : List Char) :
    splitMailboxes (c :: cs) = (splitMailboxes cs).modifyHead (c :: ·) := by
  have plain {d : Char} (hd : Text.isBlank d = false) : c ≠ d := fun e => by rw [e, hd] at blank; cases blank
  have stays : ListState.step ⟨false, false⟩ c = ⟨false, false⟩ := by
    unfold ListState.step
    rw [if_neg (plain (by decide)), if_neg (plain (by decide)), if_neg (plain (by decide))]
  have uncut : ListState.cuts ⟨false, false⟩ c = false := by
    simp [ListState.cuts, plain (d := ',') (by decide)]
  rw [splitMailboxes, splitFrom, if_neg (by simp [uncut]), stays, splitFrom_eq]
  rfl

theorem map_trim_splitMailboxes (cs : List Char) :
    (splitMailboxes cs).map trim = (splitMailboxes (trimStart cs)).map trim := by
  induction cs with
  | nil => rfl
  | cons c cs ih =>
    by_cases blank : Text.isBlank c = true
    · have first (pieces : List (List Char)) : (pieces.modifyHead (c :: ·)).map trim = pieces.map trim := by
        cases pieces with
        | nil => rfl
        | cons piece pieces => simp [Text.trim_cons blank]
      rw [splitMailboxes_cons blank, first, ih, trimStart, trimStart, List.dropWhile_cons_of_pos blank]
    · rw [trimStart, List.dropWhile_cons_of_neg blank]

/-- Nobody sees the blank characters in front of a value. -/
theorem RawHeaders.add_alike {a b : Header} (alike : Alike a b) (h : RawHeaders) : h.add a = h.add b := by
  obtain ⟨name, value⟩ := a
  obtain ⟨name', value'⟩ := b
  obtain rfl : name = name' := alike.name
  have same : trimStart value = trimStart value' := alike.value
  have sender : bareChars value = bareChars value' := by
    rw [← bareChars_trim value, trim_eq_of_trimStart_eq same, bareChars_trim]
  have listed : listedMailboxes value = listedMailboxes value' := by
    rw [listedMailboxes, listedMailboxes, map_trim_splitMailboxes value, same, ← map_trim_splitMailboxes]
  rw [add, add, sender, listed]

theorem foldl_add_alike {hs hs' : List Header} (alike : List.Forall₂ Alike hs hs') (h : RawHeaders) :
    hs.foldl RawHeaders.add h = hs'.foldl RawHeaders.add h := by
  induction alike generalizing h with
  | nil => rfl
  | cons first _ ih => rw [List.foldl_cons, List.foldl_cons, RawHeaders.add_alike first, ih]

/-! ### Lines that go on with a header -/

/-- A line that begins a header, and a further one that goes on with it and is not blank. -/
structure Folded (first second : List Char) : Prop where
  one : '\n' ∉ first
  one' : '\n' ∉ second
  colon : ':' ∈ first
  begins : first.head? ≠ some ' ' ∧ first.head? ≠ some '\t'
  goesOn : second.head? = some ' ' ∨ second.head? = some '\t'
  filled : ∃ c ∈ second, Text.isBlank c = false

/-- The two lines in one, with a space between them. -/
def joined (first second : List Char) : List Char :=
  trimEnd first ++ ' ' :: trim second

section

variable {name value first second : List Char} {hs : List Header}

theorem trim_withoutReturns (line : List Char) : trim (withoutReturns line) = trim line :=
  Text.trim_rdropWhile (fun c hc => by rw [of_decide_eq_true hc]; decide) line

theorem addLine_begins (plain : ':' ∉ name) (out : name.head? ≠ some ' ') (out' : name.head? ≠ some '\t') :
    addLine hs (withoutReturns (name ++ ':' :: value)) = ((trim name).map Char.toLower, trim value) :: hs := by
  unfold addLine
  rw [if_neg (begins_withoutReturns out out' value), cutFirst_withoutReturns plain]
  dsimp only
  rw [trim_withoutReturns]

theorem addLine_goesOn (goesOn : second.head? = some ' ' ∨ second.head? = some '\t')
    (filled : ∃ c ∈ second, Text.isBlank c = false) :
    addLine ((name, value) :: hs) (withoutReturns second) = (name, value ++ ' ' :: trim second) :: hs := by
  obtain ⟨c, inside, hc⟩ := filled
  have other : c ≠ '\r' := fun e => by rw [e] at hc; cases hc
  have first : (withoutReturns second).head? = second.head? := by
    obtain ⟨front, back, rfl⟩ := List.append_of_mem inside
    rw [withoutReturns_append_cons other]
    cases front <;> rfl
  rw [addLine, first, if_pos goesOn, trim_withoutReturns]

/-- The value of a header in two lines, and in one. -/
theorem trimStart_joined (filled : ∃ c ∈ second, Text.isBlank c = false) :
    trimStart (trim value ++ ' ' :: trim second) = trimStart (trim (trimEnd value ++ ' ' :: trim second)) := by
  obtain ⟨c, inside, hc⟩ := filled
  have last : trim (trimEnd value ++ ' ' :: trim second) = trimStart (trimEnd value ++ ' ' :: trim second) := by
    obtain ⟨front, back, rfl⟩ := List.append_of_mem inside
    rw [Text.trim_append_cons hc, ← List.cons_append, ← List.append_assoc, Text.trim_append_cons hc,
      Text.trimStart_append_cons hc]
    exact congrArg (trimStart _ ++ c :: ·) (List.rdropWhile_idempotent Text.isBlank back)
  rw [last, trim, Text.trimEnd_trimStart, Text.trimStart_trimStart_append]
  exact (List.dropWhile_idempotent Text.isBlank _).symm

/-- A header in two lines is the same as in one, up to blank characters in front of its value. -/
theorem alike_joined (folded : Folded first second) :
    List.Forall₂ Alike (addLine (addLine hs (withoutReturns first)) (withoutReturns second))
      (addLine hs (withoutReturns (joined first second))) := by
  obtain ⟨-, -, colon, begins, goesOn, filled⟩ := folded
  obtain ⟨name, value, rfl, plain⟩ := List.eq_append_cons_of_mem colon
  have out {c : Char} (begins : (name ++ ':' :: value).head? ≠ some c) : name.head? ≠ some c := by
    cases name with
    | nil => nofun
    | cons d name => exact begins
  have line : joined (name ++ ':' :: value) second = name ++ ':' :: (trimEnd value ++ ' ' :: trim second) := by
    rw [joined, Text.trimEnd_append_cons (by decide), List.append_assoc, List.cons_append]
  rw [line, addLine_begins plain (out begins.1) (out begins.2), addLine_begins plain (out begins.1) (out begins.2),
    addLine_goesOn goesOn filled]
  exact .cons ⟨rfl, trimStart_joined filled⟩ (forall₂_alike_refl hs)

theorem withoutReturns_ne_nil {c : Char} {line : List Char} (inside : c ∈ line) (other : c ≠ '\r') :
    withoutReturns line ≠ [] :=
  fun none => other (of_decide_eq_true (List.rdropWhile_eq_nil_iff.1 none c inside))

theorem Folded.newline_not_mem (folded : Folded first second) : '\n' ∉ joined first second := by
  have front : '\n' ∉ trimEnd first := fun inside =>
    folded.one ((List.rdropWhile_prefix Text.isBlank first).subset inside)
  have back : '\n' ∉ ' ' :: trim second := by
    simpa using fun inside => folded.one' (Text.mem_of_mem_trim inside)
  exact List.not_mem_append front back

/-- **A header in two lines may be written in one.** -/
theorem alike_headers (folded : Folded first second) (front back : List (List Char)) :
    List.Forall₂ Alike (headers (['\n'].intercalate (front ++ first :: second :: back)))
      (headers (['\n'].intercalate (front ++ joined first second :: back))) := by
  have lines {texts : List (List Char)} (ne : texts ≠ []) : headerLines (['\n'].intercalate texts) =
      (texts.flatMap textLines).takeWhile fun line => !line.isEmpty := by
    rw [headerLines_eq, textLines_intercalate (fun front back => ?_) ne]
    rw [List.append_assoc, List.singleton_append, textLines_append]
  have full {line : List Char} (ne : line ≠ []) (lines : List (List Char)) :
      (line :: lines).takeWhile (fun line => !line.isEmpty) = line :: lines.takeWhile fun line => !line.isEmpty :=
    List.takeWhile_cons_of_pos (by simpa using ne)
  obtain ⟨c, inside, hc⟩ := folded.filled
  have first_ne : withoutReturns first ≠ [] := withoutReturns_ne_nil folded.colon (by decide)
  have second_ne : withoutReturns second ≠ [] :=
    withoutReturns_ne_nil inside fun e => by rw [e] at hc; cases hc
  have joined_ne : withoutReturns (joined first second) ≠ [] :=
    withoutReturns_ne_nil (c := ' ') (by simp [joined]) (by decide)
  unfold headers
  rw [List.forall₂_reverse_iff, lines (by simp), lines (by simp), List.flatMap_append, List.flatMap_append,
    List.flatMap_cons, List.flatMap_cons, List.flatMap_cons, textLines_of_line folded.one,
    textLines_of_line folded.one', textLines_of_line folded.newline_not_mem, List.singleton_append,
    List.singleton_append, List.singleton_append, List.takeWhile_append, List.takeWhile_append]
  split_ifs
  · -- the block goes on as far as the two lines
    rw [full first_ne, full second_ne, full joined_ne, List.foldl_append, List.foldl_append, List.foldl_cons,
      List.foldl_cons, List.foldl_cons]
    exact alike_foldl_addLine (alike_joined folded) _
  · exact forall₂_alike_refl _

end

/-! ### The laws -/

theorem parseHeaders_congr {raw raw' : String} (alike : List.Forall₂ Alike (headers raw.toList) (headers raw'.toList)) :
    parseHeaders raw = parseHeaders raw' :=
  foldl_add_alike alike _

theorem parseHeaders_of_headerLines {raw raw' : String} (same : headerLines raw.toList = headerLines raw'.toList) :
    parseHeaders raw = parseHeaders raw' := by
  unfold parseHeaders headers
  rw [same]

/-- **Ways to write the same message.** Who a raw message is from and for is told by its header block, and stays the same
when the text behind the first empty line is another one, when the carriage returns in front of all line feeds are left
out, and when a line that goes on with the header of the line before it is put behind this line, trimmed and with a space
between them. -/
theorem parseHeaders_rewritten :
    (∀ (head : String) (returns : Nat) (body body' : String), EndsLine head →
        parseHeaders (head ++ emptyLine returns ++ body) = parseHeaders (head ++ emptyLine returns ++ body')) ∧
      (∀ raw : String, parseHeaders (.ofList (feeds raw.toList)) = parseHeaders raw) ∧
      ∀ (front back : List String) (first second : String), Folded first.toList second.toList →
        parseHeaders ("\n".intercalate (front ++ .ofList (joined first.toList second.toList) :: back)) =
          parseHeaders ("\n".intercalate (front ++ first :: second :: back)) := by
  refine ⟨fun head returns body body' ended => parseHeaders_of_headerLines ?_, fun raw =>
    parseHeaders_of_headerLines ?_, fun front back first second folded => ?_⟩
  · have block (body : String) : headerLines (head ++ emptyLine returns ++ body).toList = headerLines head.toList := by
      rw [String.toList_append, String.toList_append, List.append_assoc, headerLines_append ended]
    rw [block, block]
  · rw [String.toList_ofList, headerLines_eq, textLines_feeds]
    rfl
  · have alike := alike_headers folded (front.map String.toList) (back.map String.toList)
    refine (parseHeaders_congr ?_).symm
    simpa using alike

theorem parseHeaders_rewritten_bee :
    EndsLine "From: sender@example.com\r\n" ∧
      Folded "To: a@example.com,\r".toList "\t\"Bee\" <b@example.com>\r".toList ∧
      parseHeaders ("From: sender@example.com\r\n" ++ emptyLine 1 ++ "To: eve@example.com\r\n") =
        parseHeaders ("From: sender@example.com\r\n" ++ emptyLine 1 ++ "") ∧
      parseHeaders ("\n".intercalate (["From: sender@example.com\r"] ++
          .ofList (joined "To: a@example.com,\r".toList "\t\"Bee\" <b@example.com>\r".toList) :: ["", "hi"])) =
        parseHeaders ("\n".intercalate (["From: sender@example.com\r"] ++
          "To: a@example.com,\r" :: "\t\"Bee\" <b@example.com>\r" :: ["", "hi"])) := by
  have ended : EndsLine "From: sender@example.com\r\n" := .inr ⟨"From: sender@example.com\r", by decide +kernel⟩
  have folded : Folded "To: a@example.com,\r".toList "\t\"Bee\" <b@example.com>\r".toList :=
    ⟨by simp, by simp, by simp, by simp, by simp, 'B', by simp, by decide⟩
  obtain ⟨body, -, folds⟩ := parseHeaders_rewritten
  exact ⟨ended, folded, body _ _ _ _ ended, folds _ _ _ _ folded⟩

end MockCloud.Mail
