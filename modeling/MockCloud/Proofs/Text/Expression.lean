import MockCloud.Network.Filter
import MockCloud.Proofs.Text.Globbing

/-! # Patterns as regular expressions

A pattern with wildcards can be handed to a matcher of regular expressions. Its special characters are escaped, the
escaped wildcards are then replaced wherever they stand in the text so made, and anchors are put around the whole. A
backslash in the pattern is escaped as well, so what is replaced always comes from a wildcard.

* `translate`: the expression of a pattern.
* `parse?` and `Found`: what an expression is read as, and when it is found in a text.
* `matches_iff`: with the expression of a pattern, the texts are found that come from it.
* `wildcards_exact`: so filters ask for what comes from one of their values. -/

namespace MockCloud.Text.Expression

open Wildcard (Glob)

/-! ### From patterns to expressions -/

/-- The characters that get a backslash when a text is escaped. -/
def special : List Char :=
  "\\.+*?()|[]\x7b\x7d^$#&-~".toList

/-- What an escaped character looks like. -/
def escapeChar (c : Char) : List Char :=
  if c ∈ special then ['\\', c] else [c]

/-- The expression that stands for the text itself. -/
def escape (text : List Char) : List Char :=
  text.flatMap escapeChar

/-- Replaces `a` followed by `b`, wherever the two are met from the left. -/
def replacePair (a b : Char) (new : List Char) : List Char → List Char
  | [] => []
  | [c] => [c]
  | c :: d :: rest =>
    if c = a ∧ d = b then new ++ replacePair a b new rest else c :: replacePair a b new (d :: rest)

/-- The expression of a pattern. -/
def translate (pattern : List Char) : List Char :=
  '^' :: replacePair '\\' '?' ['.'] (replacePair '\\' '*' ['.', '*'] (escape pattern)) ++ ['$']

/-! ### What expressions mean -/

/-- The smallest expressions: the ends of the text, any character but a line feed, and a character itself. -/
inductive Atom where
  | start
  | stop
  | any
  | char (c : Char)
  deriving DecidableEq, Repr

/-- An atom that stands once, or any number of times. -/
inductive Item where
  | one (a : Atom)
  | many (a : Atom)
  deriving DecidableEq, Repr

/-- The atom that a character is written for without a backslash. -/
def atom? (c : Char) : Option Atom :=
  if c = '^' then some .start
  else if c = '$' then some .stop
  else if c = '.' then some .any
  else if c ∈ special then none
  else some (.char c)

/-- The items after a star: it repeats the one in front of it. The items stand in reverse. -/
def repeatLast : List Item → Option (List Item)
  | .one a :: done => some (.many a :: done)
  | _ => none

/-- The items after a character that is not escaped. -/
def readChar (done : List Item) (c : Char) : Option (List Item) :=
  if c = '*' then repeatLast done else (atom? c).map (.one · :: done)

/-- Reads on after some items. -/
def parseFrom (done : List Item) : List Char → Option (List Item)
  | [] => some done.reverse
  | '\\' :: c :: rest => if c ∈ special then parseFrom (.one (.char c) :: done) rest else none
  | c :: rest => (readChar done c).bind fun done => parseFrom done rest

/-- The items of an expression, if it is one without groups, classes and other repetitions. -/
def parse? (expression : List Char) : Option (List Item) :=
  parseFrom [] expression

/-- The atom is met by `mid` between `before` and `after`. -/
inductive Atom.Met : Atom → (before mid after : List Char) → Prop
  | start {after : List Char} : start.Met [] [] after
  | stop {before : List Char} : stop.Met before [] []
  | any {before after : List Char} {c : Char} (plain : c ≠ '\n') : any.Met before [c] after
  | char {before after : List Char} {c : Char} : (char c).Met before [c] after

/-- The items are met, one after another, by `mid` between `before` and `after`. -/
inductive Met : List Item → (before mid after : List Char) → Prop
  | nil {before after : List Char} : Met [] before [] after
  | one {a : Atom} {items : List Item} {before w mid after : List Char} (met : a.Met before w (mid ++ after))
      (rest : Met items (before ++ w) mid after) : Met (.one a :: items) before (w ++ mid) after
  | none {a : Atom} {items : List Item} {before mid after : List Char} (rest : Met items before mid after) :
      Met (.many a :: items) before mid after
  | more {a : Atom} {items : List Item} {before w mid after : List Char} (met : a.Met before w (mid ++ after))
      (rest : Met (.many a :: items) (before ++ w) mid after) : Met (.many a :: items) before (w ++ mid) after

/-- Some part of the text meets the items. -/
def Found (items : List Item) (text : List Char) : Prop :=
  ∃ before mid after, text = before ++ mid ++ after ∧ Met items before mid after

/-- A pattern without wildcards matches itself; one with wildcards matches where its expression is found. -/
def Matches (pattern text : List Char) : Prop :=
  if '*' ∈ pattern ∨ '?' ∈ pattern then ∃ items, parse? (translate pattern) = some items ∧ Found items text
  else text = pattern

/-! ### The replacements -/

/-- What stands in the expression for a character of the pattern. -/
def written (c : Char) : List Char :=
  if c = '*' then ['.', '*'] else if c = '?' then ['.'] else escapeChar c

section

variable {a b c : Char} {new rest : List Char}

theorem replacePair_pair : replacePair a b new (a :: b :: rest) = new ++ replacePair a b new rest := by
  rw [replacePair, if_pos ⟨rfl, rfl⟩]

theorem replacePair_cons (behind : rest.head? ≠ some b) :
    replacePair a b new (c :: rest) = c :: replacePair a b new rest := by
  cases rest with
  | nil => rfl
  | cons d rest =>
    rw [replacePair, if_neg]
    rintro ⟨-, rfl⟩
    exact behind rfl

theorem head?_append_ne {piece : List Char} (absent : b ∉ piece) (behind : rest.head? ≠ some b) :
    (piece ++ rest).head? ≠ some b := by
  cases piece with
  | nil => exact behind
  | cons c piece =>
    rintro ⟨⟩
    exact absent List.mem_cons_self

/-- A piece without `b` is kept, unless its end makes a pair with what follows. -/
theorem replacePair_append {piece : List Char} (absent : b ∉ piece) (behind : rest.head? ≠ some b) :
    replacePair a b new (piece ++ rest) = piece ++ replacePair a b new rest := by
  induction piece with
  | nil => rfl
  | cons c piece ih =>
    have absent : b ∉ piece := fun mem => absent (List.mem_cons_of_mem c mem)
    rw [List.cons_append, replacePair_cons (head?_append_ne absent behind), ih absent, List.cons_append]

/-- If `b` occurs only in its own piece, and there behind `a`, then these pieces are replaced and no other is. -/
theorem replacePair_flatMap (piece : Char → List Char) (apart : a ≠ b) (pair : piece b = [a, b])
    (absent : ∀ c ≠ b, b ∉ piece c) (text : List Char) :
    replacePair a b new (text.flatMap piece) = text.flatMap fun c => if c = b then new else piece c := by
  have behind (text : List Char) : (text.flatMap piece).head? ≠ some b := by
    induction text with
    | nil => simp
    | cons c text ih =>
      rw [List.flatMap_cons]
      by_cases same : c = b
      · rw [same, pair]
        simpa using apart
      · exact head?_append_ne (absent c same) ih
  induction text with
  | nil => rfl
  | cons c text ih =>
    rw [List.flatMap_cons, List.flatMap_cons, ← ih]
    by_cases same : c = b
    · rw [if_pos same, same, pair]
      exact replacePair_pair
    · rw [if_neg same, replacePair_append (absent c same) (behind text)]

end

theorem not_mem_escapeChar {b c : Char} (other : c ≠ b) (plain : b ≠ '\\') : b ∉ escapeChar c := by
  unfold escapeChar
  split <;> simp [plain, other.symm]

/-- No backslash of the pattern disturbs a replacement: each wildcard is written as its meaning, and every other
character as it is escaped. -/
theorem translate_eq (pattern : List Char) : translate pattern = '^' :: pattern.flatMap written ++ ['$'] := by
  have runs : replacePair '\\' '*' ['.', '*'] (escape pattern) =
      pattern.flatMap fun c => if c = '*' then ['.', '*'] else escapeChar c :=
    replacePair_flatMap escapeChar (by decide) (by decide) (fun _ other => not_mem_escapeChar other (by decide)) pattern
  rw [translate, runs, replacePair_flatMap _ (by decide) (by decide) ?_ pattern]
  · congr 3
    funext c
    unfold written
    by_cases run : c = '*'
    · subst run
      rfl
    · rw [if_neg run, if_neg run]
  · intro c other
    split
    · decide
    · exact not_mem_escapeChar other (by decide)

example : translate "a\\*.?".toList = "^a\\\\.*\\..$".toList := by decide

/-! ### Reading the expression -/

/-- What is read for a character of the pattern. -/
def read (c : Char) : Item :=
  if c = '*' then .many .any else if c = '?' then .one .any else .one (.char c)

theorem parseFrom_written (done : List Item) (c : Char) (rest : List Char) :
    parseFrom done (written c ++ rest) = parseFrom (read c :: done) rest := by
  by_cases run : c = '*'
  · subst run
    rfl
  · by_cases one : c = '?'
    · subst one
      rfl
    · have is : read c = .one (.char c) := by rw [read, if_neg run, if_neg one]
      rw [written, if_neg run, if_neg one, escapeChar, is]
      by_cases escaped : c ∈ special
      · rw [if_pos escaped]
        simp only [List.cons_append, List.nil_append, parseFrom, if_pos escaped]
      · rw [if_neg escaped, List.singleton_append]
        have told (d : Char) (there : d ∈ special) : c ≠ d := fun same => escaped (same ▸ there)
        have atom : atom? c = some (.char c) := by
          rw [atom?, if_neg (told _ (by decide)), if_neg (told _ (by decide)), if_neg (told _ (by decide)),
            if_neg escaped]
        rw [parseFrom]
        · rw [readChar, if_neg run, atom]
          rfl
        · exact fun d rest' start => absurd start (told _ (by decide))

theorem parseFrom_flatMap_written (pattern : List Char) (done : List Item) (rest : List Char) :
    parseFrom done (pattern.flatMap written ++ rest) = parseFrom ((pattern.map read).reverse ++ done) rest := by
  induction pattern generalizing done with
  | nil => rfl
  | cons c pattern ih =>
    rw [List.flatMap_cons, List.append_assoc, parseFrom_written, ih]
    simp

theorem parse?_translate (pattern : List Char) :
    parse? (translate pattern) = some (.one .start :: (pattern.map read ++ [.one .stop])) := by
  have start (rest : List Char) : parse? ('^' :: rest) = parseFrom [.one .start] rest := rfl
  have stop (done : List Item) : parseFrom done ['$'] = some (.one .stop :: done).reverse := rfl
  rw [translate_eq, List.cons_append, start, parseFrom_flatMap_written, stop]
  simp

/-! ### Finding it -/

section

variable {items : List Item} {before mid after text : List Char} {c : Char}

theorem met_stop_iff : Met [.one .stop] before mid after ↔ mid = [] ∧ after = [] := by
  constructor
  · rintro (_ | ⟨met, rest⟩)
    cases rest
    cases met
    exact ⟨rfl, rfl⟩
  · rintro ⟨rfl, rfl⟩
    exact .one (w := []) .stop .nil

theorem met_any_iff : Met (.one .any :: items) before mid after ↔
    ∃ c mid', mid = c :: mid' ∧ c ≠ '\n' ∧ Met items (before ++ [c]) mid' after := by
  constructor
  · rintro (_ | ⟨met, rest⟩)
    cases met with
    | any plain => exact ⟨_, _, rfl, plain, rest⟩
  · rintro ⟨c, mid', rfl, plain, rest⟩
    exact .one (w := [c]) (.any plain) rest

theorem met_char_iff : Met (.one (.char c) :: items) before mid after ↔
    ∃ mid', mid = c :: mid' ∧ Met items (before ++ [c]) mid' after := by
  constructor
  · rintro (_ | ⟨met, rest⟩)
    cases met
    exact ⟨_, rfl, rest⟩
  · rintro ⟨mid', rfl, rest⟩
    exact .one (w := [c]) .char rest

theorem met_many_any_iff : Met (.many .any :: items) before mid after ↔
    ∃ run mid', mid = run ++ mid' ∧ '\n' ∉ run ∧ Met items (before ++ run) mid' after := by
  constructor
  · generalize whole : Item.many .any :: items = all
    intro h
    induction h with
    | nil => cases whole
    | one => cases whole
    | none rest =>
      cases whole
      exact ⟨[], _, rfl, List.not_mem_nil, by rwa [List.append_nil]⟩
    | more met rest ih =>
      cases whole
      cases met with
      | @any _ _ c plain =>
        obtain ⟨run, mid', rfl, feed, rest⟩ := ih rfl
        refine ⟨c :: run, mid', rfl, ?_, by rwa [List.append_assoc] at rest⟩
        simpa [feed] using plain.symm
  · rintro ⟨run, mid', rfl, feed, rest⟩
    induction run generalizing before with
    | nil => exact .none (by rwa [List.append_nil] at rest)
    | cons c run ih =>
      obtain ⟨plain, feed⟩ : '\n' ≠ c ∧ '\n' ∉ run := by simpa using feed
      have more : Met (.many .any :: items) (before ++ [c]) (run ++ mid') after :=
        ih feed (by rwa [List.append_assoc])
      exact .more (w := [c]) (.any plain.symm) more

/-- What the items of a pattern are met by, up to the end of the text. -/
theorem met_read_iff {pattern : List Char} : Met (pattern.map read ++ [.one .stop]) before mid after ↔
    Glob pattern mid ∧ after = [] := by
  induction pattern generalizing before mid with
  | nil =>
    rw [List.map_nil, List.nil_append, met_stop_iff]
    refine and_congr_left fun _ => ⟨?_, ?_⟩
    · rintro rfl
      exact .nil
    · rintro ⟨⟩
      rfl
  | cons c pattern ih =>
    rw [List.map_cons, List.cons_append]
    by_cases run : c = '*'
    · subst run
      rw [show read '*' = .many .any from rfl, met_many_any_iff, Wildcard.glob_run_iff_append]
      simp only [ih, ← and_assoc, exists_and_right]
    · by_cases one : c = '?'
      · subst one
        rw [show read '?' = .one .any from rfl, met_any_iff, Wildcard.glob_one_iff]
        simp only [ih, ← and_assoc, exists_and_right]
      · rw [show read c = .one (.char c) by rw [read, if_neg run, if_neg one], met_char_iff,
          Wildcard.glob_same_iff run one]
        simp only [ih, ← and_assoc, exists_and_right]

theorem found_iff {pattern text : List Char} :
    Found (.one .start :: (pattern.map read ++ [.one .stop])) text ↔ Glob pattern text := by
  constructor
  · rintro ⟨before, mid, after, rfl, _ | ⟨met, rest⟩⟩
    cases met
    obtain ⟨glob, rfl⟩ := met_read_iff.1 rest
    simpa using glob
  · intro glob
    exact ⟨[], text, [], by simp, .one (w := []) .start (met_read_iff.2 ⟨glob, rfl⟩)⟩

/-- A pattern is met by the texts that come from it, with wildcards or without. -/
theorem matches_iff {pattern text : List Char} : Matches pattern text ↔ Glob pattern text := by
  unfold Matches
  split
  · rw [parse?_translate]
    simp only [Option.some.injEq, exists_eq_left', found_iff]
  · next plain =>
    rw [not_or] at plain
    exact (Wildcard.glob_plain_iff plain.1 plain.2).symm

end

end MockCloud.Text.Expression

namespace MockCloud.Network

open Text

/-- **Filters ask for what comes from one of their values** when each `*` in it is replaced by a run of characters and
each `?` by one, without line feeds, and every other character is kept. The texts that come from a value are those that
its expression is found in. -/
theorem wildcards_exact :
    (∀ pattern text, Wildcard.fits pattern text = true ↔ Wildcard.Glob pattern text) ∧
      (∀ pattern text, Expression.Matches pattern text ↔ Wildcard.Glob pattern text) ∧
      ∀ patterns candidates, anyFits patterns candidates = true ↔
        ∃ pattern ∈ patterns, ∃ candidate ∈ candidates, Wildcard.Glob pattern.toList candidate.toList := by
  refine ⟨fun _ _ => Wildcard.fits_iff, fun _ _ => Expression.matches_iff, fun patterns candidates => ?_⟩
  simp only [anyFits, List.any_eq_true, Wildcard.fits_iff]

end MockCloud.Network
