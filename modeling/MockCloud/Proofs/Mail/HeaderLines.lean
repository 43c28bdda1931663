import MockCloud.Mail.Header
import MockCloud.Proofs.Text.Trimming

/-! # The lines of a header block

A raw message is cut at its line feeds, and carriage returns at the end of a line are not part of it. So a text is read
line by line, whatever stands in the other lines, and which headers there are is said by each line on its own.

* `textLines`: the lines of a text; `textLines_append` cuts a text at any of its line feeds.
* `headerName?`: the name of the header that begins with a line; `blockNames`: those of the lines of a block.
* `map_fst_headers`: so the names of all headers are read off the lines.
* `parseHeaders_of_others`: a message is from nobody and for nobody if no header says so. -/

namespace MockCloud.Mail

/-! ### Lines -/

/-- A line without the carriage returns at its end. -/
def withoutReturns (line : List Char) : List Char :=
  line.rdropWhile (· = '\r')

/-- The lines of a text, without the carriage returns at their ends. -/
def textLines (text : List Char) : List (List Char) :=
  (text.splitOn '\n').map withoutReturns

theorem withoutReturns_concat (line : List Char) : withoutReturns (line ++ ['\r']) = withoutReturns line :=
  List.rdropWhile_concat_pos _ _ _ (decide_eq_true rfl)

/-- What stands in front of another character stays as it is. -/
theorem withoutReturns_append_cons {c : Char} (hc : c ≠ '\r') (front back : List Char) :
    withoutReturns (front ++ c :: back) = front ++ c :: withoutReturns back :=
  Text.rdropWhile_append_cons (decide_eq_false hc) front back

/-- A text is cut at any of its line feeds. -/
theorem textLines_append (front back : List Char) :
    textLines (front ++ '\n' :: back) = textLines front ++ textLines back := by
  unfold textLines
  rw [List.splitOn_append_cons_self, List.map_append]

theorem textLines_of_line {line : List Char} (one : '\n' ∉ line) : textLines line = [withoutReturns line] := by
  rw [textLines, List.splitOn_eq_singleton one, List.map_singleton]

/-- A carriage return at the end belongs to no line. -/
theorem textLines_concat (text : List Char) : textLines (text ++ ['\r']) = textLines text := by
  -- the carriage return stands in the last line, so the text is cut in front of this one
  cases cut : Text.cutLast (· = '\n') text with
  | none =>
    have one : '\n' ∉ text := fun inside => by simpa using Text.eq_false_of_cutLast_eq_none cut '\n' inside
    rw [textLines_of_line one, textLines_of_line (by simp [one]), withoutReturns_concat]
  | some parts =>
    obtain ⟨front, back⟩ := parts
    obtain ⟨c, feed, rfl, behind⟩ := Text.eq_append_of_cutLast cut
    obtain rfl := of_decide_eq_true feed
    have one : '\n' ∉ back := fun inside => by simpa using behind '\n' inside
    have one' : '\n' ∉ back ++ ['\r'] := by simp [one]
    rw [List.append_assoc, List.cons_append, textLines_append, textLines_append, textLines_of_line one,
      textLines_of_line one', withoutReturns_concat]

/-- A text that goes on in the next line. -/
theorem textLines_append_crlf (front back : List Char) :
    textLines (front ++ ['\r', '\n'] ++ back) = textLines front ++ textLines back := by
  rw [← textLines_concat front, ← textLines_append, List.append_assoc, List.append_assoc]
  rfl

/-- Texts that are put one behind the other keep their lines if what parts them ends a line. -/
theorem textLines_intercalate {feed : List Char}
    (ends : ∀ front back, textLines (front ++ feed ++ back) = textLines front ++ textLines back)
    {texts : List (List Char)} (ne : texts ≠ []) : textLines (feed.intercalate texts) = texts.flatMap textLines := by
  induction texts with
  | nil => exact absurd rfl ne
  | cons text rest ih =>
    cases rest with
    | nil => rw [List.intercalate_singleton, List.flatMap_singleton]
    | cons next rest =>
      rw [List.intercalate_cons_cons, ends, ih (List.cons_ne_nil next rest), ← List.flatMap_cons]

/-- What stands in front of a text belongs to its first line. -/
theorem exists_textLines_append {start : List Char} (one : '\n' ∉ start) (text : List Char) :
    ∃ first, textLines (start ++ text) = withoutReturns (start ++ first) :: (textLines text).tail := by
  by_cases inside : '\n' ∈ text
  · obtain ⟨first, rest, rfl, plain⟩ := List.eq_append_cons_of_mem inside
    refine ⟨first, ?_⟩
    rw [← List.append_assoc, textLines_append, textLines_append, textLines_of_line plain,
      textLines_of_line (by simp [one, plain])]
    rfl
  · exact ⟨text, by rw [textLines_of_line (by simp [one, inside]), textLines_of_line inside]; rfl⟩

/-! ### The names of headers -/

/-- The name of the header that begins with a line: what stands in front of the first colon, in lower case. A line that
begins with a space or a tab goes on with another header. -/
def headerName? (line : List Char) : Option (List Char) :=
  if line.head? = some ' ' ∨ line.head? = some '\t' then none
  else (Text.cutFirst (· = ':') line).map fun (name, _) => (Text.trim name).map Char.toLower

theorem map_fst_addLine (headers : List Header) (line : List Char) :
    (addLine headers line).map Prod.fst = (headerName? line).toList ++ headers.map Prod.fst := by
  unfold addLine headerName?
  split
  · cases headers <;> rfl
  · cases Text.cutFirst (· = ':') line <;> rfl

/-- The names of the headers that begin in some lines, up to the first empty one. -/
def blockNames (lines : List (List Char)) : List (List Char) :=
  (lines.takeWhile fun line => !line.isEmpty).filterMap headerName?

/-- **The names of all headers**, line by line. -/
theorem map_fst_headers (raw : List Char) : (headers raw).map Prod.fst = blockNames (textLines raw) := by
  suffices all : ∀ (lines : List (List Char)) (done : List Header),
      ((lines.foldl addLine done).reverse).map Prod.fst = done.reverse.map Prod.fst ++ lines.filterMap headerName? from
    all (headerLines raw) []
  intro lines
  induction lines with
  | nil => simp
  | cons line lines ih =>
    intro done
    rw [List.foldl_cons, ih, List.map_reverse, map_fst_addLine, List.filterMap_cons, List.map_reverse]
    cases headerName? line <;> simp

/-- A line is cut at its first colon, whatever carriage returns are at its end. -/
theorem cutFirst_withoutReturns {name : List Char} (plain : ':' ∉ name) (value : List Char) :
    Text.cutFirst (· = ':') (withoutReturns (name ++ ':' :: value)) = some (name, withoutReturns value) := by
  rw [withoutReturns_append_cons (by decide)]
  exact Text.cutFirst_append (Text.forall_ne_of_not_mem plain) (decide_eq_true rfl)

theorem begins_withoutReturns {name : List Char} (out : name.head? ≠ some ' ') (out' : name.head? ≠ some '\t')
    (value : List Char) :
    ¬((withoutReturns (name ++ ':' :: value)).head? = some ' ' ∨
      (withoutReturns (name ++ ':' :: value)).head? = some '\t') := by
  rw [withoutReturns_append_cons (by decide)]
  cases name with
  | nil => simp
  | cons c cs => exact fun h => h.elim out out'

/-- A line that begins with a name and a colon begins the header of this name. -/
theorem headerName?_withoutReturns {name : List Char} (plain : ':' ∉ name) (out : name.head? ≠ some ' ')
    (out' : name.head? ≠ some '\t') (value : List Char) :
    headerName? (withoutReturns (name ++ ':' :: value)) = some ((Text.trim name).map Char.toLower) := by
  rw [headerName?, if_neg (begins_withoutReturns out out' value), cutFirst_withoutReturns plain]
  rfl

theorem blockNames_cons {name : List Char} (plain : ':' ∉ name) (out : name.head? ≠ some ' ')
    (out' : name.head? ≠ some '\t') (value : List Char) (lines : List (List Char)) :
    blockNames (withoutReturns (name ++ ':' :: value) :: lines) =
      (Text.trim name).map Char.toLower :: blockNames lines := by
  have begins : withoutReturns (name ++ ':' :: value) ≠ [] := by
    rw [withoutReturns_append_cons (by decide)]
    simp
  rw [blockNames, List.takeWhile_cons_of_pos (by simpa using begins), List.filterMap_cons,
    headerName?_withoutReturns plain out out']
  rfl

theorem blockNames_nil_cons (lines : List (List Char)) : blockNames ([] :: lines) = [] :=
  rfl

/-- An empty line ends the block. -/
theorem blockNames_append (front back : List (List Char)) :
    blockNames (front ++ back) = blockNames front ++ if ∀ line ∈ front, line ≠ [] then blockNames back else [] := by
  induction front with
  | nil => simp [blockNames]
  | cons line front ih =>
    by_cases empty : line = []
    · simp [empty, blockNames_nil_cons]
    · have full (lines : List (List Char)) :
          blockNames (line :: lines) = (headerName? line).toList ++ blockNames lines := by
        rw [blockNames, List.takeWhile_cons_of_pos (by simpa using empty), List.filterMap_cons]
        cases headerName? line <;> rfl
      rw [List.cons_append, full, full, ih, List.append_assoc]
      simp [empty]

/-! ### Who a message is from and for -/

/-- The names of the headers that say who a message is from or for. -/
def mailboxNames : List (List Char) :=
  ["from", "to", "cc", "bcc"].map String.toList

theorem RawHeaders.add_of_not_mem (h : RawHeaders) {header : Header} (other : header.1 ∉ mailboxNames) :
    h.add header = h := by
  simp only [mailboxNames, List.map_cons, List.map_nil, List.mem_cons, List.not_mem_nil, or_false, not_or] at other
  obtain ⟨sender, direct, copied, hidden⟩ := other
  unfold add
  dsimp only
  rw [if_neg sender, if_neg]
  rintro (named | named | named)
  · exact direct named
  · exact copied named
  · exact hidden named

/-- **A message is from nobody and for nobody** if no header says who it is from or for. -/
theorem parseHeaders_of_others {raw : String} (others : ∀ header ∈ headers raw.toList, header.1 ∉ mailboxNames) :
    parseHeaders raw = ⟨none, []⟩ := by
  unfold parseHeaders
  generalize headers raw.toList = all at others
  induction all with
  | nil => rfl
  | cons header rest ih =>
    obtain ⟨first, later⟩ := List.forall_mem_cons.1 others
    rw [List.foldl_cons, RawHeaders.add_of_not_mem _ first]
    exact ih later

end MockCloud.Mail
