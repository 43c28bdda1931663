import MockCloud.Json.ToTree
import MockCloud.Mail.Address

/-! # Header blocks

A raw message begins with header lines, up to the first line that is empty. A line that begins with a space
or a tab goes on with the header before it. A send looks at who a message is from and whom it is for.

* `parseHeaders` reads a raw message. -/

namespace MockCloud.Mail

/-- The name and the value of a header. -/
abbrev Header := List Char × List Char

/-- The lines of the header block, without the carriage returns at their ends. -/
def headerLines (raw : List Char) : List (List Char) :=
  ((raw.splitOn '\n').map fun line => (line.reverse.dropWhile (· = '\r')).reverse).takeWhile
    fun line => !line.isEmpty

/-- The headers, last one first, after one more line. A line that neither goes on with a header nor names
one is skipped. -/
def addLine (headers : List Header) (line : List Char) : List Header :=
  if line.head? = some ' ' ∨ line.head? = some '\t' then
    match headers with
    | [] => []
    | (name, value) :: rest => (name, value ++ ' ' :: Text.trim line) :: rest
  else
    match Text.cutFirst (· = ':') line with
    | some (name, value) => ((Text.trim name).map Char.toLower, Text.trim value) :: headers
    | none => headers

/-- The headers of a raw message in order. -/
def headers (raw : List Char) : List Header :=
  ((headerLines raw).foldl addLine []).reverse

/-- A mailbox in its usual form: the name in front of the first bracket, without quotes, and the address. -/
def normalMailbox (mailbox : List Char) : String :=
  let name := match Text.cutFirst (· = '<') mailbox with
    | none => []
    | some (name, _) =>
      (((Text.trim name).dropWhile (· = '"')).reverse.dropWhile (· = '"')).reverse
  formatMailbox (String.ofList name) (String.ofList (bareChars mailbox))

/-- The mailboxes of a list that have an address. -/
def listedMailboxes (list : List Char) : List (List Char) :=
  ((splitMailboxes list).map Text.trim).filter fun m => !(bareChars m).isEmpty

/-- What a send needs of the headers. -/
structure RawHeaders where
  sender : Option String
  /-- The mailboxes of all `To`, `Cc` and `Bcc` headers in order. -/
  recipients : List String
  deriving DecidableEq, Repr

/-- What is known after one more header; of several senders the last one counts. -/
def RawHeaders.add (h : RawHeaders) (header : Header) : RawHeaders :=
  let (name, value) := header
  if name = "from".toList then { h with sender := some (String.ofList (bareChars value)) }
  else if name = "to".toList ∨ name = "cc".toList ∨ name = "bcc".toList then
    { h with recipients := h.recipients ++ (listedMailboxes value).map normalMailbox }
  else h

/-- Who a raw message is from and for. -/
def parseHeaders (raw : String) : RawHeaders :=
  (headers raw.toList).foldl RawHeaders.add ⟨none, []⟩

instance : Json.ToTree RawHeaders where
  toTree h := .record [("from", .option .str h.sender), ("recipients", .strs h.recipients)]

end MockCloud.Mail
