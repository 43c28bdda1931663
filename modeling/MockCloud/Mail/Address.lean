import MockCloud.Text.Blank
import MockCloud.Text.Cut

/-! # Mail addresses

A mailbox is an address, or a name with an address in angle brackets behind it. The address is what stands
between the last `<` and the last `>`, if they stand in this order, and the whole mailbox otherwise.

* `bareAddress`, `domain?` and `problem?` look into a mailbox.
* `splitMailboxes` cuts a list of mailboxes at its commas. -/

namespace MockCloud.Mail

/-- The address of a mailbox. -/
def bareChars (mailbox : List Char) : List Char :=
  let m := Text.trim mailbox
  match Text.cutLast (· = '>') m with
  | none => m
  | some (front, behind) =>
    if behind.contains '<' then m
    else
      match Text.cutLast (· = '<') front with
      | none => m
      | some (_, address) => Text.trim address

/-- The address of a mailbox. -/
def bareAddress (mailbox : String) : String :=
  String.ofList (bareChars mailbox.toList)

/-- The domain of a mailbox in lower case: what stands behind the last `@` of its address. -/
def domain? (mailbox : String) : Option String :=
  (Text.cutLast (· = '@') (bareChars mailbox.toList)).map fun (_, domain) =>
    String.ofList (domain.map Char.toLower)

/-- Why an address cannot be used. -/
inductive AddressProblem where
  | missingDomain
  | missingLocalPart
  deriving DecidableEq, Repr

/-- The text about an address that cannot be used. -/
def AddressProblem.message : AddressProblem → String
  | missingDomain => "Missing domain"
  | missingLocalPart => "Missing local part"

/-- Why a mailbox cannot be used: its address needs exactly one `@` and something on both sides. -/
def problem? (mailbox : String) : Option AddressProblem :=
  match (bareChars mailbox.toList).splitOn '@' with
  | [local_, domain] =>
    if domain.isEmpty then some .missingDomain
    else if local_.isEmpty then some .missingLocalPart
    else none
  | _ => some .missingDomain

/-- A mailbox of a name and an address. -/
def formatMailbox (name address : String) : String :=
  if name.isEmpty then address else name ++ " <" ++ address ++ ">"

/-! ### Lists of mailboxes -/

/-- Where a scan of a list stands: inside a quoted name, or inside brackets. -/
structure ListState where
  quoted : Bool
  bracketed : Bool
  deriving DecidableEq, Repr

/-- The scan after one more character: a quote counts only outside brackets, a bracket only outside
quotes. -/
def ListState.step (s : ListState) (c : Char) : ListState :=
  if c = '"' then if s.bracketed then s else { s with quoted := !s.quoted }
  else if c = '<' then if s.quoted then s else { s with bracketed := true }
  else if c = '>' then if s.quoted then s else { s with bracketed := false }
  else s

/-- Whether a list is cut at this character. -/
def ListState.cuts (s : ListState) (c : Char) : Bool :=
  c = ',' && !s.quoted && !s.bracketed

/-- The pieces of a list, of which the first one has begun with `piece`, last character first. -/
def splitFrom (s : ListState) (piece : List Char) : List Char → List (List Char)
  | [] => [piece.reverse]
  | c :: cs =>
    if s.cuts c then piece.reverse :: splitFrom s [] cs
    else splitFrom (s.step c) (c :: piece) cs

/-- Cuts a list of mailboxes at the commas outside of quoted names and brackets. -/
def splitMailboxes (list : List Char) : List (List Char) :=
  splitFrom ⟨false, false⟩ [] list

end MockCloud.Mail
