import MockCloud.Instant
import MockCloud.Json.ToTree
import MockCloud.Mail.Error
import MockCloud.Mail.Substitution
import MockCloud.Scope
import MockCloud.Store

/-! # Templates

A template has a subject and, if its writer likes, a text and an HTML part, all with holes for data. Rendering
fills the parts and puts them into one message with two alternatives.

* `Template.render` gives the message for a JSON text of data. -/

namespace MockCloud.Mail

open Json (ToTree Tree toTree)

/-- What a template is made from. -/
structure TemplateParts where
  name : String
  subject : String
  text : Option String := none
  html : Option String := none
  deriving DecidableEq, Repr

/-- A template. -/
structure Template where
  name : String
  subject : String
  text : Option String
  html : Option String
  created : Instant
  deriving DecidableEq, Repr

/-- Refuses a template without a name. -/
def TemplateParts.checkName (p : TemplateParts) : Except MailError Unit :=
  if p.name.isEmpty then .error .templateUnnamed else .ok ()

/-- Refuses a template without a subject. -/
def TemplateParts.checkSubject (p : TemplateParts) : Except MailError Unit :=
  if p.subject.isEmpty then .error .subjectMissing else .ok ()

namespace Template

/-- Makes a template at a moment. -/
def make (name : String) (p : TemplateParts) (created : Instant) : Except MailError Template :=
  p.checkSubject.map fun _ => ⟨name, p.subject, p.text, p.html, created⟩

/-- Replaces the parts of a template. -/
def change (t : Template) (p : TemplateParts) : Outcome Template MailError Unit :=
  .guard p.checkSubject t fun _ =>
    .ok () { t with subject := p.subject, text := p.text, html := p.html }

instance : Entity Template (TemplateParts × Instant) TemplateParts Scope MailError where
  id := Template.name
  make name p _ := make name p.1 p.2
  change t p _ := t.change p
  missing _ _ := .templateNotFound
  taken _ _ := .templateTaken

/-- A filled part; the part may be missing. -/
def filled (part : String) (data : Json.Value) : Except MailError String :=
  (substitute part data).mapError .attributeMissing

/-- The line that parts two alternatives. -/
def boundary (stem : String) : String :=
  "===============" ++ stem ++ "=="

/-- A message with two alternatives. -/
def compose (date boundary subject text html : String) : String :=
  let lines := "\r\n".intercalate
  lines ["Date: " ++ date, "Subject: " ++ subject,
    "Content-Type: multipart/alternative; boundary=\"" ++ boundary ++ "\"", "MIME-Version: 1.0", "",
    "--" ++ boundary, "Content-Type: text/plain;charset=UTF-8", "Content-Transfer-Encoding: 7bit", "",
    text, "--" ++ boundary, "Content-Type: text/html;charset=UTF-8",
    "Content-Transfer-Encoding: 7bit", "", html, "--" ++ boundary ++ "--", ""]

/-- The message of a template for some data. The stem of the boundary is what the renderer draws. -/
def render (t : Template) (data : String) (stem : String) (time : Instant) : Except MailError String := do
  let some data := Json.Value.parse? data | throw .renderingData
  let subject ← filled t.subject data
  let text ← filled (t.text.getD "") data
  let html ← filled (t.html.getD "") data
  return compose time.iso8601 (boundary stem) subject text html

end Template

/-- What a listing shows of a template. -/
def Template.metadataTree [ToTree Instant] (t : Template) : Tree :=
  .record [("name", .str t.name), ("created_timestamp", toTree t.created)]

instance [ToTree Instant] : ToTree Template where
  toTree t := .record [("name", .str t.name), ("subject_part", .str t.subject), ("text_part", toTree t.text),
    ("html_part", toTree t.html), ("created_timestamp", toTree t.created)]

end MockCloud.Mail
