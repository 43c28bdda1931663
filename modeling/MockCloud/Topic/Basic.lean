import MockCloud.Instant
import MockCloud.Json.ToTree
import MockCloud.Scope
import MockCloud.Store

/-! # Topics

A topic has a name, and its resource name is its id. Messages are published to topics; they are kept in one
list, the oldest first.

* `Board` holds the topics of one place and what has been published to them.
* `Board.create` gives an existing topic back instead of making a second one of its name. -/

namespace MockCloud.Topic

/-- How a call on topics fails. -/
inductive TopicError where
  | notFound
  /-- Tags for a topic that is not there. -/
  | resourceNotFound
  | tagLimit
  | invalidName
  | taken (arn : String)
  | differentTags
  | invalidTags (violation : TagViolation)
  | invalidPageToken (e : PageError)
  deriving DecidableEq, Repr

/-- A violation of the tag policy as an error about topics. -/
def TopicError.ofTags : TagViolation → TopicError
  | .tooManyTags .. => .tagLimit
  | v => .invalidTags v

/-- What is wrong with a parameter. -/
def TopicError.message : TopicError → String
  | notFound => "Topic does not exist"
  | resourceNotFound => "Resource does not exist"
  | tagLimit => "Could not complete request: tag quota of per resource exceeded"
  | invalidName => "Invalid parameter: Topic Name must match [a-zA-Z0-9_-]\x7b1,256\x7d"
  | taken arn => "Invalid parameter: Topic already exists: " ++ arn
  | differentTags => "Invalid parameter: Tags Reason: Topic already exists with different tags"
  | invalidTags v => "Invalid parameter: Tags Reason: " ++ v.message
  | invalidPageToken e => "Invalid parameter: " ++ e.message

instance : Fault TopicError where
  kind
    | .notFound | .resourceNotFound => .notFound
    | .tagLimit => .limitExceeded
    | .invalidName | .taken _ | .differentTags | .invalidTags _ | .invalidPageToken _ => .validationError
  code
    | .notFound => "NotFound"
    | .resourceNotFound => "ResourceNotFound"
    | .tagLimit => "TagLimitExceeded"
    | .invalidName | .taken _ | .differentTags | .invalidTags _ | .invalidPageToken _ =>
      "InvalidParameter"
  message := TopicError.message

end MockCloud.Topic

namespace MockCloud

/-- A topic. -/
structure Topic where
  arn : String
  name : String
  displayName : Option String
  tags : TagMap
  deriving DecidableEq

namespace Topic

/-- What a topic is made from. -/
structure New where
  displayName : Option String := none
  tags : List Tag := []
  deriving DecidableEq, Repr

/-- Makes a topic; its tags must keep the policy for tags. -/
def make (arn : String) (name : String) (p : New) : Except TopicError Topic :=
  let tags := TagMap.ofTags p.tags
  ((TagPolicy.standard.checkReplacement tags).mapError TopicError.ofTags).map fun _ =>
    ⟨arn, name, p.displayName, tags⟩

/-- The only change of a topic is its display name. -/
instance : Entity Topic (String × New) (Option String) Scope TopicError where
  id := Topic.arn
  make arn p _ := make arn p.1 p.2
  change t displayName _ := .ok () { t with displayName }
  missing _ _ := .notFound
  taken arn _ := .taken arn

/-- A published message. -/
structure Message where
  id : String
  topicArn : String
  subject : Option String
  text : String
  published : Instant
  deriving DecidableEq, Repr

instance : Json.ToTree Topic where
  toTree t := .record [("arn", .str t.arn), ("name", .str t.name),
    ("display_name", .option .str t.displayName), ("tags", Json.toTree t.tags)]

instance [Json.ToTree Instant] : Json.ToTree Message where
  toTree m := .record [("message_id", .str m.id), ("topic_arn", .str m.topicArn),
    ("subject", .option .str m.subject), ("message", .str m.text), ("timestamp", Json.toTree m.published)]

/-- ASCII letters, digits, dashes and underscores, at least one, perhaps with `.fifo` behind them; at most
256 characters. -/
def isName (name : String) : Bool :=
  let cs := name.toList
  let base := if Text.endsWith name ".fifo" then cs.take (cs.length - 5) else cs
  !base.isEmpty && cs.length ≤ 256 && base.all fun c => c.isAlphanum || c = '-' || c = '_'

/-- The topics of one place and the messages published to them. -/
structure Board where
  scope : Scope
  topics : Store Topic Scope
  /-- All messages, the oldest first. -/
  published : List Message

instance : Backend Board where
  service := "sns"
  isGlobal := false
  new scope := ⟨scope, .new scope, []⟩
  scope := Board.scope

namespace Board

/-- Sizes of the pages of topics. -/
def pageLimits : PageLimits := ⟨100, 100⟩

/-- The resource name of a topic of this place. -/
def topicArn (b : Board) (name : String) : String :=
  b.scope.arn "sns" name

/-- Makes a topic. If there is one of this name it is given back, unless tags are given and differ from
its tags. -/
def create (b : Board) (name : String) (p : New) : Outcome Board TopicError Topic :=
  if !isName name then .fail .invalidName b
  else
    let arn := b.topicArn name
    match b.topics.get? arn with
    | some t =>
      if !p.tags.isEmpty && t.tags ≠ TagMap.ofTags p.tags then .fail .differentTags b else .ok t b
    | none => (b.topics.create arn (name, p)).within ({ b with topics := · })

/-- The topic of a resource name. -/
def get (b : Board) (arn : String) : Except TopicError Topic :=
  b.topics.require arn

/-- Sets or clears the display name of a topic. -/
def setDisplayName (b : Board) (arn : String) (displayName : Option String) :
    Outcome Board TopicError Unit :=
  ((b.topics.update arn displayName).within ({ b with topics := · })).done

/-- Removes a topic if it is there. -/
def delete (b : Board) (arn : String) : Board :=
  { b with topics := (b.topics.discard arn).2 }

/-- The resource names of the topics in order. -/
def list (b : Board) (request : PageRequest) : Except TopicError (Page String) :=
  (paginate b.topics.ids request pageLimits .null fun arn => arn).mapError .invalidPageToken

/-- Publishes a message to a topic. The id and the time are what the publisher draws and when. -/
def publish (b : Board) (arn : String) (subject : Option String) (text id : String) (time : Instant) :
    Outcome Board TopicError String :=
  .guard (b.get arn) b fun _ =>
    .ok id { b with published := b.published ++ [⟨id, arn, subject, text, time⟩] }

/-- The messages published to one topic. -/
def publishedTo (b : Board) (arn : String) : List Message :=
  b.published.filter (·.topicArn == arn)

/-- The topic whose tags are asked for. -/
def tagged (b : Board) (arn : String) : Except TopicError Topic :=
  match b.topics.get? arn with
  | some t => .ok t
  | none => .error .resourceNotFound

/-- Puts tags on a topic; of several tags with one key the last counts. -/
def tag (b : Board) (arn : String) (tags : List Tag) : Outcome Board TopicError Unit :=
  .guard (b.tagged arn) b fun t =>
    .guard ((TagPolicy.standard.merged t.tags (.ofTags tags)).mapError TopicError.ofTags) b fun all =>
      .ok () { b with topics := b.topics.modify arn fun t => { t with tags := all } }

/-- Takes tags off a topic. -/
def untag (b : Board) (arn : String) (keys : List String) : Outcome Board TopicError Unit :=
  .guard (b.tagged arn) b fun _ =>
    .ok () { b with topics := b.topics.modify arn fun t => { t with tags := t.tags.eraseKeys keys } }

/-- The tags of a topic in the order of their keys. -/
def tagsOf (b : Board) (arn : String) : Except TopicError (List Tag) :=
  (b.tagged arn).map fun t => t.tags.toTags

end Board

end Topic

end MockCloud
