import MockCloud.Json.ToTree
import MockCloud.Mail.Error

/-! # Receipt rules

Rules for incoming mail, in sets. The rules of a set stand in the order in which they are tried.

* `RuleSets.createRule` puts a rule at the end of its set, or right behind another one. -/

namespace MockCloud.Mail

open Json (ToTree Tree toTree)

/-- A rule for incoming mail. -/
structure ReceiptRule where
  name : String
  enabled : Bool := true
  tlsPolicy : String := "Optional"
  recipients : List String := []
  actions : List Json.Value := []
  scanEnabled : Bool := false

instance : ToTree ReceiptRule where
  toTree r := .record [("name", .str r.name), ("enabled", .bool r.enabled), ("tls_policy", .str r.tlsPolicy),
    ("recipients", .strs r.recipients), ("actions", toTree r.actions), ("scan_enabled", .bool r.scanEnabled)]

/-- The sets of rules by name. -/
structure RuleSets where
  sets : SortedMap (List ReceiptRule) := .empty

namespace RuleSets

/-- The rules of a set. -/
def describeSet (s : RuleSets) (set : String) : Except MailError (List ReceiptRule) :=
  match s.sets.get? set with
  | some rules => .ok rules
  | none => .error (.ruleSetMissing set)

/-- Makes an empty set. -/
def createSet (s : RuleSets) (set : String) : Outcome RuleSets MailError Unit :=
  if s.sets.contains set then .fail (.ruleSetTaken set) s else .ok () ⟨s.sets.insert set []⟩

/-- The position of the rule of a name. -/
def position? (rules : List ReceiptRule) (name : String) : Option Nat :=
  rules.findIdx? (·.name == name)

/-- Where a new rule goes: to the end, or right behind the rule `after`. -/
def place (rules : List ReceiptRule) : Option String → Except MailError Nat
  | none => .ok rules.length
  | some after =>
    match position? rules after with
    | some i => .ok (i + 1)
    | none => .error (.ruleMissing after)

/-- Puts a rule with a new name into a set. -/
def createRule (s : RuleSets) (set : String) (rule : ReceiptRule) (after : Option String) :
    Outcome RuleSets MailError Unit :=
  .guard (s.describeSet set) s fun rules =>
    if rules.any (·.name == rule.name) then .fail (.ruleTaken rule.name) s
    else
      .guard (place rules after) s fun i => .ok () ⟨s.sets.insert set (rules.insertIdx i rule)⟩

/-- The rule of a name. -/
def describeRule (s : RuleSets) (set name : String) : Except MailError ReceiptRule :=
  match s.describeSet set with
  | .error e => .error e
  | .ok rules =>
    match rules.find? (·.name == name) with
    | some rule => .ok rule
    | none => .error (.ruleMissing name)

/-- Puts a rule in the place of the one of its name. -/
def updateRule (s : RuleSets) (set : String) (rule : ReceiptRule) : Outcome RuleSets MailError Unit :=
  .guard (s.describeSet set) s fun rules =>
    match position? rules rule.name with
    | some i => .ok () ⟨s.sets.insert set (rules.set i rule)⟩
    | none => .fail (.ruleMissing rule.name) s

end RuleSets

end MockCloud.Mail
