import MockCloud.Network.Vpc

/-! # Access lists

An access list belongs to a VPC and holds numbered rules, one for each number and direction, and the
associations of the subnets that it applies to. Every VPC has a default list, which allows all traffic by
rule 100 and denies the rest by a rule whose number callers cannot use.

* `AclEntry.validate` checks a rule before it is stored.
* `Acl.entryAt?` and `Acl.entry?` find a rule by its number and direction. -/

namespace MockCloud.Network

open Json (ToTree Tree toTree)

/-- What a rule does with traffic. -/
inductive RuleAction where
  | allow
  | deny
  deriving DecidableEq, Repr

/-- The text of an action. -/
def RuleAction.text : RuleAction → String
  | allow => "allow"
  | deny => "deny"

/-- Reads an action. -/
def RuleAction.ofText (text : String) : Except NetworkError RuleAction :=
  if text = "allow" then .ok .allow
  else if text = "deny" then .ok .deny
  else .error (.invalidValue (.ruleAction text))

/-- The ports from `first` to `last`. -/
structure PortRange where
  first : Nat
  last : Nat
  deriving DecidableEq, Repr

/-- A type and a code of control messages. -/
structure IcmpType where
  type : Int
  code : Int
  deriving DecidableEq, Repr

/-- A rule of an access list. -/
structure AclEntry where
  ruleNumber : Nat
  /-- The number of a protocol, or `-1` for all. -/
  protocol : String
  action : RuleAction
  egress : Bool
  block : String
  icmp : Option IcmpType
  ports : Option PortRange
  deriving DecidableEq, Repr

/-- A rule for all traffic of one direction. -/
def AclEntry.catchAll (ruleNumber : Nat) (action : RuleAction) (egress : Bool) : AclEntry :=
  ⟨ruleNumber, "-1", action, egress, "0.0.0.0/0", none, none⟩

/-- The rule's number and direction. -/
def AclEntry.key (e : AclEntry) : Nat × Bool :=
  (e.ruleNumber, e.egress)

/-- Checks the number, then the block, then the ports of a rule. -/
def AclEntry.validate (e : AclEntry) : Except NetworkError Unit :=
  if e.ruleNumber < 1 ∨ maxRuleNumber < e.ruleNumber then .error (.invalidValue (.ruleNumber e.ruleNumber))
  else if (Cidr.parse? e.block).isNone then .error (.invalidBlock e.block)
  else
    match e.ports with
    | some r => if r.last < r.first then .error (.invalidValue (.portRange r.first r.last)) else .ok ()
    | none => .ok ()

/-- That an access list applies to a subnet. -/
structure AclAssociation where
  id : String
  aclId : String
  subnetId : String
  deriving DecidableEq, Repr

/-- An access list. -/
structure Acl where
  id : String
  vpcId : String
  ownerId : String
  isDefault : Bool
  entries : List AclEntry
  /-- The associations by their ids. -/
  associations : SortedMap AclAssociation
  tags : TagMap
  deriving DecidableEq

/-- What an access list is made from. -/
structure NewAcl where
  vpcId : String
  isDefault : Bool
  tags : List Tag

/-- The number of the last rules of a default list. -/
def defaultRuleNumber : Nat := 32767

/-- The rules of a default list. -/
def defaultEntries : List AclEntry :=
  [.catchAll 100 .allow true, .catchAll defaultRuleNumber .deny true,
   .catchAll 100 .allow false, .catchAll defaultRuleNumber .deny false]

namespace Acl

/-- Makes an access list. -/
def make (id : String) (p : NewAcl) (scope : Scope) : Except NetworkError Acl := do
  let tags ← checkedTags p.tags
  return ⟨id, p.vpcId, scope.account, p.isDefault, if p.isDefault then defaultEntries else [], .empty, tags⟩

theorem make_eq_ok {id : String} {p : NewAcl} {scope : Scope} {a : Acl} (h : make id p scope = .ok a) :
    ∃ tags, checkedTags p.tags = .ok tags ∧
      a = ⟨id, p.vpcId, scope.account, p.isDefault, if p.isDefault then defaultEntries else [],
        .empty, tags⟩ := by
  unfold make at h
  cases ht : checkedTags p.tags with
  | error e => rw [ht] at h; cases h
  | ok tags => rw [ht] at h; cases h; exact ⟨tags, rfl, rfl⟩

/-- The position of the rule with this number and direction. -/
def entryAt? (a : Acl) (ruleNumber : Nat) (egress : Bool) : Option Nat :=
  a.entries.findIdx? fun e => e.ruleNumber == ruleNumber && e.egress == egress

/-- The rule with this number and direction. -/
def entry? (a : Acl) (ruleNumber : Nat) (egress : Bool) : Option AclEntry :=
  a.entries.find? fun e => e.ruleNumber == ruleNumber && e.egress == egress

/-- Neither a default list nor one with associations may be removed. -/
def mayGo (a : Acl) : Except NetworkError Unit :=
  if a.isDefault then .error (.invalidValue (.defaultAcl a.id))
  else if !a.associations.isEmpty then .error (.inUse "networkAcl" a.id)
  else .ok ()

theorem mayGo_eq_ok_iff {a : Acl} :
    a.mayGo = .ok () ↔ a.isDefault = false ∧ a.associations.isEmpty = true := by
  unfold mayGo
  cases a.isDefault <;> cases a.associations.isEmpty <;> simp

end Acl

instance : Entity Acl NewAcl TagMap Scope NetworkError where
  id := Acl.id
  make := Acl.make
  change a tags _ := .ok () { a with tags }
  mayGo a _ := a.mayGo
  missing id _ := .aclNotFound id
  taken id _ := .invalidValue (.taken "Network ACL" id)

instance : Filterable Acl where
  tags := Acl.tags
  attribute? a
    | "default" => some (flag a.isDefault)
    | "vpc-id" => some [a.vpcId]
    | "network-acl-id" | "association.network-acl-id" => some [a.id]
    | "association.subnet-id" => some (a.associations.values.map (·.subnetId))
    | "association.association-id" => some a.associations.keys
    | "owner-id" => some [a.ownerId]
    | "entry.rule-number" => some (a.entries.map fun e => Text.decimal e.ruleNumber)
    | "entry.rule-action" => some (a.entries.map fun e => e.action.text)
    | _ => none

instance : ToTree RuleAction := ⟨fun a => .str a.text⟩

instance : ToTree PortRange where
  toTree r := .record [("from", .nat r.first), ("to", .nat r.last)]

instance : ToTree IcmpType where
  toTree t := .record [("icmp_type", toTree t.type), ("code", toTree t.code)]

instance : ToTree AclEntry where
  toTree e := .record [("rule_number", .nat e.ruleNumber), ("protocol", .str e.protocol),
    ("rule_action", toTree e.action), ("egress", .bool e.egress), ("cidr_block", .str e.block),
    ("icmp_type_code", toTree e.icmp), ("port_range", toTree e.ports)]

instance : ToTree AclAssociation where
  toTree a := .record [("association_id", .str a.id), ("network_acl_id", .str a.aclId),
    ("subnet_id", .str a.subnetId)]

instance : ToTree Acl where
  toTree a := .record [("network_acl_id", .str a.id), ("vpc_id", .str a.vpcId),
    ("owner_id", .str a.ownerId), ("is_default", .bool a.isDefault), ("entries", toTree a.entries),
    ("associations", toTree a.associations), ("tags", toTree a.tags)]

end MockCloud.Network
