/-
Audit records.  A record never holds a raw value; a value it refers to is
there as its digest.
-/
import ContactPrivacy.Field
import ContactPrivacy.Identifier

namespace ContactPrivacy.Audit

/-- What an audit record is about. -/
inductive Kind where
  | dataRevealed
  | dataCopied
  | settingsUpdated
  | featureEnabled
  | featureDisabled
deriving DecidableEq, Repr

namespace Kind

def name : Kind → String
  | .dataRevealed => "data_revealed"
  | .dataCopied => "data_copied"
  | .settingsUpdated => "masking_settings_updated"
  | .featureEnabled => "masking_feature_enabled"
  | .featureDisabled => "masking_feature_disabled"

def all : List Kind :=
  [.dataRevealed, .dataCopied, .settingsUpdated, .featureEnabled, .featureDisabled]

/-- The kinds by their names. -/
def byName : List (String × Kind) := all.map fun kind => (kind.name, kind)

def toJson (kind : Kind) : Json := .string kind.name

/-- The kind of a name; no other value is one. -/
def ofJson? : Json → Option Kind
  | .string s => all.find? fun kind => kind.name == s
  | _ => none

end Kind

/-- A value before and after. -/
structure Change where
  before : Json
  after : Json
deriving DecidableEq

def Change.toJson (change : Change) : Json :=
  .object [("from", change.before), ("to", change.after)]

/-- The rules whose changes are told, in the order they are told in. -/
inductive RuleName where
  | email
  | phone
  | adminBypass
  | allowReveal
  | exemptRoles
deriving DecidableEq, Repr

namespace RuleName

def name : RuleName → String
  | .email => "email"
  | .phone => "phone"
  | .adminBypass => "admin_bypass"
  | .allowReveal => "allow_reveal"
  | .exemptRoles => "exempt_roles"

def all : List RuleName := [.email, .phone, .adminBypass, .allowReveal, .exemptRoles]

end RuleName

/-- What differs between two settings: the switch, and rules in their order. -/
structure Changes where
  maskingEnabled : Option Change
  rules : List (RuleName × Change)
deriving DecidableEq

namespace Changes

def none : Changes := ⟨.none, []⟩

def isEmpty (changes : Changes) : Bool := changes.maskingEnabled.isNone && changes.rules.isEmpty

def rulesMembers (changes : Changes) : Members :=
  changes.rules.map fun (rule, change) => (rule.name, change.toJson)

/-- Only what changed has a member. -/
def members (changes : Changes) : Members :=
  (match changes.maskingEnabled with
    | some change => [("masking_enabled", change.toJson)]
    | .none => []) ++
  (if changes.rules.isEmpty then [] else [("masking_rules", .object changes.rulesMembers)])

def toJson (changes : Changes) : Json := .object changes.members

end Changes

/-- An audit record, without its serial number and time. -/
structure Record where
  kind : Kind
  actorId : Option Identifier
  actorRole : String
  accountId : Option Identifier
  dataType : Option DataType
  action : Option String
  context : Members
  changes : Changes
  switchedTo : Option Bool
  valueDigest : Option String
deriving DecidableEq

namespace Record

def actorJson (record : Record) : Json :=
  .object [("type", .string "User"), ("id", Identifier.toJson? record.actorId),
    ("role", .string record.actorRole)]

def targetJson (record : Record) : Json :=
  .object [("type", .string "Account"), ("account_id", Identifier.toJson? record.accountId)]

/-- What a switch of the masking feature tells about itself. -/
def detailsJson (record : Record) : Json :=
  match record.switchedTo with
  | some enabled => .object [("feature", .string "data_masking"), ("enabled", .bool enabled)]
  | none => .object []

def toJson (record : Record) : Json :=
  .object [("event", record.kind.toJson), ("actor", record.actorJson),
    ("target", record.targetJson), ("data_type", DataType.toJson? record.dataType),
    ("action", Json.ofText? record.action), ("context", .object record.context),
    ("changes", record.changes.toJson), ("details", record.detailsJson),
    ("value_digest", Json.ofText? record.valueDigest), ("source", .string "masking_system")]

end Record

end ContactPrivacy.Audit
