/-
The masking settings of an account: a switch, a rule for each kind of data,
and who is exempt.  Settings are read leniently and viewed as one JSON shape.
-/
import ContactPrivacy.Field
import ContactPrivacy.Settings.RoleSet
import ContactPrivacy.Validation.Scalar

namespace ContactPrivacy

/-- Whether a kind of data is masked, and by which pattern.  The pattern is
kept as given; a name that is not known means the standard pattern. -/
structure FieldRule where
  enabled : Bool
  pattern : Option String
deriving DecidableEq

/-- The rules of an account and the ways around them. -/
structure MaskingRules where
  email : FieldRule
  phone : FieldRule
  adminBypass : Bool
  allowReveal : Bool
  exemptRoles : RoleSet
deriving DecidableEq

/-- The masking settings of an account. -/
structure Settings where
  maskingEnabled : Bool
  rules : MaskingRules
deriving DecidableEq

namespace FieldRule

/-- Masked by the standard pattern. -/
def default : FieldRule := ⟨true, some "standard"⟩

/-- A pattern is kept if it is a text or null; other values leave their text. -/
def patternOf : Json → Option String
  | .null => none
  | value => some value.literal

def ofMembers (members : Members) : Reading FieldRule :=
  FieldRule.mk
    <$> Reading.member members "enabled" true Reading.bool
    <*> Reading.member members "pattern" (some "standard") fun value =>
      .accepted (patternOf value)

/-- Null stands for the default rule. -/
def read : Json → Reading FieldRule
  | .null => ofMembers []
  | value => Reading.ofObject (.notModel "FieldRule") ofMembers value

def toJson (rule : FieldRule) : Json :=
  .object [("enabled", .bool rule.enabled), ("pattern", Json.ofText? rule.pattern)]

end FieldRule

namespace MaskingRules

/-- Both kinds masked by the standard pattern, nobody exempt, reveals allowed. -/
def default : MaskingRules := ⟨.default, .default, false, true, .empty⟩

/-- A list of names; null stands for none. -/
def readRoles : Json → Reading RoleSet
  | .null => .accepted .empty
  | .list items => (Reading.items Reading.text 0 items).map RoleSet.ofList
  | _ => Reading.fault .notSet

def ofMembers (members : Members) : Reading MaskingRules :=
  MaskingRules.mk
    <$> Reading.member members "email" .default FieldRule.read
    <*> Reading.member members "phone" .default FieldRule.read
    <*> Reading.member members "admin_bypass" false Reading.bool
    <*> Reading.member members "allow_reveal" true Reading.bool
    <*> Reading.member members "exempt_roles" .empty readRoles

/-- Null stands for the default rules. -/
def read : Json → Reading MaskingRules
  | .null => ofMembers []
  | value => Reading.ofObject (.notModel "MaskingRules") ofMembers value

def rolesJson (rules : MaskingRules) : Json := .list (rules.exemptRoles.roles.map Json.string)

def toJson (rules : MaskingRules) : Json :=
  .object [("email", rules.email.toJson), ("phone", rules.phone.toJson),
    ("admin_bypass", .bool rules.adminBypass), ("allow_reveal", .bool rules.allowReveal),
    ("exempt_roles", rules.rolesJson)]

end MaskingRules

namespace Settings

/-- Masking switched on with the default rules. -/
def default : Settings := ⟨true, .default⟩

def ofMembers (members : Members) : Reading Settings :=
  Settings.mk
    <$> Reading.member members "masking_enabled" true Reading.bool
    <*> Reading.member members "masking_rules" .default MaskingRules.read

def read : Json → Reading Settings := Reading.ofObject (.notModel "MaskingSettings") ofMembers

/-- The settings in the shape accounts store them, roles in order. -/
def view (settings : Settings) : Json :=
  .object [("masking_enabled", .bool settings.maskingEnabled),
    ("masking_rules", settings.rules.toJson)]

/-- The rule of a field; other fields than contact data have the default rule. -/
def ruleFor (settings : Settings) : Field → FieldRule
  | .known .email => settings.rules.email
  | .known .phone => settings.rules.phone
  | .other _ => .default

end Settings

end ContactPrivacy
