/-
The masking decision for a field, from settings and user alone.
-/
import ContactPrivacy.Settings.Basic
import ContactPrivacy.User

namespace ContactPrivacy

/-- Show the value as it is, or mask it by a pattern. -/
inductive Decision where
  | unmasked
  | masked (pattern : Pattern)
deriving DecidableEq, Repr

namespace Decision

def shouldMask : Decision → Bool
  | .unmasked => false
  | .masked _ => true

def pattern? : Decision → Option Pattern
  | .unmasked => none
  | .masked pattern => some pattern

def patternJson (decision : Decision) : Json := Json.ofText? (decision.pattern?.map Pattern.name)

def toJson (decision : Decision) : Json :=
  .object [("should_mask", .bool decision.shouldMask), ("pattern", decision.patternJson)]

end Decision

namespace Settings

/-- Administrators with the bypass and users with an exempt role see raw values. -/
def bypassedBy (settings : Settings) (user : User) : Bool :=
  (user.roleType = .administrator && settings.rules.adminBypass) ||
    user.role.any settings.rules.exemptRoles.contains

/-- Whether the settings mask a field as long as nobody bypasses them. -/
def masks (settings : Settings) (field : Field) : Bool :=
  settings.maskingEnabled && (settings.ruleFor field).enabled

/-- The decision for a known or unknown user.  An unknown user gets the
standard pattern whatever the rule says. -/
def decide (settings : Settings) (user : Option User) (field : Field) : Decision :=
  if settings.masks field then
    match user with
    | none => .masked .standard
    | some user =>
        if settings.bypassedBy user then .unmasked
        else .masked (Pattern.ofRule (settings.ruleFor field).pattern)
  else .unmasked

end Settings

/-- The decision without settings is to show the value. -/
def Decision.of (settings : Option Settings) (user : Option User) (field : Field) : Decision :=
  match settings with
  | none => .unmasked
  | some settings => settings.decide user field

end ContactPrivacy
