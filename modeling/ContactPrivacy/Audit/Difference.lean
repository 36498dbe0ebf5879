/-
What differs between two settings.  Absent settings have null for everything.
-/
import ContactPrivacy.Audit.Record
import ContactPrivacy.Policy

namespace ContactPrivacy.Audit

/-- The switch of some settings as a value. -/
def switchJson (settings : Option Settings) : Json :=
  match settings with
  | some settings => .bool settings.maskingEnabled
  | none => .null

/-- A rule as a value. -/
def RuleName.of (rule : RuleName) (rules : MaskingRules) : Json :=
  match rule with
  | .email => rules.email.toJson
  | .phone => rules.phone.toJson
  | .adminBypass => .bool rules.adminBypass
  | .allowReveal => .bool rules.allowReveal
  | .exemptRoles => rules.rolesJson

/-- A rule of some settings as a value. -/
def ruleJson (rule : RuleName) (settings : Option Settings) : Json :=
  match settings with
  | some settings => rule.of settings.rules
  | none => .null

/-- A change where two values differ. -/
def Change.between? (before after : Json) : Option Change :=
  if before = after then none else some ⟨before, after⟩

/-- The difference of two settings, the rules in their fixed order. -/
def Changes.between (before after : Option Settings) : Changes :=
  ⟨Change.between? (switchJson before) (switchJson after),
    RuleName.all.filterMap fun rule =>
      (Change.between? (ruleJson rule before) (ruleJson rule after)).map fun change =>
        (rule, change)⟩

/-- The difference of two settings as they are given. -/
def Changes.ofGiven (before after : Given Settings) : Logged Changes := do
  let before ← before.settings
  let after ← after.settings
  return Changes.between before after

end ContactPrivacy.Audit
