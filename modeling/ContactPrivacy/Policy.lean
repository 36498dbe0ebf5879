/-
The masking policy of a request: what settings and user, as they are given,
let the user see.  Malformed settings and users count as absent.
-/
import ContactPrivacy.Logged

namespace ContactPrivacy

/-- A caller's argument: already read, or raw JSON that is read on use. -/
inductive Given (α : Type) where
  | ready (value : Option α)
  | raw (value : Json)

/-- What raw JSON stands for: null and values that are no objects are absent,
and so, with an event, are objects that do not read. -/
def acceptRaw {α : Type} (read : Members → Reading α) (malformed : Nat → Event) :
    Json → Logged (Option α)
  | .object members =>
      match read members with
      | .accepted value => ⟨some value, []⟩
      | .rejected issues => ⟨none, [malformed issues.length]⟩
  | _ => ⟨none, []⟩

/-- The settings an argument stands for. -/
def Given.settings : Given Settings → Logged (Option Settings)
  | .ready value => ⟨value, []⟩
  | .raw value => acceptRaw Settings.ofMembers .settingsMalformed value

/-- The user an argument stands for. -/
def Given.user : Given User → Logged (Option User)
  | .ready value => ⟨value, []⟩
  | .raw value => acceptRaw User.ofMembers .userMalformed value

/-- The identifier of a caller's account; a bad name is logged. -/
def AccountCard.accept : Option AccountCard → Logged (Option Identifier)
  | none => ⟨none, []⟩
  | some card =>
      if card.nameIssues.isEmpty then ⟨card.identifier, []⟩
      else ⟨card.identifier, [.accountMalformed card.nameIssues.length]⟩

namespace Policy

/-- The decision for a field.  The user is read only where the settings leave
the decision to it. -/
def resolve (settings : Given Settings) (user : Given User) (field : Field) :
    Logged Decision := do
  match ← settings.settings with
  | none => return .unmasked
  | some snapshot =>
      if snapshot.masks field then return snapshot.decide (← user.user) field
      else return .unmasked

/-- Whether the user sees raw values whatever the field rules say. -/
def canView (settings : Given Settings) (user : Given User) : Logged Bool := do
  match ← settings.settings with
  | none => return true
  | some snapshot =>
      if snapshot.maskingEnabled then return (← user.user).any snapshot.bypassedBy
      else return true

/-- Whether a field is masked and the account allows to reveal it. -/
def canReveal (settings : Given Settings) (user : Given User) (field : Field) :
    Logged Bool := do
  let decision ← resolve settings user field
  if decision.shouldMask then
    return (← settings.settings).any fun snapshot => snapshot.rules.allowReveal
  else return false

end Policy

/-- A policy whose settings and user have been read once. -/
structure Policy where
  settings : Option Settings
  user : Option User
deriving DecidableEq

namespace Policy

def ofGiven (settings : Given Settings) (user : Given User) : Logged Policy := do
  let settings ← settings.settings
  let user ← user.user
  return ⟨settings, user⟩

/-- The decision for a field. -/
def decide (policy : Policy) (field : Field) : Decision :=
  Decision.of policy.settings policy.user field

/-- The decision for a field, logged. -/
def look (policy : Policy) (field : Field) : Logged Decision :=
  ⟨policy.decide field, [.decisionResolved field.toJson (policy.decide field)]⟩

/-- Whether the user sees raw values whatever the field rules say. -/
def seesRaw (policy : Policy) : Bool :=
  match policy.settings with
  | none => true
  | some settings => !settings.maskingEnabled || policy.user.any settings.bypassedBy

/-- Whether a field is masked and the account allows to reveal it. -/
def mayReveal (policy : Policy) (field : Field) : Bool :=
  (policy.decide field).shouldMask && policy.settings.any fun settings => settings.rules.allowReveal

/-- Whether the user must never receive contact data. -/
def protects (policy : Policy) : Bool := policy.user.any User.isProtected

end Policy

end ContactPrivacy
