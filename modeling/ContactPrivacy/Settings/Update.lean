/-
Updates of settings.  Of a payload only the permitted members count; they are
merged into the view of the current settings, and the result is read again.
-/
import ContactPrivacy.Policy

namespace ContactPrivacy

/-- What an update may touch: a value as a whole, or members of an object. -/
inductive Permit where
  | leaf
  | branch (allowed : List (String × Permit))

namespace Permit

/-- The permit of a member, if it has one. -/
def find? (key : String) (allowed : List (String × Permit)) : Option Permit :=
  (allowed.find? fun entry => entry.1 == key).map Prod.snd

/-- The members of a field rule. -/
def fieldRule : Permit := .branch [("enabled", .leaf), ("pattern", .leaf)]

/-- Everything an update may touch. -/
def settings : List (String × Permit) :=
  [("masking_enabled", .leaf),
    ("masking_rules", .branch
      [("admin_bypass", .leaf), ("allow_reveal", .leaf), ("exempt_roles", .leaf),
        ("email", fieldRule), ("phone", fieldRule)])]

mutual

/-- The permitted part of a value; a value where members are expected has none. -/
def keep (permit : Permit) (value : Json) : Option Json :=
  match permit, value with
  | .leaf, value => some value
  | .branch allowed, .object members => some (.object (keepMembers allowed members))
  | .branch _, _ => none

/-- The permitted members of an object, in their order. -/
def keepMembers (allowed : List (String × Permit)) :
    List (String × Json) → List (String × Json)
  | [] => []
  | (key, value) :: rest =>
      match (find? key allowed).bind fun permit => keep permit value with
      | some kept => (key, kept) :: keepMembers allowed rest
      | none => keepMembers allowed rest

end

end Permit

/-- The permitted part of an update; a payload that is no object has none. -/
def permittedPart : Json → Members
  | .object members => Permit.keepMembers Permit.settings members
  | _ => []

mutual

/-- An object is merged into an object; any other value replaces what was there. -/
def mergeValue (base : Option Json) (update : Json) : Json :=
  match base, update with
  | some (.object members), .object changes => .object (mergeMembers members changes)
  | _, update => update

/-- Members are merged one after the other. -/
def mergeMembers (base : Members) : List (String × Json) → Members
  | [] => base
  | (key, value) :: rest =>
      mergeMembers (Assoc.put key (mergeValue (Assoc.get? key base) value) base) rest

end

namespace Settings

def members (settings : Settings) : Members :=
  [("masking_enabled", .bool settings.maskingEnabled),
    ("masking_rules", settings.rules.toJson)]

/-- The settings after an update of these. -/
def updated (current : Settings) (payload : Json) : Reading Settings :=
  ofMembers (mergeMembers current.members (permittedPart payload))

/-- The settings after an update; absent and malformed ones count as the defaults. -/
def applyUpdate (current : Given Settings) (payload : Json) : Logged (Reading Settings) := do
  let snapshot ← current.settings
  let result := (snapshot.getD default).updated payload
  match result with
  | .accepted _ => return result
  | .rejected issues =>
      Logged.report (.updateRejected issues.length)
      return result

/-- The headline over a rejected update. -/
def updateHeadline (issues : List Issue) : String :=
  "Invalid masking settings: " ++ toString issues.length ++ " error(s)"

end Settings

end ContactPrivacy
