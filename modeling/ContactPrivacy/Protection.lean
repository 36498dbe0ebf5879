/-
Protection of users who must never receive contact data.  Whatever the keys of
contact data hold is replaced, and its digest is kept as evidence.
-/
import ContactPrivacy.Contact
import ContactPrivacy.Digest

namespace ContactPrivacy

/-- A replaced value: the key that held it, and its digest. -/
structure Violation where
  field : String
  digest : String
deriving DecidableEq, Repr

def Violation.toJson (violation : Violation) : Json :=
  .object [("field", .string violation.field), ("value_hash", .string violation.digest)]

namespace Protection

/-- What stands for a protected value. -/
def mark : String := "[PROTECTED]"

def isProtectedKey (key : String) : Bool := (Contact.dataType? key).isSome

/-- Null and the empty text hold nothing to protect. -/
def isBlank (value : Json) : Bool := value = .null || value = .string ""

/-- What is shown of the value of a protected key. -/
def shield (value : Json) : Json := if isBlank value then value else .string mark

/-- The evidence that the value of a protected key was replaced. -/
def evidence (key : String) (value : Json) : List Violation :=
  if isBlank value then [] else [⟨key, Digest.ofText value.literal ""⟩]

mutual

/-- A payload without anything a protected key holds. -/
def sanitized : Json → Json
  | .object members => .object (sanitizedMembers members)
  | .list items => .list (sanitizedItems items)
  | value => value

def sanitizedItems : List Json → List Json
  | [] => []
  | item :: rest => sanitized item :: sanitizedItems rest

def sanitizedMembers : List (String × Json) → List (String × Json)
  | [] => []
  | (key, value) :: rest =>
      (key, if isProtectedKey key then shield value else sanitized value) ::
        sanitizedMembers rest

end

mutual

/-- The evidence of a payload's replacements, in document order. -/
def replacements : Json → List Violation
  | .object members => replacementsOfMembers members
  | .list items => replacementsOfItems items
  | _ => []

def replacementsOfItems : List Json → List Violation
  | [] => []
  | item :: rest => replacements item ++ replacementsOfItems rest

def replacementsOfMembers : List (String × Json) → List Violation
  | [] => []
  | (key, value) :: rest =>
      (if isProtectedKey key then evidence key value else replacements value) ++
        replacementsOfMembers rest

end

/-- How much of a digest is logged. -/
def loggedDigest (digest : String) : String := String.ofList (digest.toList.take 11)

/-- What is logged when replacements were made. -/
def reports (userId : Option Identifier) (found : List Violation) : List Event :=
  if found.isEmpty then []
  else
    .payloadSanitized userId found.length ::
      found.map fun violation => .fieldSanitized violation.field (loggedDigest violation.digest)

end Protection

/-- The protection of one user, with the evidence of the last payload. -/
structure Protection where
  user : Option User
  violations : List Violation
deriving DecidableEq

namespace Protection

def ofUser (user : Option User) : Protection := ⟨user, []⟩

def isProtected (protection : Protection) : Bool := protection.user.any User.isProtected

/-- A payload as the user may receive it.  The evidence of the call before is
forgotten; a user who is not protected receives the payload itself. -/
def sanitize (protection : Protection) (payload : Json) : Logged (Json × Protection) :=
  if protection.isProtected then
    let userId := protection.user.bind User.id
    let found := replacements payload
    ⟨(sanitized payload, { protection with violations := found }),
      .accessAttempted userId :: reports userId found⟩
  else ⟨(payload, { protection with violations := [] }), []⟩

end Protection

end ContactPrivacy
