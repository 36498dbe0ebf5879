/-
The acting user of a request and the account that owns the data.
-/
import ContactPrivacy.Identifier

namespace ContactPrivacy

/-- What a user is inside the account. -/
inductive RoleType where
  | administrator
  | agent
  | other
deriving DecidableEq, Repr

namespace RoleType

def name : RoleType → String
  | .administrator => "administrator"
  | .agent => "agent"
  | .other => "other"

/-- Everything that is not the name of a role type counts as other. -/
def ofJson : Json → RoleType
  | .string s =>
      if s = "administrator" then .administrator
      else if s = "agent" then .agent
      else .other
  | _ => .other

end RoleType

/-- The acting user.  A protected user never receives contact data. -/
structure User where
  id : Option Identifier
  role : Option String
  roleType : RoleType
  isProtected : Bool
deriving DecidableEq

namespace User

/-- Null leaves a user unprotected. -/
def readProtection : Json → Reading Bool
  | .null => .accepted false
  | value => Reading.bool value

def ofMembers (members : Members) : Reading User :=
  User.mk
    <$> Reading.member members "id" none (Reading.optional Identifier.read)
    <*> Reading.member members "role" none (Reading.optional Reading.text)
    <*> Reading.member members "account_role_type" .other (fun value =>
      .accepted (RoleType.ofJson value))
    <*> Reading.member members "pii_masking_enabled" false readProtection

def read : Json → Reading User := Reading.ofObject (.notModel "UserContext") ofMembers

def toJson (user : User) : Json :=
  .object [("id", Identifier.toJson? user.id), ("role", Json.ofText? user.role),
    ("account_role_type", .string user.roleType.name),
    ("pii_masking_enabled", .bool user.isProtected)]

end User

/-- The account that owns the data. -/
structure Account where
  id : Option Identifier
  name : Option String
deriving DecidableEq

namespace Account

def ofMembers (members : Members) : Reading Account :=
  Account.mk
    <$> Reading.member members "id" none (Reading.optional Identifier.read)
    <*> Reading.member members "name" none (Reading.optional Reading.text)

def read : Json → Reading Account := Reading.ofObject (.notModel "AccountContext") ofMembers

def toJson (account : Account) : Json :=
  .object [("id", Identifier.toJson? account.id), ("name", Json.ofText? account.name)]

end Account

/-- An account as a caller hands it over, not read yet: whatever stands for its
identifier and its name. -/
structure AccountCard where
  id : Json
  name : Json
deriving DecidableEq

namespace AccountCard

/-- The identifier and the name of an object; other values have neither. -/
def ofJson : Json → AccountCard
  | .object members =>
      ⟨(Assoc.get? "id" members).getD .null, (Assoc.get? "name" members).getD .null⟩
  | _ => ⟨.null, .null⟩

def ofAccount (account : Account) : AccountCard :=
  ⟨Identifier.toJson? account.id, Json.ofText? account.name⟩

/-- A caller's account, which null leaves out. -/
def ofJson? : Json → Option AccountCard
  | .null => none
  | value => some (ofJson value)

/-- Identifiers of any kind are kept, those that are neither integers nor
texts by their literal text. -/
def identifier (card : AccountCard) : Option Identifier :=
  match card.id with
  | .null => none
  | .number (.int n) => some (.int n)
  | .bool b => some (.int (if b then 1 else 0))
  | value => some (.text value.literal)

/-- The issues of the name; a bad name never costs the identifier. -/
def nameIssues (card : AccountCard) : List Issue :=
  (Reading.optional Reading.text card.name).issues

end AccountCard

end ContactPrivacy
