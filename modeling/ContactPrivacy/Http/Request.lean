/-
Requests and responses, and what the service expects in them.
-/
import ContactPrivacy.Audit.Query
import ContactPrivacy.Json.Message
import ContactPrivacy.Policy

namespace ContactPrivacy.Http

/-- A request.  An empty body is the same as none. -/
structure Request where
  method : String
  path : String
  query : List (String × String)
  body : String

/-- A response with a JSON body; plain text is told as a text. -/
structure Response where
  status : Nat
  body : Json
deriving DecidableEq

namespace Response

def ok (body : Json) : Response := ⟨200, body⟩

/-- An error, told under the key `detail`. -/
def failed (status : Nat) (detail : Json) : Response := ⟨status, .object [("detail", detail)]⟩

/-- Everything that is wrong with a request. -/
def rejected (issues : List Issue) : Response := failed 422 (.list (issues.map Issue.toJson))

/-- A body that cannot be read at all. -/
def unreadable : Response := failed 400 (.string "There was an error parsing the body")

def notFound : Response := failed 404 (.string "Not Found")

def methodNotAllowed : Response := failed 405 (.string "Method Not Allowed")

/-- What is sent in place of a response that cannot be written. -/
def unwritten : Response := ⟨500, .string "Internal Server Error"⟩

/-- A response as it is sent. -/
def sent (response : Response) (written : Bool) : Response :=
  if written then response else unwritten

/-- The responses to some requests as they are sent. -/
def sentAll (writes : Request → Response → Bool) (requests : List Request)
    (responses : List Response) : List Response :=
  List.zipWith (fun request response => response.sent (writes request response)) requests
    responses

end Response

/-- The body of a request read as a JSON object, issues told from `body`.  A
body that is text but no JSON has an issue; any other that cannot be read is
refused as a whole. -/
def readBody {α : Type} (read : Members → Reading α) (body : String) :
    Except Response (Reading α) :=
  if body = "" then .ok (.rejected [⟨[.key "body"], .missing⟩])
  else
    match Json.readMessage body with
    | .ok value => .ok ((Reading.ofObject .notRequestModel read value).under (.key "body"))
    | .error (.malformed position) =>
        .ok (.rejected [⟨[.key "body", .index position], .notJson⟩])
    | .error .longInteger | .error .undecodable => .error Response.unreadable

/-- The acting user in a body; null is none. -/
def readUser (members : Members) : Reading (Option User) :=
  Reading.member members "user" none
    (Reading.optional (Reading.ofObject .notRequestModel User.ofMembers))

/-- The account in a body; null is none. -/
def readAccount (members : Members) : Reading (Option Account) :=
  Reading.member members "account" none
    (Reading.optional (Reading.ofObject .notRequestModel Account.ofMembers))

/-- Settings in a body, which are only read on use; null is none. -/
def readSettings (members : Members) (name : String) : Reading (Given Settings) :=
  (Reading.member members name none (Reading.optional Reading.dictionary)).map fun
    | some members => .raw (.object members)
    | none => .ready none

/-- A kind of data in a body. -/
def readDataType (members : Members) : Reading DataType :=
  Reading.required members "data_type" (Reading.choice DataType.byName)

/-- A value to be shown to a user. -/
structure MaskValue where
  value : Option String
  dataType : DataType
  settings : Given Settings
  user : Option User

def MaskValue.ofMembers (members : Members) : Reading MaskValue :=
  MaskValue.mk
    <$> Reading.member members "value" none (Reading.optional Reading.text)
    <*> readDataType members
    <*> readSettings members "settings"
    <*> readUser members

/-- A payload to be shown to a user. -/
structure MaskContact where
  contact : Members
  settings : Given Settings
  user : Option User

def MaskContact.ofMembers (members : Members) : Reading MaskContact :=
  MaskContact.mk
    <$> Reading.required members "contact" Reading.dictionary
    <*> readSettings members "settings"
    <*> readUser members

/-- A question about the policy for a field. -/
structure ResolvePolicy where
  settings : Given Settings
  user : Option User
  dataType : DataType

def ResolvePolicy.ofMembers (members : Members) : Reading ResolvePolicy :=
  ResolvePolicy.mk
    <$> readSettings members "settings"
    <*> readUser members
    <*> readDataType members

/-- An update of settings. -/
structure UpdateSettings where
  user : Option User
  account : Option Account
  current : Given Settings
  update : Members

def UpdateSettings.ofMembers (members : Members) : Reading UpdateSettings :=
  UpdateSettings.mk
    <$> readUser members
    <*> readAccount members
    <*> readSettings members "current_settings"
    <*> Reading.required members "update" Reading.dictionary

/-- A switch of the masking feature. -/
structure SwitchFeature where
  user : Option User
  account : Option Account
  enabled : Bool

def SwitchFeature.ofMembers (members : Members) : Reading SwitchFeature :=
  SwitchFeature.mk
    <$> readUser members
    <*> readAccount members
    <*> Reading.required members "enabled" Reading.bool

/-- An access to be recorded. -/
structure RecordAccess where
  user : Option User
  account : Option Account
  event : String
  dataType : String
  context : Members

def RecordAccess.ofMembers (members : Members) : Reading RecordAccess :=
  RecordAccess.mk
    <$> readUser members
    <*> readAccount members
    <*> Reading.required members "event" Reading.text
    <*> Reading.required members "data_type" Reading.text
    <*> Reading.member members "context" [] Reading.dictionary

/-- The most records one page may ask for. -/
def greatestLimit : Int := 1000

/-- An integer up to the greatest limit. -/
def readLimit (value : Json) : Reading Int :=
  match Reading.int value with
  | .accepted n => if n ≤ greatestLimit then .accepted n else Reading.fault (.above greatestLimit)
  | rejected => rejected

/-- The query of a request for audit records; of a repeated name the last counts. -/
def readQuery (query : List (String × String)) : Reading Audit.Query :=
  let members : Members := Assoc.ofPairs (query.map fun (name, value) => (name, .string value))
  let reading := Audit.Query.mk
    <$> Reading.member members "event" none (Reading.present (Reading.choice Audit.Kind.byName))
    <*> Reading.member members "actor_id" none (Reading.present Reading.text)
    <*> Reading.member members "data_type" none (Reading.present (Reading.choice DataType.byName))
    <*> Reading.member members "limit" Audit.Query.defaultLimit readLimit
    <*> Reading.member members "offset" 0 Reading.int
  reading.under (.key "query")

end ContactPrivacy.Http
