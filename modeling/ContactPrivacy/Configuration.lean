/-
The configuration of the service, from the variables of its environment.
-/
import ContactPrivacy.Json.Reader
import ContactPrivacy.Validation.Scalar

namespace ContactPrivacy

/-- The configuration of the service. -/
structure Configuration where
  appName : String
  debug : Bool
  environment : String
  allowedOrigins : List String
  revealDurationMs : Int
  auditSink : String
  auditHashSalt : String
  auditMaxRecords : Int
deriving DecidableEq

/-- Why an environment gives no configuration: a list that is not written in
JSON, or values that do not read. -/
inductive ConfigurationError where
  | malformed (setting : String)
  | invalid (issues : List Issue)
deriving DecidableEq

namespace ConfigurationError

def message : ConfigurationError → String
  | .malformed setting =>
      "error parsing value for field \"" ++ setting ++ "\" from source \"EnvSettingsSource\""
  | .invalid issues => Issue.headline "Settings" issues

end ConfigurationError

namespace Configuration

/-- The configuration of an empty environment. -/
def default : Configuration where
  appName := "PII Masking Engine"
  debug := false
  environment := "development"
  allowedOrigins := ["http://localhost:3000"]
  revealDurationMs := 3000
  auditSink := "memory"
  auditHashSalt := ""
  auditMaxRecords := 10000

/-- A letter without its case; the Kelvin sign is a capital k. -/
def lowerLetter (c : Char) : Char := if c = '\u212A' then 'k' else c.toLower

def lowerName (s : String) : String := String.ofList (s.toList.map lowerLetter)

/-- The value of a variable, the case of its name aside; the last one counts. -/
def setTo? (name : String) (environment : List (String × String)) : Option String :=
  (environment.reverse.find? fun entry => lowerName entry.1 == lowerName name).map Prod.snd

/-- The variables that are texts as values to be read. -/
def given (environment : List (String × String)) (name : String) : Members :=
  match setTo? name environment with
  | some value => [(name, .string value)]
  | none => []

/-- The list of origins as a value to be read; null leaves the default. -/
def givenOrigins (environment : List (String × String)) : Except ConfigurationError Members :=
  match setTo? "ALLOWED_ORIGINS" environment with
  | none => .ok []
  | some text =>
      match Json.read text.toList with
      | .ok .null => .ok []
      | .ok value => .ok [("ALLOWED_ORIGINS", value)]
      | .error _ => .error (.malformed "ALLOWED_ORIGINS")

/-- A list of texts. -/
def readOrigins : Json → Reading (List String)
  | .list items => Reading.items Reading.text 0 items
  | _ => Reading.fault .notList

/-- The configuration that an environment gives. -/
def ofEnvironment (environment : List (String × String)) :
    Except ConfigurationError Configuration := do
  let origins ← givenOrigins environment
  let setting := fun {α : Type} (name : String) (value : α) (read : Json → Reading α) =>
    Reading.member (given environment name) name value read
  let reading := Configuration.mk
    <$> setting "APP_NAME" default.appName Reading.text
    <*> setting "DEBUG" default.debug Reading.bool
    <*> setting "ENVIRONMENT" default.environment Reading.text
    <*> Reading.member origins "ALLOWED_ORIGINS" default.allowedOrigins readOrigins
    <*> setting "REVEAL_DURATION_MS" default.revealDurationMs Reading.int
    <*> setting "AUDIT_SINK" default.auditSink Reading.text
    <*> setting "AUDIT_HASH_SALT" default.auditHashSalt Reading.text
    <*> setting "AUDIT_MAX_RECORDS" default.auditMaxRecords Reading.int
  match reading with
  | .accepted configuration => return configuration
  | .rejected issues => throw (.invalid issues)

def toJson (configuration : Configuration) : Json :=
  .object [("APP_NAME", .string configuration.appName), ("DEBUG", .bool configuration.debug),
    ("ENVIRONMENT", .string configuration.environment),
    ("ALLOWED_ORIGINS", .list (configuration.allowedOrigins.map Json.string)),
    ("REVEAL_DURATION_MS", Json.int configuration.revealDurationMs),
    ("AUDIT_SINK", .string configuration.auditSink),
    ("AUDIT_HASH_SALT", .string configuration.auditHashSalt),
    ("AUDIT_MAX_RECORDS", Json.int configuration.auditMaxRecords)]

end Configuration

end ContactPrivacy
