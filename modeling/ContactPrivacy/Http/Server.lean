/-
The service over HTTP.  One recorder serves all requests; apart from its sink
the service keeps nothing between them.  Responses are written after a request is
served, which the service leaves to its framework.
-/
import ContactPrivacy.Configuration
import ContactPrivacy.Display.Session
import ContactPrivacy.Http.Request
import ContactPrivacy.Settings.Provision

namespace ContactPrivacy.Http

open Audit (EventRef Query Record Recorder Sink Store)
open Display (Session)
open Reveal (Seconds)

/-- What the service serves. -/
inductive Route where
  | root
  | health
  | maskValue
  | maskContact
  | resolvePolicy
  | patterns
  | updateSettings
  | switchFeature
  | recordAccess
  | auditLogs
deriving DecidableEq, Repr

namespace Route

def method : Route → String
  | .root | .health | .patterns | .auditLogs => "GET"
  | _ => "POST"

def path : Route → String
  | .root => "/"
  | .health => "/health"
  | .maskValue => "/mask/value"
  | .maskContact => "/mask/contact"
  | .resolvePolicy => "/policy/resolve"
  | .patterns => "/policy/patterns"
  | .updateSettings => "/settings/update"
  | .switchFeature => "/settings/feature"
  | .recordAccess => "/audit/access"
  | .auditLogs => "/audit/logs"

def all : List Route :=
  [.root, .health, .maskValue, .maskContact, .resolvePolicy, .patterns, .updateSettings,
    .switchFeature, .recordAccess, .auditLogs]

/-- The route of a path. -/
def ofPath? (path : String) : Option Route := all.find? fun route => route.path == path

end Route

/-- The service between two requests. -/
structure Server where
  configuration : Configuration
  recorder : Recorder

namespace Server

/-- The sink that a configuration names. -/
def configuredSink (configuration : Configuration) : Sink :=
  if configuration.auditSink = "log" then .log
  else .memory (Store.empty configuration.auditMaxRecords)

def start (configuration : Configuration) (sink : Sink) : Server :=
  ⟨configuration, ⟨sink, configuration.auditHashSalt⟩⟩

/-- A display session for one request; nothing is revealed in it. -/
def session (server : Server) (policy : Policy) : Session Seconds :=
  Session.start policy none server.recorder (.int server.configuration.revealDurationMs) none
    (Seconds.ofMs (.int 0))

def rootBody (configuration : Configuration) : Json :=
  .object [("service", .string configuration.appName), ("version", .string "1.0.0"),
    ("status", .string "operational")]

/-- One pattern with examples of what it shows. -/
def patternEntry (pattern : Pattern) (email phone description : String) : Json :=
  .object [("name", .string pattern.name), ("email", .string email), ("phone", .string phone),
    ("description", .string description)]

def patternsBody : Json :=
  .object [("patterns", .list
    [patternEntry .minimal "j***@example.com" "+1 ***-***-4567"
        "First character and full domain; country code and last 4 digits",
      patternEntry .standard "j***e@e***.com" "***-***-4567"
        "First and last character, masked domain; last 4 digits",
      patternEntry .complete "*** HIDDEN ***" "*** HIDDEN ***"
        "Nothing visible, even for malformed values"])]

/-- The value a user is shown, with the decision behind it. -/
def maskValue (server : Server) (request : MaskValue) : Logged Response := do
  let policy ← Policy.ofGiven request.settings (.ready request.user)
  let field := Field.known request.dataType
  let (shown, _) ← (server.session policy).display request.value field none
  let decision ← policy.look field
  return .ok (.object [("value", Json.ofText? shown), ("decision", decision.toJson),
    ("can_reveal", .bool (policy.mayReveal field))])

/-- The payload a user is shown. -/
def maskContact (server : Server) (request : MaskContact) : Logged Response := do
  let policy ← Policy.ofGiven request.settings (.ready request.user)
  let ((shown, count), _) ← (server.session policy).maskContact (.object request.contact)
  Logged.report (.contactMasked count)
  return .ok (.object [("contact", shown), ("masked_fields", Json.int count)])

def resolvePolicy (request : ResolvePolicy) : Logged Response := do
  let decision ← Policy.resolve request.settings (.ready request.user) (.known request.dataType)
  return .ok decision.toJson

/-- The settings after an update, and the records about it. -/
def updateSettings (server : Server) (request : UpdateSettings) :
    Logged (Response × Server) := do
  let (result, recorder) ←
    Settings.update server.recorder (.ready request.user)
      (request.account.map AccountCard.ofAccount) request.current (.object request.update)
  match result with
  | .accepted updated =>
      return (.ok (.object [("settings", updated.settings.view),
        ("audit_records", .list (updated.records.map Record.toJson))]),
        { server with recorder := recorder })
  | .rejected issues => return (.rejected issues, { server with recorder := recorder })

/-- Record a switch of the masking feature; without a record there is no answer. -/
def switchFeature (server : Server) (request : SwitchFeature) : Logged (Response × Server) := do
  let (record, recorder) ←
    server.recorder.recordSwitch (.ready request.user)
      (request.account.map AccountCard.ofAccount) request.enabled
  let response :=
    match record with
    | some record => .ok record.toJson
    | none => Response.failed 503 (.string "Audit sink unavailable")
  return (response, { server with recorder := recorder })

/-- Record an access; unknown events and kinds of data are ignored. -/
def recordAccess (server : Server) (request : RecordAccess) : Logged (Response × Server) := do
  let (record, recorder) ←
    server.recorder.recordMembers (.ready request.user)
      (request.account.map AccountCard.ofAccount) (.given (.string request.event))
      (Field.ofJson (.string request.dataType)) request.context none
  return (.ok (.object [("recorded", .bool record.isSome),
    ("record", (record.map Record.toJson).getD .null)]), { server with recorder := recorder })

/-- A page of the records kept in memory. -/
def auditLogs (server : Server) (query : Query) : Response :=
  match server.recorder.sink.store? with
  | some store =>
      .ok (.object [("records", .list ((query.page store.records).map Record.toJson)),
        ("total", Json.int (query.count store.records)), ("limit", Json.int query.limit),
        ("offset", Json.int query.offset)])
  | none => Response.failed 404 (.string "Audit records are not kept in memory")

/-- Answer a request that reads, and refuse one that does not. -/
def whenRead {α : Type} (server : Server) (reading : Except Response (Reading α))
    (answer : α → Logged (Response × Server)) : Logged (Response × Server) :=
  match reading with
  | .ok (.accepted request) => answer request
  | .ok (.rejected issues) => return (.rejected issues, server)
  | .error refusal => return (refusal, server)

/-- Answer a request on its route. -/
def serve (server : Server) (request : Request) : Route → Logged (Response × Server)
  | .root => return (.ok (rootBody server.configuration), server)
  | .health => return (.ok (.object [("status", .string "healthy")]), server)
  | .patterns => return (.ok patternsBody, server)
  | .maskValue =>
      server.whenRead (readBody MaskValue.ofMembers request.body) fun body => do
        return (← server.maskValue body, server)
  | .maskContact =>
      server.whenRead (readBody MaskContact.ofMembers request.body) fun body => do
        return (← server.maskContact body, server)
  | .resolvePolicy =>
      server.whenRead (readBody ResolvePolicy.ofMembers request.body) fun body => do
        return (← resolvePolicy body, server)
  | .updateSettings =>
      server.whenRead (readBody UpdateSettings.ofMembers request.body) server.updateSettings
  | .switchFeature =>
      server.whenRead (readBody SwitchFeature.ofMembers request.body) server.switchFeature
  | .recordAccess =>
      server.whenRead (readBody RecordAccess.ofMembers request.body) server.recordAccess
  | .auditLogs =>
      server.whenRead (.ok (readQuery request.query)) fun query =>
        return (server.auditLogs query, server)

/-- Answer one request. -/
def handle (server : Server) (request : Request) : Logged (Response × Server) :=
  match Route.ofPath? request.path with
  | none => return (.notFound, server)
  | some route =>
      if route.method = request.method then server.serve request route
      else return (.methodNotAllowed, server)

/-- Answer requests one after the other. -/
def handleAll (server : Server) : List Request → Logged (List Response × Server)
  | [] => return ([], server)
  | request :: rest => do
      let (response, server) ← server.handle request
      let (responses, server) ← server.handleAll rest
      return (response :: responses, server)

/-- The service from its start to its end. -/
def run (server : Server) (writes : Request → Response → Bool) (requests : List Request) :
    Logged (List Response) := do
  Logged.report (.serviceStarted server.configuration.auditSink)
  let (responses, _) ← server.handleAll requests
  Logged.report .serviceStopped
  return Response.sentAll writes requests responses

end Server

end ContactPrivacy.Http
