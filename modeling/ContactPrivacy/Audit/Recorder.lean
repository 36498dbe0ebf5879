/-
The recorder builds audit records and hands them to its sink.  Events and
kinds of data outside the closed sets are dropped, and a sink that fails costs
the record but nothing else.
-/
import ContactPrivacy.Audit.Context
import ContactPrivacy.Audit.Difference
import ContactPrivacy.Audit.Query
import ContactPrivacy.Digest

namespace ContactPrivacy.Audit

/-- The event of an access: named by the caller, or one of the known kinds. -/
inductive EventRef where
  | given (value : Json)
  | known (kind : Kind)

namespace EventRef

def kind? : EventRef → Option Kind
  | .given value => Kind.ofJson? value
  | .known kind => some kind

/-- How a dropped event is named in the log; a known kind by its constant. -/
def literal : EventRef → String
  | .given value => value.literal
  | .known .dataRevealed => "AuditEventType.DATA_REVEALED"
  | .known .dataCopied => "AuditEventType.DATA_COPIED"
  | .known .settingsUpdated => "AuditEventType.SETTINGS_UPDATED"
  | .known .featureEnabled => "AuditEventType.FEATURE_ENABLED"
  | .known .featureDisabled => "AuditEventType.FEATURE_DISABLED"

end EventRef

/-- A recorder: where records go, and the salt of their digests. -/
structure Recorder where
  sink : Sink
  salt : String
deriving DecidableEq

/-- The role told of an actor without one. -/
def unknownRole : String := "unknown"

/-- A record about a user and an account, everything else unset. -/
def blankRecord (kind : Kind) (user : Option User) (accountId : Option Identifier) : Record :=
  { kind := kind
    actorId := user.bind User.id
    actorRole := ((user.bind User.role).filter (· ≠ "")).getD unknownRole
    accountId := accountId
    dataType := none
    action := none
    context := []
    changes := Changes.none
    switchedTo := none
    valueDigest := none }

/-- The action a context names, in its literal text. -/
def actionOf (context : Members) : Option String :=
  match Assoc.get? "action" context with
  | none | some .null => none
  | some value => some value.literal

/-- The digest of a value; a missing or empty one has none. -/
def digestOf (salt : String) (value : Option String) : Option String :=
  (value.filter (· ≠ "")).map fun text => Digest.ofText text salt

namespace Recorder

/-- Hand a record to the sink; the record comes back if the sink took it. -/
def emit (recorder : Recorder) (record : Record) : Logged (Option Record × Recorder) :=
  match recorder.sink.accept record with
  | .ok accepted =>
      ⟨(some record, { recorder with sink := accepted.answer }),
        accepted.events ++ [.recordEmitted record]⟩
  | .error reason => ⟨(none, recorder), [.sinkFailed record reason]⟩

/-- Build a record about a user and an account and hand it to the sink. -/
def emitFor (recorder : Recorder) (user : Given User) (account : Option AccountCard)
    (kind : Kind) (complete : Record → Record) : Logged (Option Record × Recorder) := do
  let user ← user.user
  let accountId ← AccountCard.accept account
  recorder.emit (complete (blankRecord kind user accountId))

/-- Record an access to data in a context.  Unknown events and data are dropped. -/
def recordMembers (recorder : Recorder) (user : Given User) (account : Option AccountCard)
    (event : EventRef) (field : Field) (context : Members) (value : Option String) :
    Logged (Option Record × Recorder) :=
  match event.kind?, field.dataType? with
  | some kind, some dataType =>
      let kept := filterMembers context
      recorder.emitFor user account kind fun record =>
        { record with
          dataType := some dataType
          action := actionOf kept
          context := kept
          valueDigest := digestOf recorder.salt value }
  | _, _ => ⟨(none, recorder), [.accessDropped event.literal field.toJson.literal]⟩

/-- Record an access to data.  A context that is no object is refused before
anything is read or logged, but after unknown events and data are dropped. -/
def recordAccess (recorder : Recorder) (user : Given User) (account : Option AccountCard)
    (event : EventRef) (field : Field) (context : Json) (value : Option String) :
    Except ContextError (Logged (Option Record × Recorder)) :=
  if event.kind?.isSome && field.dataType?.isSome then
    (contextMembers context).map fun members =>
      recorder.recordMembers user account event field members value
  else .ok (recorder.recordMembers user account event field [] value)

/-- Record what changed between two settings, if anything did. -/
def recordSettingsChange (recorder : Recorder) (user : Given User)
    (account : Option AccountCard) (before after : Given Settings) :
    Logged (Option Record × Recorder) := do
  let changes ← Changes.ofGiven before after
  if changes.isEmpty then return (none, recorder)
  else
    recorder.emitFor user account .settingsUpdated fun record => { record with changes := changes }

/-- Record that the masking feature was switched on or off. -/
def recordSwitch (recorder : Recorder) (user : Given User) (account : Option AccountCard)
    (enabled : Bool) : Logged (Option Record × Recorder) :=
  recorder.emitFor user account (if enabled then .featureEnabled else .featureDisabled)
    fun record => { record with switchedTo := some enabled }

end Recorder

end ContactPrivacy.Audit
