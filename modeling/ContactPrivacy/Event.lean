/-
What is logged: events as data, and the one place that writes them out.  An
event about a record holds the record, so that a log tells every record that
was handed to a sink; what is written out of it is less.
-/
import ContactPrivacy.Audit.Record
import ContactPrivacy.Decision

namespace ContactPrivacy

open Audit (Record)

/-- How much an event matters. -/
inductive Level where
  | debug
  | info
  | warning
  | error
deriving DecidableEq, Repr

def Level.name : Level → String
  | .debug => "debug"
  | .info => "info"
  | .warning => "warning"
  | .error => "error"

/-- Something worth a line in the log. -/
inductive Event where
  | settingsMalformed (errors : Nat)
  | userMalformed (errors : Nat)
  | accountMalformed (errors : Nat)
  | decisionResolved (field : Json) (decision : Decision)
  | accessDropped (event : String) (dataType : String)
  | recordEmitted (record : Record)
  | sinkFailed (record : Record) (reason : String)
  | recordWritten (record : Record)
  | updateRejected (errors : Nat)
  | settingsUpdated (changed : Bool) (maskingEnabled : Bool)
  | accessAttempted (userId : Option Identifier)
  | payloadSanitized (userId : Option Identifier) (violations : Nat)
  | fieldSanitized (field : String) (digest : String)
  | handleCreated (key : String) (durationMs : Number)
  | revealRefused (key : String) (dataType : String)
  | contactMasked (maskedFields : Nat)
  | serviceStarted (sink : String)
  | serviceStopped
deriving DecidableEq

namespace Event

def level : Event → Level
  | .settingsMalformed _ | .userMalformed _ | .accountMalformed _ => .warning
  | .decisionResolved .. | .accessDropped .. | .handleCreated .. => .debug
  | .recordEmitted _ | .recordWritten _ | .settingsUpdated .. | .accessAttempted _ => .info
  | .sinkFailed .. => .error
  | .updateRejected _ | .payloadSanitized .. | .fieldSanitized .. | .revealRefused .. => .warning
  | .contactMasked _ | .serviceStarted _ | .serviceStopped => .info

def message : Event → String
  | .settingsMalformed _ => "masking_settings_malformed"
  | .userMalformed _ => "user_context_malformed"
  | .accountMalformed _ => "account_context_malformed"
  | .decisionResolved .. => "masking_decision_resolved"
  | .accessDropped .. => "audit_event_dropped"
  | .recordEmitted _ => "audit_record_emitted"
  | .sinkFailed .. => "audit_sink_failed"
  | .recordWritten _ => "masking_audit"
  | .updateRejected _ => "masking_settings_update_rejected"
  | .settingsUpdated .. => "masking_settings_updated"
  | .accessAttempted _ => "pii_access_attempt"
  | .payloadSanitized .. => "pii_data_sanitized"
  | .fieldSanitized .. => "pii_field_sanitized"
  | .handleCreated .. => "reveal_handle_created"
  | .revealRefused .. => "reveal_not_permitted"
  | .contactMasked _ => "contact_masked"
  | .serviceStarted _ => "Starting PII Masking Engine"
  | .serviceStopped => "Shutting down PII Masking Engine"

/-- The members of a log line that are the event's own. -/
def fields : Event → Members
  | .settingsMalformed errors | .userMalformed errors | .accountMalformed errors
  | .updateRejected errors => [("errors", Json.int errors)]
  | .decisionResolved field decision =>
      [("field", field), ("should_mask", .bool decision.shouldMask),
        ("pattern", decision.patternJson)]
  | .accessDropped event dataType =>
      [("audit_event", .string event), ("data_type", .string dataType)]
  | .recordEmitted record =>
      [("audit_event", record.kind.toJson), ("actor_id", Identifier.toJson? record.actorId)]
  | .sinkFailed record reason =>
      [("audit_event", record.kind.toJson), ("error", .string reason)]
  | .recordWritten record => [("record", record.toJson)]
  | .settingsUpdated changed maskingEnabled =>
      [("changed", .bool changed), ("masking_enabled", .bool maskingEnabled)]
  | .accessAttempted userId => [("user_id", Identifier.toJson? userId)]
  | .payloadSanitized userId violations =>
      [("user_id", Identifier.toJson? userId), ("violations", Json.int violations)]
  | .fieldSanitized field digest =>
      [("field", .string field), ("value_hash", .string digest)]
  | .handleCreated key durationMs =>
      [("reveal_key", .string key), ("duration_ms", .number durationMs)]
  | .revealRefused key dataType =>
      [("reveal_key", .string key), ("data_type", .string dataType)]
  | .contactMasked maskedFields => [("masked_fields", Json.int maskedFields)]
  | .serviceStarted sink => [("audit_sink", .string sink)]
  | .serviceStopped => []

/-- The log line of an event. -/
def toJson (event : Event) : Json :=
  .object (("event", .string event.message) :: ("log_level", .string event.level.name) ::
    event.fields)

/-- The record that an event says was handed to the sink. -/
def handed? : Event → Option Record
  | .recordEmitted record => some record
  | .sinkFailed record _ => some record
  | _ => none

end Event

/-- The records handed to a sink while some events were logged, in order. -/
def handedRecords (events : List Event) : List Record := events.filterMap Event.handed?

@[simp] theorem handedRecords_append (first second : List Event) :
    handedRecords (first ++ second) = handedRecords first ++ handedRecords second := by
  simp [handedRecords]

end ContactPrivacy
