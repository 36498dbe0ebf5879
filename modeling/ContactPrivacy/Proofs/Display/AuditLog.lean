/-
The audit log of a session.  What is handed to the sink is told by the calls
alone: a granted reveal and a copy of contact data hand over one record each,
and nothing else hands over any.
-/
import ContactPrivacy.Proofs.Audit.Access
import ContactPrivacy.Proofs.Display.Disclosure

namespace ContactPrivacy

open Audit (Recorder Sink filterMembers)
open Reveal (Desk DeskCall Reveals Timeline)

variable {T : Type}

/-- An access to contact data that is audited: what it is called, the value,
and the context that the caller gave. -/
structure Access where
  kind : Audit.Kind
  action : String
  dataType : DataType
  raw : String
  context : Members

namespace Access

/-- The members that are recorded of the context.  The action is named unless
the caller names one. -/
def kept (access : Access) : Members :=
  filterMembers
    (if (Assoc.get? "action" access.context).isSome then access.context
    else access.context ++ [("action", .string access.action)])

/-- The record of an access.  It names the account by the integer or the text that
identifies it, by one or zero for a truth value, and by the literal text of anything
else. -/
def record (access : Access) (user : Option User) (account : Option AccountCard)
    (salt : String) : Audit.Record :=
  { kind := access.kind
    actorId := user.bind User.id
    actorRole :=
      match user.bind User.role with
      | some role => if role = "" then "unknown" else role
      | none => "unknown"
    accountId :=
      match Audit.givenId account with
      | .null => none
      | .bool b => some (.int (if b then 1 else 0))
      | .number (.int n) => some (.int n)
      | .string text => some (.text text)
      | other => some (.text other.literal)
    dataType := some access.dataType
    action :=
      match Assoc.get? "action" access.kept with
      | none | some .null => none
      | some value => some value.literal
    context := access.kept
    changes := .none
    switchedTo := none
    valueDigest := some (Digest.ofText access.raw salt) }

end Access

theorem Policy.handedRecords_maskContact (policy : Policy) (payload : Json) :
    handedRecords (policy.maskContact payload).events = [] := by
  simp [maskContact, handedRecords, Event.handed?]

theorem Policy.handedRecords_maskEmailList (policy : Policy) (value : Option String) :
    handedRecords (policy.maskEmailList value).events = [] := by
  rw [maskEmailList, Logged.events_bind]
  split <;> rfl

theorem Protection.handedRecords_sanitize (protection : Protection) (payload : Json) :
    handedRecords (protection.sanitize payload).events = [] := by
  unfold sanitize
  split
  · simp only [reports]
    split <;> simp [handedRecords, Event.handed?]
  · rfl

theorem Reveal.Desk.handedRecords_step [Timeline T] (desk : Desk T) (call : DeskCall T) :
    handedRecords (desk.step call).events = [] := by
  cases call with
  | create value field key name =>
      simp only [step, Logged.events_bind, Logged.events_pure, List.append_nil]
      exact desk.reveals.handedRecords_create value field key
  | _ => rfl

namespace Display.Session

theorem handedRecords_rawVisible (session : Session T) (dataType : DataType) :
    handedRecords (session.rawVisible dataType).events = [] := by
  unfold rawVisible
  split <;> rfl

theorem handedRecords_showsLink (session : Session T) (value : Option String)
    (dataType : DataType) : handedRecords (session.showsLink value dataType).events = [] := by
  unfold showsLink
  split
  · exact session.handedRecords_rawVisible dataType
  · rfl

theorem handedRecords_linkValue (session : Session T) (value : Option String) (field : Field) :
    handedRecords (session.linkValue value field).events = [] := by
  unfold linkValue
  split
  · next dataType _ =>
      simp only [Logged.events_bind, Logged.events_pure, List.append_nil]
      exact session.handedRecords_rawVisible dataType
  · rfl

variable [Timeline T]

end Display.Session

end ContactPrivacy
