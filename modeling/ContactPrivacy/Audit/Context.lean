/-
The context of an audit record.  Only four keys are kept; three of them also
under a second spelling, of which the later one counts.
-/
import ContactPrivacy.Json.Value

namespace ContactPrivacy.Audit

/-- Why a context cannot be used. -/
inductive ContextError where
  | notAnObject
deriving DecidableEq, Repr

/-- The keys a context keeps, with all their spellings. -/
def contextSpellings : List (String × String) :=
  [("contact_id", "contact_id"), ("conversation_id", "conversation_id"),
    ("message_id", "message_id"), ("action", "action"), ("contactId", "contact_id"),
    ("conversationId", "conversation_id"), ("messageId", "message_id")]

/-- The key that a spelling stands for. -/
def canonicalKey? (key : String) : Option String :=
  (contextSpellings.find? fun spelling => spelling.1 == key).map Prod.snd

/-- Write a member under the key it stands for, if it stands for one. -/
def keepMember (kept : Members) (member : String × Json) : Members :=
  match canonicalKey? member.1 with
  | some key => Assoc.put key member.2 kept
  | none => kept

/-- The members a context keeps: each key where it first came, with its last value. -/
def filterMembers (members : Members) : Members := members.foldl keepMember []

/-- The members of a context.  Whatever counts as false is an empty context. -/
def contextMembers (context : Json) : Except ContextError Members :=
  match context with
  | .object members => .ok members
  | value => if value.truthy then .error .notAnObject else .ok []

/-- The kept part of a context. -/
def filterContext (context : Json) : Except ContextError Members :=
  (contextMembers context).map filterMembers

end ContactPrivacy.Audit
