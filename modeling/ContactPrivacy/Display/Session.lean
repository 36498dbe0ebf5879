/-
The display of contact data to one user.  A session resolves its policy once,
masks values, keeps timed reveals and records reveals and copies for audit.
-/
import ContactPrivacy.Audit.Recorder
import ContactPrivacy.Protection
import ContactPrivacy.Reveal.Desk

namespace ContactPrivacy.Display

open Audit (Recorder EventRef)
open Reveal (Desk DeskCall DeskAnswer Handle HandleRef Reveals Timeline)

/-- The display of contact data to one user. -/
structure Session (T : Type) where
  policy : Policy
  account : Option AccountCard
  recorder : Recorder
  protection : Protection
  desk : Desk T

variable {T : Type}

namespace Session

/-- A session on a policy.  Reveals handed in are used if they hold a handle;
otherwise the session has its own. -/
def start (policy : Policy) (account : Option AccountCard) (recorder : Recorder)
    (durationMs : Number) (supplied : Option (Reveals T)) (now : T) : Session T :=
  let reveals :=
    match supplied.filter fun reveals => reveals.size ≠ 0 with
    | some reveals => reveals
    | none => Reveals.empty policy durationMs
  ⟨policy, account, recorder, Protection.ofUser policy.user, Desk.start reveals now⟩

def isProtected (session : Session T) : Bool := session.protection.isProtected

def reveals (session : Session T) : Reveals T := session.desk.reveals

def withReveals (session : Session T) (reveals : Reveals T) : Session T :=
  { session with desk := { session.desk with reveals := reveals } }

/-- Whether raw values of a kind of data may be linked to, the decision logged
for users who are not protected. -/
def rawVisible (session : Session T) (dataType : DataType) : Logged Bool :=
  if session.isProtected then pure false
  else do
    let decision ← session.policy.look (.known dataType)
    return !decision.shouldMask || session.policy.seesRaw

/-- Whether a value may be shown as a link. -/
def showsLink (session : Session T) (value : Option String) (dataType : DataType) :
    Logged Bool :=
  match value.filter (· ≠ "") with
  | some _ => session.rawVisible dataType
  | none => pure false

/-- The value a link leads to, if it may be seen. -/
def linkValue (session : Session T) (value : Option String) (field : Field) :
    Logged (Option String) :=
  match field.dataType? with
  | some dataType => do return if ← session.rawVisible dataType then value else none
  | none => pure none

/-- The context of an access, which names the action unless it does already. -/
def eventContext (context : Option Members) (action : String) : Members :=
  let members := context.getD []
  if (Assoc.get? "action" members).isSome then members
  else Assoc.put "action" (.string action) members

/-- Record an access by the session's user. -/
def record (session : Session T) (kind : Audit.Kind) (field : Field) (context : Members)
    (value : String) : Logged (Session T) := do
  let (_, recorder) ←
    session.recorder.recordMembers (.ready session.policy.user) session.account
      (.known kind) field context (some value)
  return { session with recorder := recorder }

/-- Record that the user copied a raw value.  Neither policy nor protection matters. -/
def copy (session : Session T) (value : Option String) (field : Field)
    (context : Option Members) : Logged (Session T) :=
  match value.filter (· ≠ "") with
  | some raw => session.record .dataCopied field (eventContext context "copy") raw
  | none => pure session

/-- A payload masked for the user, and how many values that changed. -/
def maskContact (session : Session T) (payload : Json) :
    Logged ((Json × Nat) × Session T) := do
  if session.isProtected then
    let (shown, protection) ← session.protection.sanitize payload
    return ((shown, protection.violations.length), { session with protection := protection })
  else
    return (← session.policy.maskContact payload, session)

/-- A reveal handle for a value, or none where the user may not reveal it. -/
def create (session : Session T) (value : Option String) (field : Field) (key : String) :
    Logged (Option HandleRef × Session T) := do
  if session.isProtected then return (none, session)
  else
    let decision ← session.policy.look field
    if decision.shouldMask && !session.policy.mayReveal field then return (none, session)
    else
      let (ref, reveals) ← session.reveals.create value field key
      return (some ref, session.withReveals reveals)

/-- Show the masked value of a key's handle again. -/
def hide (session : Session T) (key : String) : Option String × Session T :=
  match session.reveals.get? key with
  | some handle =>
      (some handle.masked, session.withReveals (session.reveals.setHandle key handle.hide))
  | none => (none, session)

/-- The handle a key holds, if it is for a value. -/
def handleFor? (session : Session T) (key : String) (raw : String) :
    Option (Reveal.TimedHandle T) :=
  (session.reveals.get? key).filter fun handle => handle.raw = raw

variable [Timeline T]

/-- The value to render for a field.  A reveal at the key counts if it is of
this same value and the user may reveal the field. -/
def display (session : Session T) (value : Option String) (field : Field)
    (key : Option String) : Logged (Option String × Session T) := do
  if session.isProtected then return (some Protection.mark, session)
  else
    match value.filter (· ≠ "") with
    | none => return (value, session)
    | some raw =>
        match ← session.policy.look field with
        | .unmasked => return (value, session)
        | .masked _ =>
            let key := key.filter fun key => key ≠ "" && session.policy.mayReveal field
            let stored? := key.bind fun key =>
              (session.handleFor? key raw).map fun handle => (key, handle)
            match stored? with
            | some (key, handle) =>
                let settled := handle.settle session.desk.now
                return (some settled.current,
                  session.withReveals (session.reveals.setHandle key settled))
            | none => return (← session.policy.mask field value, session)

/-- Reveal the handle that a key holds. -/
def revealStored (session : Session T) (key : String) : Session T :=
  match session.reveals.get? key with
  | some handle =>
      session.withReveals (session.reveals.setHandle key (handle.reveal session.desk.now))
  | none => session

/-- A handle of the value at the key, revealed: the one there is, or a new one. -/
def revealAt (session : Session T) (raw : String) (field : Field) (key : String) :
    Logged (Session T) := do
  match session.handleFor? key raw with
  | some _ => return session.revealStored key
  | none =>
      let (ref, reveals) ← session.reveals.create (some raw) field key
      match ref with
      | .timed _ => return (session.withReveals reveals).revealStored key
      | .passthrough _ => return session.withReveals reveals

/-- Reveal a value, record the access, and answer what is shown now.  Where
the user may not reveal it, the masked value is. -/
def reveal (session : Session T) (value : Option String) (field : Field) (key : String)
    (context : Option Members) : Logged (Option String × Session T) := do
  let refusal := Event.revealRefused key field.toJson.literal
  if session.isProtected then
    Logged.report refusal
    return (some Protection.mark, session)
  else
    match value.filter (· ≠ "") with
    | none => return (value, session)
    | some raw =>
        match ← session.policy.look field with
        | .unmasked => return (value, session)
        | .masked _ =>
            if session.policy.mayReveal field then
              let revealed ← session.revealAt raw field key
              let recorded ←
                revealed.record .dataRevealed field (eventContext context "reveal") raw
              return (some raw, recorded)
            else
              Logged.report refusal
              return (← session.policy.mask field value, session)

end Session

/-- What callers ask of a session. -/
inductive Call (T : Type) where
  | decision (field : Field)
  | isMaskingEnabled (field : Field)
  | canView
  | canReveal (field : Field)
  | isProtected
  | mask (value : Option String) (field : Field)
  | maskEmailList (value : Option String)
  | display (value : Option String) (field : Field) (key : Option String)
  | create (value : Option String) (field : Field) (key : String) (name : String)
  | reveal (value : Option String) (field : Field) (key : String) (context : Option Members)
  | hide (key : String)
  | copy (value : Option String) (field : Field) (context : Option Members)
  | showsLink (value : Option String) (dataType : DataType)
  | linkValue (value : Option String) (field : Field)
  | contact (payload : Json)
  | desk (call : DeskCall T)

/-- What a session answers. -/
inductive Answer (T : Type) where
  | nothing
  | text (value : Option String)
  | flag (value : Bool)
  | decision (decision : Decision)
  | handle (handle : Option (Handle T))
  | payload (payload : Json) (count : Nat)
  | desk (answer : DeskAnswer T)

namespace Session

variable [Timeline T]

/-- One call: its answer and the session after it. -/
def step (session : Session T) : Call T → Logged (Answer T × Session T)
  | .decision field => do return (.decision (← session.policy.look field), session)
  | .isMaskingEnabled field => do
      return (.flag (← session.policy.look field).shouldMask, session)
  | .canView => return (.flag session.policy.seesRaw, session)
  | .canReveal field => return (.flag (session.policy.mayReveal field), session)
  | .isProtected => return (.flag session.isProtected, session)
  | .mask value field => do return (.text (← session.policy.mask field value), session)
  | .maskEmailList value => do return (.text (← session.policy.maskEmailList value), session)
  | .display value field key => do
      let (shown, session) ← session.display value field key
      return (.text shown, session)
  | .create value field key name => do
      let (ref, session) ← session.create value field key
      return (.handle (ref.bind session.reveals.resolve?),
        { session with desk := session.desk.remember name ref })
  | .reveal value field key context => do
      let (shown, session) ← session.reveal value field key context
      return (.text shown, session)
  | .hide key =>
      let (shown, session) := session.hide key
      return (.text shown, session)
  | .copy value field context => do return (.nothing, ← session.copy value field context)
  | .showsLink value dataType => do return (.flag (← session.showsLink value dataType), session)
  | .linkValue value field => do return (.text (← session.linkValue value field), session)
  | .contact payload => do
      let ((shown, count), session) ← session.maskContact payload
      return (.payload shown count, session)
  | .desk call => do
      let (answer, desk) ← session.desk.step call
      return (.desk answer, { session with desk := desk })

/-- A whole run: the answers in order, and the session at the end. -/
def run (session : Session T) : List (Call T) → Logged (List (Answer T) × Session T)
  | [] => return ([], session)
  | call :: rest => do
      let (answer, session) ← session.step call
      let (answers, session) ← session.run rest
      return (answer :: answers, session)

end Session

end ContactPrivacy.Display
