/-
Audit failures never change what a session does.  Beside a session that keeps
its records in memory stands one whose sink fails on every record.  Whatever is
done with the two, and with the settings over their recorders, both give the
same answers and hold the same reveals after every step.
-/
import ContactPrivacy.Proofs.Audit.Failure
import ContactPrivacy.Proofs.Display.AuditLog

namespace ContactPrivacy.Display

open Audit (Recorder Sink Store)
open Reveal (Reveals Timeline)
open Settings (Updated)

variable {T : Type}

/-- What is done during a session: a call of it, or an update of some settings
by some user that is recorded where the session records. -/
inductive Activity (T : Type) where
  | call (call : Call T)
  | update (user : Given User) (account : Option AccountCard) (current : Given Settings)
      (payload : Json)

inductive Outcome (T : Type) where
  | answered (answer : Answer T)
  | updated (result : Reading Updated)

def Outcome.unrecorded : Outcome T → Outcome T
  | .answered answer => .answered answer
  | .updated result => .updated (Updated.unrecorded <$> result)

structure Stage (T : Type) where
  outcome : Outcome T
  session : Session T

namespace Session

def withSink (session : Session T) (sink : Sink) : Session T :=
  { session with recorder := { session.recorder with sink := sink } }

section Fields

variable (session : Session T) (sink : Sink)

@[simp] theorem withSink_policy : (session.withSink sink).policy = session.policy := rfl

@[simp] theorem withSink_desk : (session.withSink sink).desk = session.desk := rfl

@[simp] theorem withSink_reveals : (session.withSink sink).reveals = session.reveals := rfl

@[simp] theorem withSink_handleFor? (key raw : String) :
    (session.withSink sink).handleFor? key raw = session.handleFor? key raw := rfl

end Fields

/-- A session that keeps its records in memory, and the same session with a
sink that fails. -/
structure Counterpart (reason : String) (kept failing : Session T) : Prop where
  keeps : ∃ store, kept.recorder.sink = .memory store
  fails : failing = kept.withSink (.broken reason)

/-- The same answer from both sessions. -/
structure Gives {α : Type} (reason : String) (kept failing : α × Session T) : Prop where
  answer : failing.1 = kept.1
  session : Counterpart reason kept.2 failing.2

variable {reason : String} {kept failing : Session T}

theorem Counterpart.recorder (hsession : Counterpart reason kept failing) :
    Recorder.Counterpart reason kept.recorder failing.recorder :=
  ⟨hsession.keeps, hsession.fails ▸ rfl⟩

/-- Sessions that go on with other recorders, of which one fails. -/
theorem Counterpart.withRecorder (session : Session T) {kept failing : Recorder}
    (hrecorder : Recorder.Counterpart reason kept failing) :
    Counterpart reason { session with recorder := kept } { session with recorder := failing } := by
  obtain ⟨hkeeps, rfl⟩ := hrecorder
  exact ⟨hkeeps, rfl⟩

/-- Sessions that go on with the same reveals. -/
theorem Counterpart.withReveals (hsession : Counterpart reason kept failing)
    (reveals : Reveals T) :
    Counterpart reason (kept.withReveals reveals) (failing.withReveals reveals) := by
  obtain ⟨hkeeps, rfl⟩ := hsession
  exact ⟨hkeeps, rfl⟩

theorem Counterpart.record (hsession : Counterpart reason kept failing) (kind : Audit.Kind)
    (field : Field) (context : Members) (value : String) :
    Logged.Counterpart reason (Counterpart reason) (kept.record kind field context value)
      (failing.record kind field context value) := by
  obtain rfl := hsession.fails
  exact .bind (hsession.recorder.recordMembers ..) fun hrecorded =>
    .pure (.withRecorder kept hrecorded.recorder)

theorem Counterpart.copy (hsession : Counterpart reason kept failing) (value : Option String)
    (field : Field) (context : Option Members) :
    Logged.Counterpart reason (Counterpart reason) (kept.copy value field context)
      (failing.copy value field context) := by
  unfold Session.copy
  split
  · exact hsession.record ..
  · exact .pure hsession

theorem Counterpart.hide (hsession : Counterpart reason kept failing) (key : String) :
    Gives reason (kept.hide key) (failing.hide key) := by
  obtain ⟨hkeeps, rfl⟩ := hsession
  simp only [Session.hide, withSink_reveals]
  split
  · exact ⟨rfl, hkeeps, rfl⟩
  · exact ⟨rfl, hkeeps, rfl⟩

theorem Counterpart.maskContact (hsession : Counterpart reason kept failing) (payload : Json) :
    Logged.Counterpart reason (Gives reason) (kept.maskContact payload)
      (failing.maskContact payload) := by
  obtain ⟨hkeeps, rfl⟩ := hsession
  refine .ite ?_ ?_
  · exact .bind_silent _ (kept.protection.handedRecords_sanitize payload)
      (.pure ⟨rfl, hkeeps, rfl⟩)
  · exact .bind_silent _ (kept.policy.handedRecords_maskContact payload)
      (.pure ⟨rfl, hkeeps, rfl⟩)

theorem Counterpart.create (hsession : Counterpart reason kept failing)
    (value : Option String) (field : Field) (key : String) :
    Logged.Counterpart reason (Gives reason) (kept.create value field key)
      (failing.create value field key) := by
  obtain ⟨hkeeps, rfl⟩ := hsession
  refine .ite (.pure ⟨rfl, hkeeps, rfl⟩) (.bind_silent _ rfl (.ite ?_ ?_))
  · exact .pure ⟨rfl, hkeeps, rfl⟩
  · exact .bind_silent _ (kept.reveals.handedRecords_create value field key)
      (.pure ⟨rfl, hkeeps, rfl⟩)

variable [Timeline T]

theorem Counterpart.display (hsession : Counterpart reason kept failing)
    (value : Option String) (field : Field) (key : Option String) :
    Logged.Counterpart reason (Gives reason) (kept.display value field key)
      (failing.display value field key) := by
  obtain ⟨hkeeps, rfl⟩ := hsession
  refine .ite (.pure ⟨rfl, hkeeps, rfl⟩) ?_
  simp only [withSink_policy, withSink_reveals, withSink_desk, withSink_handleFor?]
  split
  · exact .pure ⟨rfl, hkeeps, rfl⟩
  · refine .bind_silent _ rfl ?_
    split
    · exact .pure ⟨rfl, hkeeps, rfl⟩
    · split
      · exact .pure ⟨rfl, hkeeps, rfl⟩
      · exact .bind_silent _ rfl (.pure ⟨rfl, hkeeps, rfl⟩)

theorem Counterpart.revealStored (hsession : Counterpart reason kept failing) (key : String) :
    Counterpart reason (kept.revealStored key) (failing.revealStored key) := by
  obtain ⟨hkeeps, rfl⟩ := hsession
  simp only [Session.revealStored, withSink_reveals, withSink_desk]
  split
  · exact ⟨hkeeps, rfl⟩
  · exact ⟨hkeeps, rfl⟩

theorem Counterpart.revealAt (hsession : Counterpart reason kept failing) (raw : String)
    (field : Field) (key : String) :
    Logged.Counterpart reason (Counterpart reason) (kept.revealAt raw field key)
      (failing.revealAt raw field key) := by
  obtain rfl := hsession.fails
  simp only [Session.revealAt, withSink_reveals, withSink_handleFor?]
  split
  · exact .pure (hsession.revealStored key)
  · refine .bind_silent _ (kept.reveals.handedRecords_create (some raw) field key) ?_
    split
    · exact .pure ((hsession.withReveals _).revealStored key)
    · exact .pure (hsession.withReveals _)

/-- A granted reveal is shown before it is recorded, and shown all the same
where it cannot be. -/
theorem Counterpart.reveal (hsession : Counterpart reason kept failing)
    (value : Option String) (field : Field) (key : String) (context : Option Members) :
    Logged.Counterpart reason (Gives reason) (kept.reveal value field key context)
      (failing.reveal value field key context) := by
  obtain rfl := hsession.fails
  refine .ite (.bind_silent _ rfl (.pure ⟨rfl, hsession⟩)) ?_
  simp only [withSink_policy]
  split
  · exact .pure ⟨rfl, hsession⟩
  · refine .bind_silent _ rfl ?_
    split
    · exact .pure ⟨rfl, hsession⟩
    · refine .ite ?_ (.bind_silent _ rfl (.bind_silent _ rfl (.pure ⟨rfl, hsession⟩)))
      refine .bind (hsession.revealAt ..) fun hrevealed => ?_
      exact .bind (hrevealed.record ..) fun hrecorded => .pure ⟨rfl, hrecorded⟩

/-- One call gives the same answer whether or not it can be recorded. -/
theorem Counterpart.step (hsession : Counterpart reason kept failing) (call : Call T) :
    Logged.Counterpart reason (Gives reason) (kept.step call) (failing.step call) := by
  obtain rfl := hsession.fails
  cases call with
  | canView | canReveal | isProtected => exact .pure ⟨rfl, hsession⟩
  | decision | isMaskingEnabled | mask => exact .bind_silent _ rfl (.pure ⟨rfl, hsession⟩)
  | maskEmailList value =>
      exact .bind_silent _ (kept.policy.handedRecords_maskEmailList value)
        (.pure ⟨rfl, hsession⟩)
  | showsLink value dataType =>
      exact .bind_silent _ (kept.handedRecords_showsLink value dataType) (.pure ⟨rfl, hsession⟩)
  | linkValue value field =>
      exact .bind_silent _ (kept.handedRecords_linkValue value field) (.pure ⟨rfl, hsession⟩)
  | desk call =>
      exact .bind_silent _ (kept.desk.handedRecords_step call) (.pure ⟨rfl, hsession.keeps, rfl⟩)
  | hide key =>
      have hhidden := hsession.hide key
      exact .pure ⟨congrArg Answer.text hhidden.answer, hhidden.session⟩
  | display value field key =>
      refine .bind (hsession.display value field key) fun hshown => ?_
      exact .pure ⟨congrArg Answer.text hshown.answer, hshown.session⟩
  | create value field key name =>
      refine .bind (hsession.create value field key) ?_
      rintro ⟨ref, after⟩ ⟨given, failed⟩ ⟨hanswer, hkeeps, hfails⟩
      obtain rfl : given = ref := hanswer
      obtain rfl : failed = after.withSink (.broken reason) := hfails
      exact .pure ⟨rfl, hkeeps, rfl⟩
  | reveal value field key context =>
      refine .bind (hsession.reveal value field key context) fun hshown => ?_
      exact .pure ⟨congrArg Answer.text hshown.answer, hshown.session⟩
  | copy value field context =>
      exact .bind (hsession.copy value field context) fun hcopied => .pure ⟨rfl, hcopied⟩
  | contact payload =>
      refine .bind (hsession.maskContact payload) fun hmasked => ?_
      refine .pure ⟨?_, hmasked.session⟩
      simp only [hmasked.answer]

/-- One activity.  An update of settings leaves everything about the session as
it is but the recorder. -/
def act (session : Session T) : Activity T → Logged (Stage T)
  | .call call => do
      let (answer, session) ← session.step call
      return ⟨.answered answer, session⟩
  | .update user account current payload => do
      let (result, recorder) ← Settings.update session.recorder user account current payload
      return ⟨.updated result, { session with recorder := recorder }⟩

def history (session : Session T) : List (Activity T) → Logged (List (Stage T))
  | [] => return []
  | activity :: rest => do
      let stage ← session.act activity
      let later ← stage.session.history rest
      return stage :: later

end Session

/-- The same outcome but for its records, and the same session but for the
records that its sink keeps. -/
structure Stage.Counterpart (reason : String) (kept failing : Stage T) : Prop where
  outcome : failing.outcome = kept.outcome.unrecorded
  session : kept.session.Counterpart reason failing.session

namespace Session

variable [Timeline T] {reason : String} {kept failing : Session T}

theorem Counterpart.act (hsession : Counterpart reason kept failing) (activity : Activity T) :
    Logged.Counterpart reason (Stage.Counterpart reason) (kept.act activity)
      (failing.act activity) := by
  cases activity with
  | call call =>
      refine .bind (hsession.step call) fun hgiven => ?_
      exact .pure ⟨congrArg Outcome.answered hgiven.answer, hgiven.session⟩
  | update user account current payload =>
      obtain rfl := hsession.fails
      refine .bind (Settings.counterpart_update user account hsession.recorder current payload)
        fun hupdated => ?_
      exact .pure ⟨congrArg Outcome.updated hupdated.result, .withRecorder kept hupdated.recorder⟩

theorem Counterpart.history (hsession : Counterpart reason kept failing)
    (activities : List (Activity T)) :
    Logged.Counterpart reason (List.Forall₂ (Stage.Counterpart reason)) (kept.history activities)
      (failing.history activities) := by
  induction activities generalizing kept failing with
  | nil => exact .pure .nil
  | cons activity rest ih =>
      refine .bind (hsession.act activity) fun hstage => ?_
      exact .bind (ih hstage.session) fun hlater => .pure (.cons hstage hlater)

/-- Every activity has an outcome. -/
theorem length_history (session : Session T) (activities : List (Activity T)) :
    (session.history activities).answer.length = activities.length := by
  induction activities generalizing session with
  | nil => rfl
  | cons activity rest ih => exact congrArg (· + 1) (ih _)

/-- Audit failures never change behaviour.  Whatever is done with a session and
its recorder, with a sink that fails on every record as with one in memory:
everything that is done has an outcome, the same but for the records given
back; after every step the session is the same but for its sink, reveals and
clock included; and the log is the same but for telling of each record, handed
over all the same, that it was lost. -/
theorem failing_sink_unnoticed (session : Session T) (store : Store) (reason : String)
    (activities : List (Activity T)) :
    let kept := (session.withSink (.memory store)).history activities
    let failing := (session.withSink (.broken reason)).history activities
    failing.answer.length = activities.length ∧
    List.Forall₂ (Stage.Counterpart reason) kept.answer failing.answer ∧
    List.Forall₂ (Event.Counterpart reason) kept.events failing.events ∧
    handedRecords failing.events = handedRecords kept.events := by
  intro kept failing
  have hstart : Counterpart reason (session.withSink (.memory store))
      (session.withSink (.broken reason)) := ⟨⟨store, rfl⟩, rfl⟩
  have hhistory : Logged.Counterpart reason _ kept failing := hstart.history activities
  exact ⟨length_history _ activities, hhistory.answer, hhistory.events,
    handedRecords_eq_of_counterparts hhistory.events⟩

end Session

end ContactPrivacy.Display
