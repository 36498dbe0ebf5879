/-
What a protected user learns from a session.  Apart from the plain masks, no
answer depends on the values that are passed: two runs with other values get
the same answers.  The plain masks follow the policy of the account alone.
-/
import ContactPrivacy.Proofs.Display.Terms
import ContactPrivacy.Proofs.Protection.Alike
import Mathlib.Data.List.Forall2

namespace ContactPrivacy.Display

open Reveal (Desk Reveals Seconds Timeline)
open Protection (Alike replacements sanitized)

variable {T : Type}

/-- Values that one run may pass where another passes the other: the same
value, or texts that are both not empty. -/
def Swapped (value other : Option String) : Prop :=
  value = other ∨ ∃ raw twin, value = some raw ∧ other = some twin ∧ raw ≠ "" ∧ twin ≠ ""

/-- Calls that differ only in the contact data they pass. -/
inductive Call.Twin : Call T → Call T → Prop
  | same (call : Call T) : Twin call call
  | mask {value other : Option String} (field : Field) :
      Swapped value other → Twin (.mask value field) (.mask other field)
  | maskEmailList {value other : Option String} :
      Swapped value other → Twin (.maskEmailList value) (.maskEmailList other)
  | display {value other : Option String} (field : Field) (key : Option String) :
      Swapped value other → Twin (.display value field key) (.display other field key)
  | create {value other : Option String} (field : Field) (key name : String) :
      Swapped value other → Twin (.create value field key name) (.create other field key name)
  | reveal {value other : Option String} (field : Field) (key : String) (context : Option Members) :
      Swapped value other →
        Twin (.reveal value field key context) (.reveal other field key context)
  | copy {value other : Option String} (field : Field) (context : Option Members) :
      Swapped value other → Twin (.copy value field context) (.copy other field context)
  | showsLink {value other : Option String} (dataType : DataType) :
      Swapped value other → Twin (.showsLink value dataType) (.showsLink other dataType)
  | linkValue {value other : Option String} (field : Field) :
      Swapped value other → Twin (.linkValue value field) (.linkValue other field)
  | contact {payload other : Json} :
      Alike payload other → Twin (.contact payload) (.contact other)

/-- Whether two calls get the same answer from a policy without protection.
Only the plain masks show something of the value. -/
def Call.ShownAlike (policy : Policy) : Call T → Call T → Prop
  | .mask value field, .mask other _ =>
      (policy.mask field value).answer = (policy.mask field other).answer
  | .maskEmailList value, .maskEmailList other =>
      (policy.maskEmailList value).answer = (policy.maskEmailList other).answer
  | _, _ => True

theorem Call.ShownAlike.refl (policy : Policy) (call : Call T) :
    Call.ShownAlike policy call call := by
  cases call <;> first | exact trivial | rfl

variable [Timeline T]

/-- What a protected user is answered, and the desk after it.  This never looks
at the value of a call that is not a plain mask. -/
def served (policy : Policy) (desk : Desk T) : Call T → Answer T × Desk T
  | .decision field => (.decision (policy.decide field), desk)
  | .isMaskingEnabled field => (.flag (policy.decide field).shouldMask, desk)
  | .canView => (.flag policy.seesRaw, desk)
  | .canReveal field => (.flag (policy.mayReveal field), desk)
  | .isProtected => (.flag true, desk)
  | .mask value field => (.text (policy.mask field value).answer, desk)
  | .maskEmailList value => (.text (policy.maskEmailList value).answer, desk)
  | .display _ _ _ => (.text (some Protection.mark), desk)
  | .create _ _ _ name => (.handle none, desk.remember name none)
  | .reveal _ _ _ _ => (.text (some Protection.mark), desk)
  | .hide key =>
      match desk.reveals.get? key with
      | some handle =>
          (.text (some handle.masked),
            { desk with reveals := desk.reveals.setHandle key handle.hide })
      | none => (.text none, desk)
  | .copy _ _ _ => (.nothing, desk)
  | .showsLink _ _ => (.flag false, desk)
  | .linkValue _ _ => (.text none, desk)
  | .contact payload => (.payload (sanitized payload) (replacements payload).length, desk)
  | .desk call => (.desk (desk.step call).answer.1, (desk.step call).answer.2)

def servedAll (policy : Policy) (desk : Desk T) : List (Call T) → List (Answer T)
  | [] => []
  | call :: rest =>
      (served policy desk call).1 :: servedAll policy (served policy desk call).2 rest

@[simp] theorem length_servedAll (policy : Policy) (desk : Desk T) (calls : List (Call T)) :
    (servedAll policy desk calls).length = calls.length := by
  induction calls generalizing desk with
  | nil => rfl
  | cons call rest ih => simp [servedAll, ih]

/-- Calls that are twins leave a protected user's desk the same, and answer the
same if the policy shows both alike. -/
theorem served_twin (policy : Policy) (desk : Desk T) {call twin : Call T}
    (htwin : call.Twin twin) :
    ((served policy desk call).1 = (served policy desk twin).1 ↔
        Call.ShownAlike policy call twin) ∧
      (served policy desk call).2 = (served policy desk twin).2 := by
  cases htwin with
  | same call => exact ⟨iff_of_true rfl (Call.ShownAlike.refl policy call), rfl⟩
  | mask field hswapped =>
      simp only [served, Answer.text.injEq]
      exact ⟨Iff.rfl, trivial⟩
  | maskEmailList hswapped =>
      simp only [served, Answer.text.injEq]
      exact ⟨Iff.rfl, trivial⟩
  | contact halike =>
      simp only [served, halike.sanitized_eq, halike.length_replacements_eq]
      exact ⟨iff_of_true trivial trivial, trivial⟩
  | _ => exact ⟨iff_of_true rfl trivial, rfl⟩

/-- Runs of twin calls answer the same at every call that the policy shows alike. -/
theorem servedAll_twins (policy : Policy) {calls twins : List (Call T)}
    (htwins : List.Forall₂ Call.Twin calls twins) (desk : Desk T) {n : Nat}
    {call twin : Call T} (hcall : calls[n]? = some call) (htwin : twins[n]? = some twin) :
    (servedAll policy desk calls)[n]? = (servedAll policy desk twins)[n]? ↔
      Call.ShownAlike policy call twin := by
  induction htwins generalizing desk n with
  | nil => simp at hcall
  | cons hhead hrest ih =>
      obtain ⟨hanswer, hdesk⟩ := served_twin policy desk hhead
      cases n with
      | zero =>
          simp only [List.getElem?_cons_zero, Option.some.injEq] at hcall htwin
          subst hcall htwin
          simpa only [servedAll, List.getElem?_cons_zero, Option.some.injEq] using hanswer
      | succ n =>
          simp only [List.getElem?_cons_succ] at hcall htwin
          simp only [servedAll, List.getElem?_cons_succ, hdesk]
          exact ih _ hcall htwin

namespace Session

omit [Timeline T] in
theorem rawVisible_protected {session : Session T} (hprotected : session.isProtected = true)
    (dataType : DataType) : (session.rawVisible dataType).answer = false := by
  simp [rawVisible, hprotected]

omit [Timeline T] in
theorem showsLink_protected {session : Session T} (hprotected : session.isProtected = true)
    (value : Option String) (dataType : DataType) :
    (session.showsLink value dataType).answer = false := by
  unfold showsLink
  split
  · exact rawVisible_protected hprotected dataType
  · rfl

omit [Timeline T] in
theorem linkValue_protected {session : Session T} (hprotected : session.isProtected = true)
    (value : Option String) (field : Field) : (session.linkValue value field).answer = none := by
  unfold linkValue
  split
  · simp [rawVisible_protected hprotected]
  · rfl

omit [Timeline T] in
theorem maskContact_protected {session : Session T} (hprotected : session.isProtected = true)
    (payload : Json) :
    (session.maskContact payload).answer.1 =
        (sanitized payload, (replacements payload).length) ∧
      (session.maskContact payload).answer.2.desk = session.desk := by
  have huser : session.protection.isProtected = true := hprotected
  simp [maskContact, hprotected, Protection.sanitize, huser]

omit [Timeline T] in
theorem desk_copy (session : Session T) (value : Option String) (field : Field)
    (context : Option Members) : (session.copy value field context).answer.desk = session.desk := by
  unfold copy
  split <;> rfl

/-- A session of a protected user answers what it serves to all of them. -/
theorem step_protected {session : Session T} (hprotected : session.isProtected = true)
    (call : Call T) :
    (session.step call).answer.1 = (served session.policy session.desk call).1 ∧
      (session.step call).answer.2.desk = (served session.policy session.desk call).2 := by
  cases call with
  | isProtected => exact ⟨congrArg Answer.flag hprotected, rfl⟩
  | display value field key =>
      simp only [step, display_protected hprotected, Logged.answer_bind, Logged.answer_pure]
      exact ⟨rfl, rfl⟩
  | create value field key name =>
      simp only [step, create_protected hprotected, Logged.answer_bind, Logged.answer_pure]
      exact ⟨rfl, rfl⟩
  | reveal value field key context =>
      simp only [step, reveal_protected hprotected, Logged.answer_bind, Logged.answer_pure]
      exact ⟨rfl, rfl⟩
  | hide key =>
      cases hhandle : session.reveals.get? key with
      | none =>
          have hdesk : session.desk.reveals.get? key = none := hhandle
          simp only [step, hide_of_none hhandle, served, hdesk]
          exact ⟨rfl, rfl⟩
      | some handle =>
          have hdesk : session.desk.reveals.get? key = some handle := hhandle
          simp only [step, hide_of_get? hhandle, served, hdesk]
          exact ⟨rfl, rfl⟩
  | copy value field context => exact ⟨rfl, session.desk_copy value field context⟩
  | showsLink value dataType =>
      exact ⟨congrArg Answer.flag (showsLink_protected hprotected value dataType), rfl⟩
  | linkValue value field =>
      exact ⟨congrArg Answer.text (linkValue_protected hprotected value field), rfl⟩
  | contact payload =>
      obtain ⟨hanswer, hdesk⟩ := maskContact_protected hprotected payload
      refine ⟨?_, hdesk⟩
      simp only [step, Logged.answer_bind, Logged.answer_pure, hanswer, served]
  | _ => exact ⟨rfl, rfl⟩

theorem isProtected_step (session : Session T) (call : Call T) :
    (session.step call).answer.2.isProtected = session.isProtected :=
  isProtected_eq_of_terms (session.terms_step call)

theorem answers_run_protected {session : Session T} (hprotected : session.isProtected = true)
    (calls : List (Call T)) :
    (session.run calls).answer.1 = servedAll session.policy session.desk calls := by
  induction calls generalizing session with
  | nil => rfl
  | cons call rest ih =>
      obtain ⟨hanswer, hdesk⟩ := step_protected hprotected call
      have hpolicy : (session.step call).answer.2.policy = session.policy :=
        congrArg Terms.policy (session.terms_step call)
      have hrest := ih ((session.isProtected_step call).trans hprotected)
      rw [hdesk, hpolicy] at hrest
      simp only [run, Logged.answer_bind, Logged.answer_pure, servedAll]
      rw [hanswer, hrest]

/-- What a protected user learns of the values that are passed.  Two runs of the
same calls with other values are answered alike, call by call, except at the
plain masks: they answer alike only where the policy shows both values alike. -/
theorem protected_answers_agree_iff (policy : Policy) (account : Option AccountCard)
    (recorder : Audit.Recorder) (durationMs : Number) (supplied : Option (Reveals T)) (now : T)
    (hprotects : policy.protects = true) {calls twins : List (Call T)}
    (htwins : List.Forall₂ Call.Twin calls twins) :
    let session := start policy account recorder durationMs supplied now
    let answers := (session.run calls).answer.1
    let twinAnswers := (session.run twins).answer.1
    answers.length = calls.length ∧ twinAnswers.length = calls.length ∧
      ∀ (n : Nat) (call twin : Call T), calls[n]? = some call → twins[n]? = some twin →
        (answers[n]? = twinAnswers[n]? ↔ Call.ShownAlike policy call twin) := by
  intro session answers twinAnswers
  have hprotected : session.isProtected = true := hprotects
  have hanswers : answers = servedAll policy session.desk calls :=
    answers_run_protected hprotected calls
  have htwinAnswers : twinAnswers = servedAll policy session.desk twins :=
    answers_run_protected hprotected twins
  rw [hanswers, htwinAnswers, length_servedAll, length_servedAll]
  refine ⟨rfl, htwins.length_eq.symm, ?_⟩
  intro n call twin hcall htwin
  exact servedAll_twins policy htwins session.desk hcall htwin

/-- A display and a payload show a protected user the same of two addresses;
the plain mask shows what the account's pattern leaves of each. -/
theorem protected_answers_of_two_addresses :
    let policy : Policy := ⟨some .default, some ⟨none, none, .agent, true⟩⟩
    let calls := fun address : String => [Call.display (some address) Field.email (some "contact"),
      .contact (.object [("email", .string address)]), .mask (some address) Field.email]
    let answers := fun address : String => ((start policy none ⟨.log, ""⟩ (.int 3000) none
      (Seconds.ofMs (.int 0))).run (calls address)).answer.1
    policy.protects = true ∧
      List.Forall₂ Call.Twin (calls "ada@example.com") (calls "bob@example.org") ∧
      (answers "ada@example.com")[0]? = (answers "bob@example.org")[0]? ∧
      (answers "ada@example.com")[1]? = (answers "bob@example.org")[1]? ∧
      (answers "ada@example.com")[2]? ≠ (answers "bob@example.org")[2]? := by
  intro policy calls answers
  have hswapped : Swapped (some "ada@example.com") (some "bob@example.org") :=
    Or.inr ⟨_, _, rfl, rfl, by decide, by decide⟩
  have halike : Alike (.object [("email", .string "ada@example.com")])
      (.object [("email", .string "bob@example.org")]) :=
    .object (.held rfl (by decide) (by decide) .nil)
  have htwins : List.Forall₂ Call.Twin (calls "ada@example.com") (calls "bob@example.org") :=
    .cons (.display _ _ hswapped) (.cons (.contact halike) (.cons (.mask _ hswapped) .nil))
  obtain ⟨-, -, hagree⟩ := protected_answers_agree_iff policy none ⟨.log, ""⟩ (.int 3000) none
    (Seconds.ofMs (.int 0)) rfl htwins
  refine ⟨rfl, htwins, (hagree 0 _ _ rfl rfl).mpr trivial, (hagree 1 _ _ rfl rfl).mpr trivial, ?_⟩
  intro hsame
  have hshown := (hagree 2 _ _ rfl rfl).mp hsame
  revert hshown
  change ¬ (policy.mask Field.email _).answer = (policy.mask Field.email _).answer
  decide

/-- Where masking is switched off, the plain mask answers a protected user the
raw value, so that two runs with other values are answered differently. -/
theorem mask_of_protected_is_raw :
    let start := ofSettings { Settings.default with maskingEnabled := false }
      (some ⟨none, none, .other, true⟩)
    let first : List (Call Seconds) := [.mask (some "ada@example.com") Field.email]
    let second : List (Call Seconds) := [.mask (some "bob@example.org") Field.email]
    start.isProtected = true ∧ List.Forall₂ Call.Twin first second ∧
      (start.run first).answer.1 = [.text (some "ada@example.com")] ∧
      (start.run second).answer.1 = [.text (some "bob@example.org")] ∧
      (start.run first).answer.1 ≠ (start.run second).answer.1 := by
  intro start first second
  have hswapped : Swapped (some "ada@example.com") (some "bob@example.org") :=
    Or.inr ⟨_, _, rfl, rfl, by decide, by decide⟩
  have hfirst : (start.run first).answer.1 = [.text (some "ada@example.com")] := rfl
  have hsecond : (start.run second).answer.1 = [.text (some "bob@example.org")] := rfl
  refine ⟨rfl, .cons (.mask _ hswapped) .nil, hfirst, hsecond, ?_⟩
  rw [hfirst, hsecond]
  simp

end Session

end ContactPrivacy.Display
