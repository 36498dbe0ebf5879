/-
What the calls of a session do, case by case.  A call of a protected user
changes no reveal; otherwise a value either passes through the policy or is
masked by it, and a masked value may be revealed or not.
-/
import ContactPrivacy.Display.Session
import ContactPrivacy.Proofs.Reveal.Deposit

namespace ContactPrivacy.Display

open Reveal (HandleRef Reveals Seconds TimedHandle Timeline)

variable {T : Type}

namespace Session

/-- A session on settings that are already read, at the start of the clock,
which keeps its records in memory. -/
def ofSettings (settings : Settings) (user : Option User) : Session Seconds :=
  start ⟨some settings, user⟩ none ⟨.memory (Audit.Store.empty 10000), ""⟩ (.int 3000) none
    (Seconds.ofMs (.int 0))

@[simp] theorem reveals_withReveals (session : Session T) (reveals : Reveals T) :
    (session.withReveals reveals).reveals = reveals := rfl

@[simp] theorem reveals_record (session : Session T) (kind : Audit.Kind) (field : Field)
    (context : Members) (value : String) :
    (session.record kind field context value).answer.reveals = session.reveals := rfl

theorem reveals_copy (session : Session T) (value : Option String) (field : Field)
    (context : Option Members) :
    (session.copy value field context).answer.reveals = session.reveals := by
  unfold copy
  split <;> rfl

theorem reveals_maskContact (session : Session T) (payload : Json) :
    (session.maskContact payload).answer.2.reveals = session.reveals := by
  unfold maskContact
  split <;> rfl

/-! Making a handle -/

theorem create_protected {session : Session T} (hprotected : session.isProtected = true)
    (value : Option String) (field : Field) (key : String) :
    session.create value field key = ⟨(none, session), []⟩ := by
  simp only [create, hprotected, if_true]
  rfl

/-- A field that is masked and may not be revealed gets no handle. -/
theorem create_refused {session : Session T} (hopen : session.isProtected = false)
    {field : Field} (hmasked : (session.policy.decide field).shouldMask = true)
    (hrefused : session.policy.mayReveal field = false) (value : Option String) (key : String) :
    (session.create value field key).answer = (none, session) := by
  simp [create, hopen, Policy.look, hmasked, hrefused]

theorem create_granted {session : Session T} (hopen : session.isProtected = false)
    {field : Field} (hgranted : session.policy.decide field = .unmasked ∨
      session.policy.mayReveal field = true) (value : Option String) (key : String) :
    (session.create value field key).answer =
      (some (session.reveals.create value field key).answer.1,
        session.withReveals (session.reveals.create value field key).answer.2) := by
  rcases hgranted with hdecide | hreveal
  · simp [create, hopen, Policy.look, hdecide, Decision.shouldMask]
  · simp [create, hopen, Policy.look, hreveal]

/-! Hiding -/

theorem hide_of_get? {session : Session T} {key : String} {handle : TimedHandle T}
    (hhandle : session.reveals.get? key = some handle) :
    session.hide key = (some handle.masked,
      session.withReveals (session.reveals.setHandle key handle.hide)) := by
  simp only [hide, hhandle]

theorem hide_of_none {session : Session T} {key : String}
    (hnone : session.reveals.get? key = none) : session.hide key = (none, session) := by
  simp only [hide, hnone]

theorem handleFor?_eq_some_iff (session : Session T) (key raw : String)
    (handle : TimedHandle T) :
    session.handleFor? key raw = some handle ↔
      session.reveals.get? key = some handle ∧ handle.raw = raw := by
  simp [handleFor?, Option.filter_eq_some_iff]

theorem handleFor?_eq_none_iff (session : Session T) (key raw : String) :
    session.handleFor? key raw = none ↔
      ∀ handle, session.reveals.get? key = some handle → handle.raw ≠ raw := by
  simp [handleFor?, Option.filter_eq_none_iff]

variable [Timeline T]

/-! Displaying -/

theorem display_protected {session : Session T} (hprotected : session.isProtected = true)
    (value : Option String) (field : Field) (key : Option String) :
    session.display value field key = ⟨(some Protection.mark, session), []⟩ := by
  simp only [display, hprotected, if_true]
  rfl

theorem display_passes {session : Session T} (hopen : session.isProtected = false)
    {field : Field} {value : Option String} (hpasses : session.policy.Passes field value)
    (key : Option String) : (session.display value field key).answer = (value, session) := by
  simp only [display, hopen]
  cases hvalue : value.filter (· ≠ "") with
  | none => rfl
  | some raw =>
      cases hdecide : session.policy.decide field with
      | unmasked => simp [Policy.look, hdecide]
      | masked pattern => exact (hpasses.not_masked hdecide hvalue).elim

/-- The handle that a display of a masked value consults: that of the key, if
it is for the value and the field may be revealed. -/
def consulted? (session : Session T) (raw : String) (field : Field) (key : Option String) :
    Option (String × TimedHandle T) :=
  (key.filter fun key => key ≠ "" && session.policy.mayReveal field).bind fun key =>
    (session.handleFor? key raw).map fun handle => (key, handle)

omit [Timeline T] in
theorem consulted?_eq_some_iff (session : Session T) (raw : String) (field : Field)
    (key : Option String) (found : String) (handle : TimedHandle T) :
    session.consulted? raw field key = some (found, handle) ↔
      key = some found ∧ found ≠ "" ∧ session.policy.mayReveal field = true ∧
        session.reveals.get? found = some handle ∧ handle.raw = raw := by
  simp [consulted?, Option.bind_eq_some_iff, Option.filter_eq_some_iff, handleFor?_eq_some_iff]
  grind

theorem display_of_consulted {session : Session T} (hopen : session.isProtected = false)
    {field : Field} {pattern : Pattern} {value : Option String} {raw : String}
    (hmasks : session.policy.Masks field pattern value raw) {key : Option String}
    {found : String} {handle : TimedHandle T}
    (hconsulted : session.consulted? raw field key = some (found, handle)) :
    (session.display value field key).answer =
      (some (handle.settle session.desk.now).current,
        session.withReveals
          (session.reveals.setHandle found (handle.settle session.desk.now))) := by
  obtain ⟨rfl, hraw, hdecide⟩ := hmasks
  simp only [consulted?] at hconsulted
  simp only [display, hopen, Bool.false_eq_true, if_false, filter_nonempty hraw, Policy.look,
    Logged.answer_bind, hdecide, hconsulted, Logged.answer_pure]

theorem display_of_not_consulted {session : Session T} (hopen : session.isProtected = false)
    {field : Field} {pattern : Pattern} {value : Option String} {raw : String}
    (hmasks : session.policy.Masks field pattern value raw) {key : Option String}
    (hconsulted : session.consulted? raw field key = none) :
    (session.display value field key).answer = (some (field.mask pattern raw), session) := by
  obtain ⟨rfl, hraw, hdecide⟩ := hmasks
  simp only [consulted?] at hconsulted
  simp only [display, hopen, Bool.false_eq_true, if_false, filter_nonempty hraw, Policy.look,
    Logged.answer_bind, hdecide, hconsulted, Logged.answer_pure, Policy.answer_mask,
    Option.map_some, Policy.shown_of_masked hdecide]

/-! Revealing -/

theorem reveal_protected {session : Session T} (hprotected : session.isProtected = true)
    (value : Option String) (field : Field) (key : String) (context : Option Members) :
    session.reveal value field key context =
      ⟨(some Protection.mark, session), [.revealRefused key field.toJson.literal]⟩ := by
  simp only [reveal, hprotected, if_true]
  rfl

theorem reveal_passes {session : Session T} (hopen : session.isProtected = false)
    {field : Field} {value : Option String} (hpasses : session.policy.Passes field value)
    (key : String) (context : Option Members) :
    (session.reveal value field key context).answer = (value, session) := by
  simp only [reveal, hopen]
  cases hvalue : value.filter (· ≠ "") with
  | none => rfl
  | some raw =>
      cases hdecide : session.policy.decide field with
      | unmasked => simp [Policy.look, hdecide]
      | masked pattern => exact (hpasses.not_masked hdecide hvalue).elim

theorem reveal_refused {session : Session T} (hopen : session.isProtected = false)
    {field : Field} {pattern : Pattern} {value : Option String} {raw : String}
    (hmasks : session.policy.Masks field pattern value raw)
    (hrefused : session.policy.mayReveal field = false) (key : String) (context : Option Members) :
    (session.reveal value field key context).answer =
      (some (field.mask pattern raw), session) := by
  obtain ⟨rfl, hraw, hdecide⟩ := hmasks
  simp only [reveal, hopen, Bool.false_eq_true, if_false, filter_nonempty hraw, Policy.look,
    Logged.answer_bind, hdecide, hrefused, Logged.answer_pure, Policy.answer_mask,
    Option.map_some, Policy.shown_of_masked hdecide]

/-- A reveal that is granted answers the raw value and records the access. -/
theorem reveal_granted {session : Session T} (hopen : session.isProtected = false)
    {field : Field} (hgranted : session.policy.mayReveal field = true) {raw : String}
    (hraw : raw ≠ "") (key : String) (context : Option Members) :
    let revealed := session.revealAt raw field key
    let recorded :=
      revealed.answer.record .dataRevealed field (eventContext context "reveal") raw
    session.reveal (some raw) field key context =
      ⟨(some raw, recorded.answer),
        .decisionResolved field.toJson (session.policy.decide field) ::
          (revealed.events ++ recorded.events)⟩ := by
  obtain ⟨pattern, hdecide⟩ := Policy.decide_of_mayReveal hgranted
  simp only [reveal, hopen, Bool.false_eq_true, if_false, filter_nonempty hraw, Policy.look,
    hdecide, hgranted, if_true]
  simp only [bind, Logged.bind, pure, Logged.pure, List.append_nil, List.singleton_append]

theorem revealAt_of_handle {session : Session T} {raw key : String} {handle : TimedHandle T}
    (hhandle : session.reveals.get? key = some handle) (hraw : handle.raw = raw)
    (field : Field) :
    session.revealAt raw field key =
      ⟨session.withReveals (session.reveals.setHandle key (handle.reveal session.desk.now)),
        []⟩ := by
  have hown := (session.handleFor?_eq_some_iff key raw handle).mpr ⟨hhandle, hraw⟩
  simp only [revealAt, hown, revealStored, hhandle]
  rfl

/-- Where the key holds no handle of the value, a new one is made and revealed. -/
theorem revealAt_of_new {session : Session T} {raw key : String}
    (hnew : ∀ handle, session.reveals.get? key = some handle → handle.raw ≠ raw)
    {field : Field} {pattern : Pattern}
    (hmasks : session.reveals.policy.Masks field pattern (some raw) raw) :
    let made : TimedHandle T :=
      ⟨raw, field.mask pattern raw, session.reveals.durationMs, .hidden⟩
    (session.revealAt raw field key).answer =
      session.withReveals ((session.reveals.store key made).setHandle key
        (made.reveal session.desk.now)) := by
  have hown := (session.handleFor?_eq_none_iff key raw).mpr hnew
  simp only [revealAt, hown, Logged.answer_bind, Reveals.create_masked hmasks]
  simp only [Logged.answer_pure, revealStored, reveals_withReveals, Reveals.get?_store]
  rfl

end Session

end ContactPrivacy.Display
