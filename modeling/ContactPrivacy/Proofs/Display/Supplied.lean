/-
A session on reveals that are handed in.  Reveals that hold a handle are the
session's own from then on: what a call does to them is told by the policy and
the reveals alone.  Reveals that hold no handle count as if none were handed in.
-/
import ContactPrivacy.Proofs.Display.Disclosure
import ContactPrivacy.Proofs.Display.Shown
import ContactPrivacy.Proofs.Reveal.Uniform

namespace ContactPrivacy

namespace Reveal

variable {T : Type}

def Reveals.holds (reveals : Reveals T) (key raw : String) : Bool :=
  (reveals.get? key).any fun handle => handle.raw = raw

theorem Reveals.holds_eq_true_iff (reveals : Reveals T) (key raw : String) :
    reveals.holds key raw = true ↔
      ∃ handle, reveals.get? key = some handle ∧ handle.raw = raw := by
  simp only [holds, Option.any_eq_true, decide_eq_true_eq]

variable [Timeline T]

def Desk.ask (desk : Desk T) (asks : List KeyCall) : Desk T :=
  { desk with reveals := desk.reveals.performAll (asks.map fun ask => (desk.now, ask)) }

theorem Desk.ask_handle {desk : Desk T} {key : String} {handle : TimedHandle T}
    (hhandle : desk.reveals.get? key = some handle) (call : HandleCall) :
    desk.ask [.handle key call] =
      { desk with reveals := desk.reveals.setHandle key (handle.call desk.now call).2 } := by
  rw [← Reveals.perform_handle_of_get? hhandle]
  rfl

end Reveal

namespace Display

open Reveal (Desk DeskCall KeyCall Reveals Seconds TimedHandle Timeline)

variable {T : Type}

/-- What a call asks of the reveals that serve it. -/
def Call.asks (policy : Policy) (reveals : Reveals T) : Call T → List KeyCall
  | .display (some raw) field (some key) =>
      if raw ≠ "" ∧ key ≠ "" ∧ policy.mayReveal field = true ∧ reveals.holds key raw = true then
        [.handle key .value]
      else []
  | .reveal (some raw) field key _ =>
      if raw ≠ "" ∧ policy.mayReveal field = true then
        if reveals.holds key raw = true then [.handle key .reveal]
        else [.create (some raw) field key, .handle key .reveal]
      else []
  | .hide key => [.handle key .hide]
  | _ => []

/-- A value that passes through the policy is displayed without the reveals. -/
theorem Call.asks_display_of_passes {policy : Policy} {field : Field} {value : Option String}
    (hpasses : policy.Passes field value) (reveals : Reveals T) (key : Option String) :
    (Call.display value field key).asks policy reveals = [] := by
  cases value with
  | none => rfl
  | some raw =>
      cases key with
      | none => rfl
      | some key =>
          refine if_neg ?_
          rintro ⟨hraw, -, hreveal, -⟩
          obtain ⟨pattern, hdecide⟩ := Policy.decide_of_mayReveal hreveal
          exact hpasses.not_masked hdecide (filter_nonempty hraw)

theorem Call.asks_reveal_of_passes {policy : Policy} {field : Field} {value : Option String}
    (hpasses : policy.Passes field value) (reveals : Reveals T) (key : String)
    (context : Option Members) :
    (Call.reveal value field key context).asks policy reveals = [] := by
  cases value with
  | none => rfl
  | some raw =>
      refine if_neg ?_
      rintro ⟨hraw, hreveal⟩
      obtain ⟨pattern, hdecide⟩ := Policy.decide_of_mayReveal hreveal
      exact hpasses.not_masked hdecide (filter_nonempty hraw)

variable [Timeline T]

/-- The desk after a call, told by the policy and the desk alone. -/
def serve (policy : Policy) (desk : Desk T) : Call T → Desk T
  | .desk call => (desk.step call).answer.2
  | .create value field key name =>
      if (policy.decide field).shouldMask && !policy.mayReveal field then desk.remember name none
      else (desk.step (.create value field key name)).answer.2
  | call => desk.ask (call.asks policy desk.reveals)

namespace Session

theorem desk_display {session : Session T} (hopen : session.isProtected = false)
    (value : Option String) (field : Field) (key : Option String) :
    (session.display value field key).answer.2.desk =
      session.desk.ask ((Call.display value field key).asks session.policy session.reveals) := by
  rcases session.policy.passes_or_masks field value with hpasses | ⟨pattern, raw, hmasks⟩
  · rw [display_passes hopen hpasses, Call.asks_display_of_passes hpasses]
    rfl
  · cases hconsulted : session.consulted? raw field key with
    | none =>
        rw [display_of_not_consulted hopen hmasks hconsulted]
        obtain ⟨rfl, -⟩ := hmasks
        cases key with
        | none => rfl
        | some key =>
            rw [Call.asks, if_neg]
            · rfl
            · rintro ⟨-, hkey, hreveal, hholds⟩
              obtain ⟨handle, hhandle, hown⟩ :=
                (session.reveals.holds_eq_true_iff key raw).mp hholds
              have hfound := (session.consulted?_eq_some_iff raw field (some key) key handle).mpr
                ⟨rfl, hkey, hreveal, hhandle, hown⟩
              rw [hconsulted] at hfound
              cases hfound
    | some found =>
        obtain ⟨found, handle⟩ := found
        rw [display_of_consulted hopen hmasks hconsulted]
        obtain ⟨rfl, hkey, hreveal, hhandle, hown⟩ :=
          (session.consulted?_eq_some_iff raw field key found handle).mp hconsulted
        obtain ⟨rfl, hraw, -⟩ := hmasks
        have hholds := (session.reveals.holds_eq_true_iff found raw).mpr ⟨handle, hhandle, hown⟩
        rw [Call.asks, if_pos ⟨hraw, hkey, hreveal, hholds⟩, Desk.ask_handle hhandle]
        rfl

/-- A new handle is made at the key and revealed there. -/
theorem desk_revealAt_of_new {session : Session T} {raw key : String}
    (hnew : ∀ handle, session.reveals.get? key = some handle → handle.raw ≠ raw)
    {field : Field} {pattern : Pattern}
    (hmasks : session.reveals.policy.Masks field pattern (some raw) raw) :
    (session.revealAt raw field key).answer.desk =
      session.desk.ask [.create (some raw) field key, .handle key .reveal] := by
  have hmade : session.reveals.perform session.desk.now (.create (some raw) field key) =
      session.reveals.store key
        ⟨raw, field.mask pattern raw, session.reveals.durationMs, .hidden⟩ :=
    congrArg Prod.snd (Reveals.create_masked hmasks key)
  have hrevealed := Reveals.perform_handle_of_get? (session.reveals.get?_store key
    ⟨raw, field.mask pattern raw, session.reveals.durationMs, .hidden⟩) session.desk.now .reveal
  rw [← hmade] at hrevealed
  rw [revealAt_of_new hnew hmasks, ← hmade]
  exact congrArg (fun reveals => { session.desk with reveals := reveals }) hrevealed.symm

theorem desk_reveal {session : Session T} (hopen : session.isProtected = false)
    (hbound : session.reveals.policy = session.policy) (value : Option String) (field : Field)
    (key : String) (context : Option Members) :
    (session.reveal value field key context).answer.2.desk =
      session.desk.ask
        ((Call.reveal value field key context).asks session.policy session.reveals) := by
  rcases session.policy.passes_or_masks field value with hpasses | ⟨pattern, raw, hmasks⟩
  · rw [reveal_passes hopen hpasses, Call.asks_reveal_of_passes hpasses]
    rfl
  · obtain ⟨rfl, hraw, -⟩ := id hmasks
    cases hreveal : session.policy.mayReveal field with
    | false =>
        rw [reveal_refused hopen hmasks hreveal, Call.asks, if_neg (by simp [hreveal])]
        rfl
    | true =>
        rw [reveal_granted hopen hreveal hraw, Call.asks, if_pos ⟨hraw, hreveal⟩]
        change (session.revealAt raw field key).answer.desk = _
        split
        · next hholds =>
            obtain ⟨handle, hhandle, hown⟩ :=
              (session.reveals.holds_eq_true_iff key raw).mp hholds
            rw [revealAt_of_handle hhandle hown, Desk.ask_handle hhandle]
            rfl
        · next hholds =>
            apply desk_revealAt_of_new
            · intro handle hhandle hown
              apply hholds
              exact (session.reveals.holds_eq_true_iff key raw).mpr ⟨handle, hhandle, hown⟩
            · exact hbound ▸ hmasks

theorem desk_hide (session : Session T) (key : String) :
    (session.hide key).2.desk = session.desk.ask [.handle key .hide] := by
  have hasked : session.desk.ask [.handle key .hide] = { session.desk with
      reveals := session.reveals.perform session.desk.now (.handle key .hide) } := rfl
  rcases session.reveals.perform_handle session.desk.now key .hide with
    ⟨handle, hhandle, hafter⟩ | ⟨hnone, hafter⟩
  · rw [hasked, hafter, hide_of_get? hhandle]
    rfl
  · rw [hasked, hafter, hide_of_none hnone]
    rfl

theorem desk_create {session : Session T} (hopen : session.isProtected = false)
    (value : Option String) (field : Field) (key name : String) :
    (session.step (.create value field key name)).answer.2.desk =
      serve session.policy session.desk (.create value field key name) := by
  rw [serve]
  split
  · next hrefused =>
      rw [Bool.and_eq_true, Bool.not_eq_true'] at hrefused
      simp only [step, Logged.answer_bind, create_refused hopen hrefused.1 hrefused.2]
      rfl
  · next hgranted =>
      have hallowed : session.policy.decide field = .unmasked ∨
          session.policy.mayReveal field = true := by
        cases hdecide : session.policy.decide field with
        | unmasked => exact Or.inl rfl
        | masked pattern =>
            rw [hdecide] at hgranted
            simpa [Decision.shouldMask] using hgranted
      simp only [step, Logged.answer_bind, create_granted hopen hallowed]
      rfl

/-- A call changes the desk as the policy and the desk tell. -/
theorem desk_step {session : Session T} (hopen : session.isProtected = false)
    (hbound : session.reveals.policy = session.policy) (call : Call T) :
    (session.step call).answer.2.desk = serve session.policy session.desk call := by
  cases call with
  | display value field key => exact desk_display hopen value field key
  | create value field key name => exact desk_create hopen value field key name
  | reveal value field key context => exact desk_reveal hopen hbound value field key context
  | hide key => exact session.desk_hide key
  | copy value field context =>
      simp only [step, copy]
      split <;> rfl
  | contact payload =>
      simp only [step, maskContact, hopen, Bool.false_eq_true, if_false]
      rfl
  | _ => rfl

/-- A run changes the desk call by call, as the policy and the desk tell. -/
theorem desk_run (session : Session T) (hopen : session.isProtected = false)
    (hbound : session.reveals.policy = session.policy) (calls : List (Call T)) :
    (session.run calls).answer.2.desk = calls.foldl (serve session.policy) session.desk := by
  induction calls generalizing session with
  | nil => rfl
  | cons call rest ih =>
      have hterms := session.terms_step call
      have hafter : (session.step call).answer.2.isProtected = false :=
        (isProtected_eq_of_terms hterms).trans hopen
      simp only [terms, Terms.mk.injEq, Reveals.terms, Prod.mk.injEq] at hterms
      obtain ⟨hpolicy, -, -, -, hreveals, -⟩ := hterms
      have hrest := ih _ hafter (hreveals.trans (hbound.trans hpolicy.symm))
      rw [hpolicy, desk_step hopen hbound] at hrest
      exact hrest

omit [Timeline T] in
/-- Reveals that hold no handle count as if none were handed in. -/
theorem start_of_size_eq_zero {supplied : Reveals T} (hempty : supplied.size = 0)
    (policy : Policy) (account : Option AccountCard) (recorder : Audit.Recorder)
    (durationMs : Number) (now : T) :
    start policy account recorder durationMs (some supplied) now =
      start policy account recorder durationMs none now := by
  have hunused : ((some supplied).filter fun reveals => reveals.size ≠ 0) = none :=
    Option.filter_some_neg (by simpa using hempty)
  rw [start, start, hunused]
  rfl

omit [Timeline T] in
theorem desk_start_of_size_ne_zero {supplied : Reveals T} (hheld : supplied.size ≠ 0)
    (policy : Policy) (account : Option AccountCard) (recorder : Audit.Recorder)
    (durationMs : Number) (now : T) :
    (start policy account recorder durationMs (some supplied) now).desk =
      Desk.start supplied now := by
  have hused : ((some supplied).filter fun reveals => reveals.size ≠ 0) = some supplied :=
    Option.filter_some_pos (by simpa using hheld)
  rw [start, hused]

/-- A granted reveal leaves a handle of the value at the key, which shows until
the duration of the reveals has passed. -/
theorem reveal_shows_until {session : Session T} (hopen : session.isProtected = false)
    (hbound : session.reveals.policy = session.policy) {durationMs : Number}
    (huniform : session.reveals.Uniform durationMs) {field : Field}
    (hgranted : session.policy.mayReveal field = true) {raw : String} (hraw : raw ≠ "")
    (key : String) (context : Option Members) :
    ∃ handle,
      (session.reveal (some raw) field key context).answer.2.reveals.get? key = some handle ∧
      handle.raw = raw ∧
      ∀ later, handle.ShowsAt later ↔
        Timeline.reached (Timeline.after session.desk.now durationMs) later = false := by
  obtain ⟨pattern, hdecide⟩ := Policy.decide_of_mayReveal hgranted
  obtain ⟨handle, hhandle, hown, hrevealed⟩ :=
    session.revealAt_timed ⟨rfl, hraw, hbound ▸ hdecide⟩ key
  have hdesk := desk_reveal hopen hbound (some raw) field key context
  have hafter : (session.reveal (some raw) field key context).answer.2.reveals.Uniform
      durationMs := by
    rw [reveals, hdesk]
    exact huniform.performAll _
  have hstored : (session.reveal (some raw) field key context).answer.2.reveals.get? key =
      some handle := by
    rw [reveal_granted hopen hgranted hraw]
    exact hhandle
  refine ⟨handle, hstored, hown, ?_⟩
  intro later
  rw [(hafter.get? hstored).2] at hrevealed
  exact handle.showsAt_iff_of_revealed hrevealed later

/-- A handle of the value that the key holds is displayed, whoever made it. -/
theorem answer_display_of_get? {session : Session T} (hopen : session.isProtected = false)
    {field : Field} (hgranted : session.policy.mayReveal field = true) {key : String}
    (hkey : key ≠ "") {handle : TimedHandle T} (hraw : handle.raw ≠ "")
    (hhandle : session.reveals.get? key = some handle) :
    (session.display (some handle.raw) field (some key)).answer.1 =
      some (handle.settle session.desk.now).current := by
  obtain ⟨pattern, hdecide⟩ := Policy.decide_of_mayReveal hgranted
  have hconsulted := (session.consulted?_eq_some_iff handle.raw field (some key) key handle).mpr
    ⟨rfl, hkey, hgranted, hhandle, rfl⟩
  rw [display_of_consulted hopen ⟨rfl, hraw, hdecide⟩ hconsulted]

end Session

/-- Calls keep the durations of handles. -/
theorem serve_uniform {durationMs : Number} {desk : Desk T}
    (huniform : desk.reveals.Uniform durationMs) (policy : Policy) (call : Call T) :
    (serve policy desk call).reveals.Uniform durationMs := by
  cases call with
  | desk call => exact Desk.step_uniform huniform call
  | create value field key name =>
      rw [serve]
      split
      · exact huniform
      · exact Desk.step_uniform huniform (.create value field key name)
  | _ => exact huniform.performAll _

theorem serveAll_uniform {durationMs : Number} {desk : Desk T}
    (huniform : desk.reveals.Uniform durationMs) (policy : Policy) (calls : List (Call T)) :
    (calls.foldl (serve policy) desk).reveals.Uniform durationMs := by
  induction calls generalizing desk with
  | nil => exact huniform
  | cons call rest ih => exact ih (serve_uniform huniform policy call)

namespace Session

/-- A session that reveals are handed to.  Reveals that hold a handle are the
session's reveals throughout: after any calls its desk is that of the reveals
with each call served by them, a granted reveal leaves a handle of the value
there that shows for the duration of the reveals, and a handle that is there is
the one that is displayed and hidden.  Reveals that hold no handle are not used. -/
theorem supplied_reveals_serve (policy : Policy) (account : Option AccountCard)
    (recorder : Audit.Recorder) (durationMs suppliedMs : Number) (begun now : T)
    (made : List (DeskCall T)) (calls : List (Call T)) (hopen : policy.protects = false) :
    let supplied := ((Desk.start (Reveals.empty policy suppliedMs) begun).after made).reveals
    let started := start policy account recorder durationMs (some supplied) now
    let session := (started.run calls).answer.2
    (supplied.size = 0 → started = start policy account recorder durationMs none now) ∧
    (supplied.size ≠ 0 →
      session.desk = calls.foldl (serve policy) (Desk.start supplied now) ∧
      (∀ field raw key context, policy.mayReveal field = true → raw ≠ "" →
        ∃ handle,
          (session.reveal (some raw) field key context).answer.2.reveals.get? key = some handle ∧
          handle.raw = raw ∧
          ∀ later, handle.ShowsAt later ↔
            Timeline.reached (Timeline.after session.desk.now suppliedMs) later = false) ∧
      (∀ key handle, session.reveals.get? key = some handle →
        (session.hide key).1 = some handle.masked ∧
        ∀ field, policy.mayReveal field = true → key ≠ "" →
          (session.display (some handle.raw) field (some key)).answer.1 =
            some (handle.settle session.desk.now).current)) := by
  intro supplied started session
  refine ⟨fun hempty => start_of_size_eq_zero hempty policy account recorder durationMs now, ?_⟩
  intro hheld
  have hsupplied :=
    (Desk.start (Reveals.empty policy suppliedMs : Reveals T) begun).terms_after made
  have hbound : supplied.policy = policy := congrArg Prod.fst hsupplied
  have hstarted : started.desk = Desk.start supplied now :=
    desk_start_of_size_ne_zero hheld policy account recorder durationMs now
  have hterms := started.terms_run calls
  simp only [terms, Terms.mk.injEq, Reveals.terms, Prod.mk.injEq] at hterms
  obtain ⟨hpolicy, -, huser, -, hreveals, -⟩ := hterms
  have hown : started.reveals.policy = policy := by
    rw [reveals, hstarted]
    exact hbound
  have hsession : session.isProtected = false := by
    rw [isProtected, Protection.isProtected, huser]
    exact hopen
  have hdesk : session.desk = calls.foldl (serve policy) (Desk.start supplied now) := by
    have hrun := started.desk_run hopen hown calls
    rw [hstarted] at hrun
    exact hrun
  have hmade : (Desk.start supplied now).reveals.Uniform suppliedMs :=
    Desk.after_uniform (Reveals.empty_uniform policy suppliedMs) made
  have huniform : session.reveals.Uniform suppliedMs := by
    rw [reveals, hdesk]
    exact serveAll_uniform hmade policy calls
  refine ⟨hdesk, ?_, ?_⟩
  · intro field raw key context hgranted hraw
    have hbounded : session.reveals.policy = session.policy :=
      hreveals.trans (hown.trans hpolicy.symm)
    exact reveal_shows_until hsession hbounded huniform (hpolicy ▸ hgranted) hraw key context
  · intro key handle hhandle
    refine ⟨by rw [hide_of_get? hhandle], ?_⟩
    intro field hgranted hkey
    exact answer_display_of_get? hsession (hpolicy ▸ hgranted) hkey (huniform.get? hhandle).1
      hhandle

/-- Reveals of half a second that hold a handle of another value.  A reveal shows
for that half second, though the session's own duration is longer, and the
handle that was there before is the one that is displayed and hidden. -/
theorem supplied_reveals_serve_half_second :
    let value := "john.doe@example.com"
    let policy : Policy := ⟨some .default, none⟩
    let supplied := ((Desk.start (Reveals.empty policy (.int 500)) (Seconds.ofMs (.int 0))).after
      [.create (some "ada@example.com") Field.email "other" "other"]).reveals
    let session := ((start policy none ⟨.log, ""⟩ (.int 3000) (some supplied)
      (Seconds.ofMs (.int 0))).run []).answer.2
    policy.protects = false ∧ policy.mayReveal Field.email = true ∧ supplied.size ≠ 0 ∧
      session.reveals = supplied ∧
      (∃ handle, (session.reveal (some value) Field.email "contact" none).answer.2.reveals.get?
          "contact" = some handle ∧ handle.raw = value ∧
        handle.ShowsAt (Seconds.ofMs (.int 499)) ∧ ¬ handle.ShowsAt (Seconds.ofMs (.int 500))) ∧
      (session.hide "other").1 = some "a***a@e***.com" ∧
      (session.display (some "ada@example.com") Field.email (some "other")).answer.1 =
        some "a***a@e***.com" := by
  intro value policy supplied session
  have hheld : supplied.size ≠ 0 := by decide
  have hgranted : policy.mayReveal Field.email = true := rfl
  have hserve := (supplied_reveals_serve policy none ⟨.log, ""⟩ (.int 3000) (.int 500)
    (Seconds.ofMs (.int 0)) (Seconds.ofMs (.int 0))
    [.create (some "ada@example.com") Field.email "other" "other"] [] rfl).2 hheld
  obtain ⟨hdesk, hrevealed, hstored⟩ := hserve
  obtain ⟨handle, hhandle, hown, hshows⟩ :=
    hrevealed Field.email value "contact" none hgranted (by decide)
  have hreveals : session.reveals = supplied := by
    rw [reveals, hdesk]
    rfl
  obtain ⟨hhidden, hdisplayed⟩ := hstored "other" _ rfl
  refine ⟨rfl, hgranted, hheld, hreveals, ⟨handle, hhandle, hown, ?_, ?_⟩, ?_, ?_⟩
  · rw [hshows]
    decide +kernel
  · rw [hshows]
    decide +kernel
  · rw [hhidden]
    decide
  · exact (hdisplayed Field.email hgranted (by decide)).trans (by decide)

/-- Reveals of half a second that hold no handle yet are not used: the session
shows the value it reveals after that half second too. -/
theorem supplied_reveals_unused_when_empty :
    let value := "john.doe@example.com"
    let policy : Policy := ⟨some .default, none⟩
    let supplied : Reveals Seconds := Reveals.empty policy (.int 500)
    let started := start policy none ⟨.log, ""⟩ (.int 3000) (some supplied)
      (Seconds.ofMs (.int 0))
    let later := (started.run [.reveal (some value) Field.email "contact" none,
      .desk (.setClock (Seconds.ofMs (.int 600)))]).answer.2
    policy.protects = false ∧ policy.mayReveal Field.email = true ∧
      started.reveals.durationMs = .int 3000 ∧ started.reveals ≠ supplied ∧
      Timeline.reached (Timeline.after (Seconds.ofMs (.int 0)) supplied.durationMs)
        (Seconds.ofMs (.int 600)) = true ∧
      (∃ handle, later.reveals.get? "contact" = some handle ∧ handle.raw = value ∧
        handle.ShowsAt later.desk.now) ∧
      (later.display (some value) Field.email (some "contact")).answer.1 = some value := by
  intro value policy supplied started later
  have hdurations : started.reveals.durationMs ≠ supplied.durationMs := by decide
  have hother : started.reveals ≠ supplied := fun hsame =>
    hdurations (congrArg Reveals.durationMs hsame)
  exact ⟨rfl, rfl, rfl, hother, by decide +kernel, ⟨_, rfl, rfl, _, rfl, by decide +kernel⟩,
    by decide +kernel⟩

end Session

end Display

end ContactPrivacy
