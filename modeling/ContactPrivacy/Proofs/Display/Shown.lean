/-
What a display shows at a key, after any calls of a session on its own
reveals.  A handle counts only for its own value, so a key that was used
before never shows the value of another record; and a hidden handle shows its
value as it was masked when the handle was made.
-/
import ContactPrivacy.Proofs.Display.Deposit

namespace ContactPrivacy

namespace Reveal.TimedHandle

variable {T : Type} [Timeline T]

/-- A handle shows its raw value at an instant if it was revealed until a
deadline that is not reached by then. -/
def ShowsAt (now : T) (handle : TimedHandle T) : Prop :=
  ∃ deadline, handle.visibility = .revealed deadline ∧ Timeline.reached deadline now = false

theorem showsAt_iff_of_revealed (handle : TimedHandle T) {deadline : T}
    (hrevealed : handle.visibility = .revealed deadline) (later : T) :
    handle.ShowsAt later ↔ Timeline.reached deadline later = false := by
  constructor
  · rintro ⟨other, hother, hearly⟩
    rw [hrevealed, Visibility.revealed.injEq] at hother
    rw [hother]
    exact hearly
  · intro hearly
    exact ⟨deadline, hrevealed, hearly⟩

theorem current_settle_of_showsAt {now : T} {handle : TimedHandle T}
    (hshows : handle.ShowsAt now) : (handle.settle now).current = handle.raw := by
  obtain ⟨deadline, hrevealed, hearly⟩ := hshows
  simp [settle, hrevealed, Visibility.settle, hearly, current, isRevealed,
    Visibility.isRevealed]

theorem current_settle_of_not_showsAt {now : T} {handle : TimedHandle T}
    (hhides : ¬ handle.ShowsAt now) : (handle.settle now).current = handle.masked := by
  cases hvisibility : handle.visibility with
  | hidden =>
      simp [settle, hvisibility, Visibility.settle, current, isRevealed, Visibility.isRevealed]
  | revealed deadline =>
      cases hreached : Timeline.reached deadline now with
      | false => exact absurd ⟨deadline, hvisibility, hreached⟩ hhides
      | true =>
          simp [settle, hvisibility, Visibility.settle, hreached, current, isRevealed,
            Visibility.isRevealed]

end Reveal.TimedHandle

namespace Display

open Reveal (Deposit Deposits Reveals Seconds TimedHandle Timeline)

namespace Session

variable {T : Type}

/-- Hiding answers the deposit of the key, masked. -/
theorem answer_hide {session : Session T} {policy : Policy} {deposits : Deposits}
    (hkeeps : session.Keeps policy deposits) (key : String) :
    (session.hide key).1 =
      (deposits key).map fun deposit => policy.shown deposit.field deposit.raw := by
  cases hhandle : session.reveals.get? key with
  | none =>
      rw [hide_of_none hhandle, (hkeeps.kept.get?_eq_none_iff key).mp hhandle]
      rfl
  | some handle =>
      obtain ⟨field, pattern, hdeposit, -, hdecide, hmasked⟩ := hkeeps.kept.get?_eq_some hhandle
      rw [hkeeps.bound_eq] at hdecide
      rw [hide_of_get? hhandle, hdeposit, hmasked]
      simp only [Option.map_some, Policy.shown_of_masked hdecide]

variable [Timeline T]

/-- Where no handle of the value may be consulted, the value is masked. -/
theorem answer_display_of_not_consulted {session : Session T} {policy : Policy}
    (hpolicy : session.policy = policy) (hopen : session.isProtected = false) {field : Field}
    {raw : String} (hraw : raw ≠ "") (hmasked : (policy.decide field).shouldMask = true)
    {key : Option String} (hconsulted : session.consulted? raw field key = none) :
    (session.display (some raw) field key).answer.1 = (policy.mask field (some raw)).answer := by
  obtain ⟨pattern, hdecide⟩ := Policy.decide_of_shouldMask hmasked
  have hmasks : session.policy.Masks field pattern (some raw) raw :=
    ⟨rfl, hraw, hpolicy ▸ hdecide⟩
  rw [display_of_not_consulted hopen hmasks hconsulted, Policy.answer_mask, Option.map_some,
    Policy.shown_of_masked hdecide]

/-- A handle that is consulted shows its value, raw or as its deposit masks it. -/
theorem answer_display_of_consulted {session : Session T} {policy : Policy}
    {deposits : Deposits} (hkeeps : session.Keeps policy deposits)
    (hopen : policy.protects = false) {field : Field} {raw : String} (hraw : raw ≠ "")
    (hmasked : (policy.decide field).shouldMask = true) {key : Option String} {found : String}
    {handle : TimedHandle T}
    (hconsulted : session.consulted? raw field key = some (found, handle)) :
    (handle.ShowsAt session.desk.now →
      (session.display (some raw) field key).answer.1 = some raw) ∧
    (¬ handle.ShowsAt session.desk.now → ∃ given, deposits found = some ⟨raw, given⟩ ∧
      (session.display (some raw) field key).answer.1 =
        (policy.mask given (some raw)).answer) := by
  obtain ⟨pattern, hdecide⟩ := Policy.decide_of_shouldMask hmasked
  have hmasks : session.policy.Masks field pattern (some raw) raw :=
    ⟨rfl, hraw, hkeeps.policy_eq ▸ hdecide⟩
  obtain ⟨-, -, -, hhandle, hown⟩ :=
    (session.consulted?_eq_some_iff raw field key found handle).mp hconsulted
  rw [display_of_consulted (hkeeps.isProtected.trans hopen) hmasks hconsulted]
  constructor
  · intro hshows
    rw [TimedHandle.current_settle_of_showsAt hshows, hown]
  · intro hhides
    obtain ⟨given, other, hdeposit, -, hgiven, htext⟩ := hkeeps.kept.get?_eq_some hhandle
    rw [hkeeps.bound_eq] at hgiven
    refine ⟨given, hown ▸ hdeposit, ?_⟩
    rw [TimedHandle.current_settle_of_not_showsAt hhides, htext, hown, Policy.answer_mask,
      Option.map_some, Policy.shown_of_masked hgiven]

omit [Timeline T] in
/-- Another value's handle, or none, is as good as no key. -/
theorem consulted?_eq_none {session : Session T} {raw : String} {field : Field} {key : String}
    (hother : session.policy.mayReveal field = false ∨
      ∀ handle, session.reveals.get? key = some handle → handle.raw ≠ raw) :
    session.consulted? raw field (some key) = none := by
  rw [Option.eq_none_iff_forall_not_mem]
  rintro ⟨found, handle⟩ hfound
  obtain ⟨hkey, -, hreveal, hhandle, hown⟩ :=
    (session.consulted?_eq_some_iff raw field (some key) found handle).mp hfound
  obtain rfl := Option.some.inj hkey
  rcases hother with hrefused | hother
  · rw [hrefused] at hreveal
    cases hreveal
  · exact hother handle hhandle hown

/-- What a display shows for a masked field, after any calls.  The key's handle
counts if it is of the value and the field may be revealed: it shows the raw
value while it is revealed, and else the value masked for the field of the
key's deposit.  In all other cases the value is masked for the field itself. -/
theorem display_after_run (policy : Policy) (account : Option AccountCard)
    (recorder : Audit.Recorder) (durationMs : Number) (now : T) (calls : List (Call T))
    (hopen : policy.protects = false) {raw : String} (hraw : raw ≠ "") {field : Field}
    (hmasked : (policy.decide field).shouldMask = true) {key : String} (hkey : key ≠ "") :
    let session := ((start policy account recorder durationMs none now).run calls).answer.2
    let shown := (session.display (some raw) field (some key)).answer.1
    (∀ handle, policy.mayReveal field = true → session.reveals.get? key = some handle →
      handle.raw = raw →
        (handle.ShowsAt session.desk.now → shown = some raw) ∧
        (¬ handle.ShowsAt session.desk.now →
          ∃ given, Deposits.ofCalls policy calls key = some ⟨raw, given⟩ ∧
            shown = (policy.mask given (some raw)).answer)) ∧
    ((policy.mayReveal field = false ∨
        ∀ handle, session.reveals.get? key = some handle → handle.raw ≠ raw) →
      shown = (policy.mask field (some raw)).answer) := by
  intro session shown
  have hkeeps : session.Keeps policy (Deposits.ofCalls policy calls) :=
    keeps_of_run policy account recorder durationMs now calls
  constructor
  · intro handle hreveal hhandle hown
    have hconsulted : session.consulted? raw field (some key) = some (key, handle) :=
      (session.consulted?_eq_some_iff raw field (some key) key handle).mpr
        ⟨rfl, hkey, hkeeps.policy_eq ▸ hreveal, hhandle, hown⟩
    exact answer_display_of_consulted hkeeps hopen hraw hmasked hconsulted
  · intro hother
    apply answer_display_of_not_consulted hkeeps.policy_eq (hkeeps.isProtected.trans hopen) hraw
      hmasked
    exact consulted?_eq_none (hkeeps.policy_eq.symm ▸ hother)

/-- A revealed value shows, and it shows masked once its three seconds are over. -/
theorem display_after_run_expiry :
    let value := "john.doe@example.com"
    let policy : Policy := ⟨some .default, none⟩
    let calls := fun later : Int => [Call.reveal (some value) Field.email "contact" none,
      .desk (.setClock (Seconds.ofMs (.int later)))]
    let session := fun later : Int => ((start policy none ⟨.log, ""⟩ (.int 3000) none
      (Seconds.ofMs (.int 0))).run (calls later)).answer.2
    let shown := fun later : Int =>
      ((session later).display (some value) Field.email (some "contact")).answer.1
    policy.protects = false ∧ (policy.decide Field.email).shouldMask = true ∧
      policy.mayReveal Field.email = true ∧ shown 2999 = some value ∧
      ∃ given, Deposits.ofCalls policy (calls 3000) "contact" = some ⟨value, given⟩ ∧
        shown 3000 = (policy.mask given (some value)).answer := by
  intro value policy calls session shown
  have hvalue : value ≠ "" := by decide
  have hkey : "contact" ≠ "" := by decide
  have hafter := fun later : Int => (display_after_run policy none ⟨.log, ""⟩ (.int 3000)
    (Seconds.ofMs (.int 0)) (calls later) rfl hvalue
    (rfl : (policy.decide .email).shouldMask = true) hkey).1 _ rfl rfl rfl
  refine ⟨rfl, rfl, rfl, (hafter 2999).1 ⟨_, rfl, by decide +kernel⟩, (hafter 3000).2 ?_⟩
  rintro ⟨deadline, hrevealed, hearly⟩
  cases hrevealed
  revert hearly
  decide +kernel

/-- The handle of a value made as a phone number has no digits to mask, so a
display of the value as an email address shows it raw though it is hidden. -/
theorem display_hidden_as_other_field :
    let value := "john.doe@example.com"
    let start := ofSettings .default none
    let session := (start.run [.create (some value) Field.phone "contact" "contact"]).answer.2
    start.policy.protects = false ∧ (start.policy.decide Field.email).shouldMask = true ∧
      (∃ handle, session.reveals.get? "contact" = some handle ∧ handle.raw = value ∧
        ¬ handle.ShowsAt session.desk.now) ∧
      (session.display (some value) Field.email (some "contact")).answer.1 = some value ∧
      (start.policy.mask Field.email (some value)).answer = some "j***e@e***.com" := by
  refine ⟨rfl, rfl, ⟨_, rfl, rfl, ?_⟩, by decide, by decide⟩
  rintro ⟨deadline, hrevealed, -⟩
  cases hrevealed

/-- A display at a key answers the mark of protected users, the value itself,
the value masked for the field, or the value masked for the field of the
key's deposit, which is then of this same value. -/
theorem answer_display_cases {session : Session T} {policy : Policy} {deposits : Deposits}
    (hkeeps : session.Keeps policy deposits) (value : Option String) (field : Field)
    (key : Option String) :
    let shown := (session.display value field key).answer.1
    (policy.protects = true ∧ shown = some Protection.mark) ∨
    (policy.protects = false ∧
      (shown = value ∨ shown = (policy.mask field value).answer ∨
        ∃ found raw given, key = some found ∧ value = some raw ∧
          deposits found = some ⟨raw, given⟩ ∧ shown = (policy.mask given value).answer)) := by
  intro shown
  cases hprotected : policy.protects with
  | true =>
      refine Or.inl ⟨rfl, ?_⟩
      simp only [shown, display_protected (hkeeps.isProtected.trans hprotected)]
  | false =>
      refine Or.inr ⟨rfl, ?_⟩
      have hopen := hkeeps.isProtected.trans hprotected
      rcases policy.passes_or_masks field value with hpasses | ⟨pattern, raw, hmasks⟩
      · left
        simp only [shown, display_passes hopen (hkeeps.policy_eq ▸ hpasses)]
      · obtain ⟨rfl, hraw, hdecide⟩ := hmasks
        have hmasked : (policy.decide field).shouldMask = true := by
          rw [hdecide]
          rfl
        cases hconsulted : session.consulted? raw field key with
        | none =>
            exact Or.inr (Or.inl (answer_display_of_not_consulted hkeeps.policy_eq hopen hraw
              hmasked hconsulted))
        | some pair =>
            obtain ⟨found, handle⟩ := pair
            obtain ⟨hkey, -⟩ :=
              (session.consulted?_eq_some_iff raw field key found handle).mp hconsulted
            have hshown := answer_display_of_consulted hkeeps hprotected hraw hmasked hconsulted
            by_cases hshows : handle.ShowsAt session.desk.now
            · exact Or.inl (hshown.1 hshows)
            · obtain ⟨given, hdeposit, hgiven⟩ := hshown.2 hshows
              exact Or.inr (Or.inr ⟨found, raw, given, hkey, rfl, hdeposit, hgiven⟩)

/-- A handle of another value is never consulted. -/
theorem answer_display_of_other (session : Session T) {value : Option String} (field : Field)
    {key : String} {handle : TimedHandle T} (hhandle : session.reveals.get? key = some handle)
    (hother : some handle.raw ≠ value) :
    (session.display value field (some key)).answer.1 =
      (session.display value field none).answer.1 := by
  cases hprotected : session.isProtected with
  | true => rw [display_protected hprotected, display_protected hprotected]
  | false =>
      rcases session.policy.passes_or_masks field value with hpasses | ⟨pattern, raw, hmasks⟩
      · rw [display_passes hprotected hpasses, display_passes hprotected hpasses]
      · obtain ⟨rfl, -⟩ := id hmasks
        have hkeyed : session.consulted? raw field (some key) = none := by
          apply consulted?_eq_none
          right
          intro found hfound hraw
          rw [hhandle] at hfound
          exact hother (Option.some.inj hfound ▸ congrArg some hraw)
        have hkeyless : session.consulted? raw field none = none := rfl
        rw [display_of_not_consulted hprotected hmasks hkeyed,
          display_of_not_consulted hprotected hmasks hkeyless]

/-- A key that is used again never shows the value of another record.  Every
handle that a key holds is of a value that some call gave the key, masked for
the field it was given as; a display shows its own value, raw or masked, and is
not touched by a handle of another value; and hiding shows the deposit masked. -/
theorem keys_show_own_values (policy : Policy) (account : Option AccountCard)
    (recorder : Audit.Recorder) (durationMs : Number) (now : T) (calls : List (Call T)) :
    let session := ((start policy account recorder durationMs none now).run calls).answer.2
    let deposits := Deposits.ofCalls policy calls
    (∀ key handle, session.reveals.get? key = some handle → handle.raw ≠ "" ∧
      ∃ given pattern, deposits key = some ⟨handle.raw, given⟩ ∧
        (∃ call ∈ calls, call.Gives key handle.raw given) ∧
        policy.decide given = .masked pattern ∧
        handle.masked = given.mask pattern handle.raw) ∧
    (∀ value field key,
      let shown := (session.display value field key).answer.1
      (policy.protects = true ∧ shown = some Protection.mark) ∨
      (policy.protects = false ∧
        (shown = value ∨ shown = (policy.mask field value).answer ∨
          ∃ found raw given, key = some found ∧ value = some raw ∧
            (∃ call ∈ calls, call.Gives found raw given) ∧
            shown = (policy.mask given value).answer))) ∧
    (∀ value field key handle, session.reveals.get? key = some handle →
      some handle.raw ≠ value →
      (session.display value field (some key)).answer.1 =
        (session.display value field none).answer.1) ∧
    (∀ key, (session.hide key).1 =
      (deposits key).map fun deposit => policy.shown deposit.field deposit.raw) := by
  intro session deposits
  have hkeeps : session.Keeps policy deposits :=
    keeps_of_run policy account recorder durationMs now calls
  refine ⟨?_, ?_, ?_, answer_hide hkeeps⟩
  · intro key handle hhandle
    obtain ⟨given, pattern, hdeposit, hraw, hdecide, hmasked⟩ :=
      hkeeps.kept.get?_eq_some hhandle
    rw [hkeeps.bound_eq] at hdecide
    exact ⟨hraw, given, pattern, hdeposit, exists_gives_of_deposit hdeposit, hdecide, hmasked⟩
  · intro value field key shown
    rcases answer_display_cases hkeeps value field key with hmark | ⟨hopen, hshown⟩
    · exact Or.inl hmark
    · refine Or.inr ⟨hopen, ?_⟩
      rcases hshown with hraw | hmasked | ⟨found, raw, given, hkey, hvalue, hdeposit, hgiven⟩
      · exact Or.inl hraw
      · exact Or.inr (Or.inl hmasked)
      · exact Or.inr (Or.inr ⟨found, raw, given, hkey, hvalue,
          exists_gives_of_deposit hdeposit, hgiven⟩)
  · intro value field key handle hhandle hother
    exact session.answer_display_of_other field hhandle hother

end Session

end Display

end ContactPrivacy
