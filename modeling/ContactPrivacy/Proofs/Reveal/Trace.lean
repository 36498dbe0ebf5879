/-
What shows at a key, told by the calls of a run alone.  The last timed handle
that a key was given follows a timer, which the calls that come after switch;
what is done at one key does not reach the handle of another.
-/
import ContactPrivacy.Proofs.Reveal.Keys

namespace ContactPrivacy.Reveal

variable {T : Type} [Timeline T]

/-- The instant of the reveal that counts after a call of a handle.  A toggle
hides what shows and reveals what does not. -/
def HandleCall.switch (durationMs : Number) (now : T) (revealed : Option T) :
    HandleCall → Option T
  | .reveal => some now
  | .hide => none
  | .toggle =>
      if Timer.shows now (revealed.map (Timeline.after · durationMs)) then none else some now
  | .value | .isRevealed | .state => revealed

/-- The instant of the reveal that counts at a key after a call. -/
def KeyCall.switch (durationMs : Number) (key : String) (now : T) (revealed : Option T) :
    KeyCall → Option T
  | .handle called call => if called = key then call.switch durationMs now revealed else revealed
  | .hideAll => none
  | .create _ _ _ | .clear => revealed

def switchAll (durationMs : Number) (key : String) (revealed : Option T)
    (calls : List (T × KeyCall)) : Option T :=
  calls.foldl (fun revealed entry => entry.2.switch durationMs key entry.1 revealed) revealed

/-- When the handle that a key was last given was revealed, if the last of the
calls that reveal or hide it did reveal it: told by the calls since. -/
def revealedAt (durationMs : Number) (key : String) (since : List (T × KeyCall)) : Option T :=
  switchAll durationMs key none since

theorem switchAll_cons (durationMs : Number) (key : String) (revealed : Option T)
    (entry : T × KeyCall) (rest : List (T × KeyCall)) :
    switchAll durationMs key revealed (entry :: rest) =
      switchAll durationMs key (entry.2.switch durationMs key entry.1 revealed) rest := rfl

theorem switchAll_append (durationMs : Number) (key : String) (revealed : Option T)
    (before after : List (T × KeyCall)) :
    switchAll durationMs key revealed (before ++ after) =
      switchAll durationMs key (switchAll durationMs key revealed before) after :=
  List.foldl_append

/-- The call cannot show the value at a key. -/
def KeyCall.Quiet (key : String) (call : KeyCall) : Prop :=
  call ≠ .handle key .reveal ∧ call ≠ .handle key .toggle

/-- What is hidden stays so up to the next reveal or toggle. -/
theorem switchAll_none (durationMs : Number) {key : String} {calls : List (T × KeyCall)}
    (hquiet : ∀ entry ∈ calls, entry.2.Quiet key) : switchAll durationMs key none calls = none := by
  induction calls with
  | nil => rfl
  | cons entry rest ih =>
      obtain ⟨hhead, hrest⟩ := List.forall_mem_cons.mp hquiet
      have hnone : entry.2.switch durationMs key entry.1 none = none := by
        obtain ⟨now, call⟩ := entry
        cases call with
        | create | hideAll | clear => rfl
        | handle called call =>
            by_cases hkey : called = key
            · subst hkey
              cases call with
              | reveal => exact (hhead.1 rfl).elim
              | toggle => exact (hhead.2 rfl).elim
              | hide | value | isRevealed | state => simp [KeyCall.switch, HandleCall.switch]
            · simp [KeyCall.switch, hkey]
      rw [switchAll_cons, hnone]
      exact ih hrest

/-- No reveal counts after everything was hidden, until the next one at the
key.  The key may have been given its handle before that or after it. -/
theorem revealedAt_eq_none (durationMs : Number) {key : String}
    {before since : List (T × KeyCall)} {hidden : T} {after : List (T × KeyCall)}
    (hsince : since <:+ before ++ (hidden, .hideAll) :: after)
    (hquiet : ∀ entry ∈ after, entry.2.Quiet key) : revealedAt durationMs key since = none := by
  have hquiet' : ∀ entry ∈ (hidden, .hideAll) :: after, entry.2.Quiet key :=
    List.forall_mem_cons.mpr ⟨⟨by simp, by simp⟩, hquiet⟩
  rcases List.suffix_or_suffix_of_suffix hsince (List.suffix_append before _) with hlate | hearly
  · exact switchAll_none durationMs fun entry hentry => hquiet' entry (hlate.subset hentry)
  · obtain ⟨earlier, rfl⟩ := hearly
    rw [revealedAt, switchAll_append, switchAll_cons]
    exact switchAll_none durationMs hquiet

/-- The timer's deadline after a call is that of the reveal that counts. -/
theorem Timer.step_switch (timer : Timer) (now : T) (revealed : Option T) (call : HandleCall) :
    (timer.step now (revealed.map (Timeline.after · timer.durationMs)) call).2 =
      (call.switch timer.durationMs now revealed).map (Timeline.after · timer.durationMs) := by
  cases call with
  | toggle =>
      simp only [Timer.step, HandleCall.switch]
      split <;> rfl
  | _ => rfl

namespace Reveals

/-- A key holds a handle that stands for a timer, and the reveal of it that
counts was at an instant or there is none. -/
def Follows (reveals : Reveals T) (now : T) (key : String) (timer : Timer)
    (revealed : Option T) : Prop :=
  ∃ handle, reveals.get? key = some handle ∧ handle.timer = timer ∧
    handle.visibility.Follows now (revealed.map (Timeline.after · timer.durationMs))

/-- A key that was just given a handle. -/
theorem follows_of_gives (reveals : Reveals T) (now : T) {call : KeyCall} {key : String}
    {deposit : Deposit} {pattern : Pattern} (hgives : call.Gives reveals.policy key deposit)
    (hdecide : reveals.policy.decide deposit.field = .masked pattern) (later : T) :
    (reveals.perform now call).Follows later key ⟨deposit.raw,
      deposit.field.mask pattern deposit.raw, reveals.durationMs⟩ none :=
  ⟨_, reveals.get?_perform_of_gives now hgives hdecide, rfl, Visibility.follows_none later⟩

/-- One call that leaves the key its handle. -/
theorem Follows.perform {reveals : Reveals T} {now : T} {key : String} {timer : Timer}
    {revealed : Option T} (hfollows : reveals.Follows now key timer revealed) {call : KeyCall}
    (hkept : call ≠ .clear) (hlast : ∀ deposit, ¬ call.Gives reveals.policy key deposit) :
    (reveals.perform now call).Follows now key timer
      (call.switch timer.durationMs key now revealed) := by
  obtain ⟨handle, hhandle, rfl, hvisible⟩ := hfollows
  cases call with
  | create value field given =>
      exact ⟨handle, (get?_perform_create reveals now hlast).trans hhandle, rfl, hvisible⟩
  | handle called call =>
      by_cases hkey : called = key
      · subst hkey
        rcases reveals.perform_handle now called call with ⟨found, hfound, hafter⟩ | ⟨hnone, -⟩
        · obtain rfl : found = handle := Option.some.inj (hfound.symm.trans hhandle)
          refine ⟨_, hafter ▸ get?_setHandle hhandle, found.call_timer now call, ?_⟩
          simp only [KeyCall.switch, if_true, ← Timer.step_switch]
          exact (TimedHandle.call_follows hvisible call).2
        · rw [hhandle] at hnone
          cases hnone
      · rw [KeyCall.switch, if_neg hkey]
        exact ⟨handle, (get?_perform_of_ne reveals now rfl (Ne.symm hkey)).trans hhandle, rfl,
          hvisible⟩
  | hideAll =>
      refine ⟨handle.hide, ?_, rfl, Visibility.follows_none now⟩
      simp only [Reveals.perform, get?_hideAll, hhandle, Option.map_some]
  | clear => exact (hkept rfl).elim

theorem currentValue_of_get? {reveals : Reveals T} {key : String} {handle : TimedHandle T}
    (hhandle : reveals.get? key = some handle) (now : T) (default : Option String) :
    (reveals.currentValue now key default).1 = some (handle.settle now).current := by
  simp only [currentValue, hhandle]

/-- What shows at a key. -/
theorem Follows.currentValue {reveals : Reveals T} {now : T} {key : String} {timer : Timer}
    {revealed : Option T} (hfollows : reveals.Follows now key timer revealed)
    (default : Option String) :
    (reveals.currentValue now key default).1 =
      some (if Timer.shows now (revealed.map (Timeline.after · timer.durationMs)) then timer.raw
        else timer.masked) := by
  obtain ⟨handle, hhandle, rfl, hvisible⟩ := hfollows
  obtain ⟨-, hshown, -⟩ := hvisible.settle
  rw [currentValue_of_get? hhandle, TimedHandle.current_eq, TimedHandle.isRevealed,
    TimedHandle.settle, hshown]
  rfl

theorem currentValue_of_not_has (reveals : Reveals T) (now : T) {key : String}
    (hhas : reveals.has key = false) (default : Option String) :
    (reveals.currentValue now key default).1 = default := by
  have hnone : reveals.get? key = none := by
    rw [← Option.isNone_iff_eq_none, ← Option.isSome_eq_false_iff]
    exact hhas
  simp only [Reveals.currentValue, hnone]

/-- A call about one key does not change what shows at another, at any instant. -/
theorem currentValue_perform_of_ne (reveals : Reveals T) (now : T) {call : KeyCall}
    {key other : String} (hkey : call.key? = some key) (hne : other ≠ key) (later : T)
    (default : Option String) :
    ((reveals.perform now call).currentValue later other default).1 =
      (reveals.currentValue later other default).1 := by
  have hsame := reveals.get?_perform_of_ne now hkey hne
  unfold currentValue
  rw [hsame]
  split <;> rfl

variable [Preorder T] [Timeline.Steady T]

theorem Follows.later {reveals : Reveals T} {now later : T} (hle : now ≤ later) {key : String}
    {timer : Timer} {revealed : Option T} (hfollows : reveals.Follows now key timer revealed) :
    reveals.Follows later key timer revealed := by
  obtain ⟨handle, hhandle, htimer, hvisible⟩ := hfollows
  exact ⟨handle, hhandle, htimer, hvisible.later hle⟩

/-- A run on a clock that does not go back and in which the key keeps its handle. -/
theorem Follows.performAll {reveals : Reveals T} {now : T} {key : String} {timer : Timer}
    {revealed : Option T} (hfollows : reveals.Follows now key timer revealed)
    {calls : List (T × KeyCall)} (hclock : (now :: calls.map Prod.fst).Pairwise (· ≤ ·))
    (hkept : ∀ entry ∈ calls, entry.2 ≠ .clear)
    (hlast : ∀ entry ∈ calls, ∀ deposit, ¬ entry.2.Gives reveals.policy key deposit) {later : T}
    (hnow : now ≤ later) (hlater : ∀ entry ∈ calls, entry.1 ≤ later) :
    (reveals.performAll calls).Follows later key timer
      (switchAll timer.durationMs key revealed calls) := by
  induction calls generalizing reveals now revealed with
  | nil => exact hfollows.later hnow
  | cons entry rest ih =>
      obtain ⟨hnext, hclock⟩ := List.pairwise_cons.mp hclock
      obtain ⟨hkeptHead, hkept⟩ := List.forall_mem_cons.mp hkept
      obtain ⟨hlastHead, hlast⟩ := List.forall_mem_cons.mp hlast
      obtain ⟨hlaterHead, hlater⟩ := List.forall_mem_cons.mp hlater
      have hstep := (hfollows.later (hnext entry.1 List.mem_cons_self)).perform hkeptHead hlastHead
      rw [← reveals.policy_perform entry.1 entry.2] at hlast
      exact ih hstep hclock hkept hlast hlaterHead hlater

/-- The handle that a key was last given in a run on new reveals follows the
timer of its value, switched by the calls since. -/
theorem follows_of_lastGiven {policy : Policy} (durationMs : Number) {calls : List (T × KeyCall)}
    {key : String} {deposit : Deposit} {since : List (T × KeyCall)}
    (hgiven : LastGiven policy calls key deposit since) {pattern : Pattern}
    (hdecide : policy.decide deposit.field = .masked pattern)
    (hclock : (calls.map Prod.fst).Pairwise (· ≤ ·)) {now : T}
    (hnow : ∀ entry ∈ calls, entry.1 ≤ now) :
    ((empty policy durationMs).performAll calls).Follows now key
      ⟨deposit.raw, deposit.field.mask pattern deposit.raw, durationMs⟩
      (revealedAt durationMs key since) := by
  obtain ⟨⟨before, entry, rfl, hgives⟩, hkept, hlast⟩ := hgiven
  have hterms := (empty policy durationMs : Reveals T).terms_performAll before
  obtain ⟨hpolicy, hduration⟩ := Prod.mk.inj hterms
  change _ = policy at hpolicy
  change _ = durationMs at hduration
  rw [← hpolicy] at hgives hdecide hlast
  have hstart := follows_of_gives _ entry.1 hgives hdecide entry.1
  rw [hduration] at hstart
  rw [List.map_append, List.map_cons] at hclock
  rw [performAll_append, performAll_cons]
  refine hstart.performAll (List.pairwise_append.mp hclock).2.1 hkept ?_ ?_ ?_
  · rw [policy_perform]
    exact hlast
  · exact hnow entry (by simp)
  · exact fun call hcall => hnow call (by simp [hcall])

end Reveals

/-- On exact instants a timer shows up to its duration after the reveal. -/
theorem Timer.shows_after (durationMs : Number) (now : ℚ) (revealed : Option ℚ) :
    Timer.shows now (revealed.map (Timeline.after · durationMs)) =
      revealed.any fun instant => decide (now < instant + durationMs.toRat / 1000) := by
  cases revealed <;> simp [Timer.shows, Timeline.reached, Timeline.after, ← decide_not]

namespace Reveals

/-- A session's reveals are told by the calls made on them, on an exact clock
that does not go back.  A key holds a handle if it was given one since the
keys were last cleared, and shows the raw value of the last one given while
the last switch of that handle is a reveal less than the duration ago; in
every other case the value is masked as the policy says.  Hence what is done
at one key never shows at another, and once everything is hidden a key shows
its masked value until a reveal or a toggle at it. -/
theorem shown_by_trace (policy : Policy) (durationMs : Number) {calls : List (ℚ × KeyCall)}
    {now : ℚ} (hclock : (calls.map Prod.fst).Pairwise (· ≤ ·))
    (hnow : ∀ entry ∈ calls, entry.1 ≤ now) :
    let reveals : Reveals ℚ := (empty policy durationMs).performAll calls
    let shown := fun key default => (reveals.currentValue now key default).1
    (∀ key, reveals.has key = true ↔ Held policy calls key) ∧
    reveals.size = {key | Held policy calls key}.ncard ∧
    (∀ key default, ¬ Held policy calls key → shown key default = default) ∧
    (∀ key, Held policy calls key → ∃ deposit since, LastGiven policy calls key deposit since) ∧
    (∀ key deposit since, LastGiven policy calls key deposit since →
      ∃ pattern, policy.decide deposit.field = .masked pattern ∧
        ∀ default, shown key default = some
          (if (revealedAt durationMs key since).any fun instant =>
              decide (now < instant + durationMs.toRat / 1000) then deposit.raw
          else deposit.field.mask pattern deposit.raw)) ∧
    (∀ call key other default, call.key? = some key → other ≠ key →
      ((reveals.perform now call).currentValue now other default).1 = shown other default) ∧
    ∀ before hidden after, calls = before ++ (hidden, .hideAll) :: after →
      ∀ key deposit since, (∀ entry ∈ after, entry.2.Quiet key) →
        LastGiven policy calls key deposit since →
          ∃ pattern, policy.decide deposit.field = .masked pattern ∧
            ∀ default, shown key default = some (deposit.field.mask pattern deposit.raw) := by
  intro reveals shown
  have hhas : ∀ key, reveals.has key = true ↔ Held policy calls key :=
    has_performAll_empty policy durationMs calls
  have hvalue : ∀ key deposit since, LastGiven policy calls key deposit since →
      ∃ pattern, policy.decide deposit.field = .masked pattern ∧
        ∀ default, shown key default = some
          (if (revealedAt durationMs key since).any fun instant =>
              decide (now < instant + durationMs.toRat / 1000) then deposit.raw
          else deposit.field.mask pattern deposit.raw) := by
    intro key deposit since hgiven
    obtain ⟨-, pattern, hdecide⟩ := hgiven.masked
    refine ⟨pattern, hdecide, fun default => ?_⟩
    have hfollows := follows_of_lastGiven durationMs hgiven hdecide hclock hnow
    rw [← Timer.shows_after]
    exact hfollows.currentValue default
  refine ⟨hhas, ?_, ?_, fun key => exists_lastGiven, hvalue, ?_, ?_⟩
  · have hempty : (empty policy durationMs : Reveals ℚ).Distinct := List.nodup_nil
    exact (hempty.performAll calls).size_eq_ncard.trans (congrArg Set.ncard (Set.ext hhas))
  · intro key default hfree
    rw [← hhas, Bool.not_eq_true] at hfree
    exact reveals.currentValue_of_not_has now hfree default
  · exact fun call key other default hkey hne =>
      reveals.currentValue_perform_of_ne now hkey hne now default
  · rintro before hidden after hcalls key deposit since hquiet hgiven
    obtain ⟨pattern, hdecide, hshown⟩ := hvalue key deposit since hgiven
    refine ⟨pattern, hdecide, fun default => ?_⟩
    have hnone := revealedAt_eq_none durationMs (hcalls ▸ hgiven.since_suffix) hquiet
    rw [hshown, hnone]
    rfl

/-- Of two keys that are hidden together, only the one that is toggled
afterwards shows its value again. -/
theorem shown_by_trace_after_hideAll :
    let policy : Policy := ⟨some .default, none⟩
    let before : List (ℚ × KeyCall) := [(0, .create (some "555-123-4567") .phone "phone"),
      (0, .create (some "john.doe@example.com") .email "email"), (1, .handle "phone" .reveal)]
    let calls := before ++ [(2, .hideAll), (3, .handle "email" .toggle)]
    let reveals := ((empty policy (.int 3000)).performAll calls)
    (calls.map Prod.fst).Pairwise (· ≤ ·) ∧ (∀ entry ∈ calls, entry.1 ≤ 5) ∧
      (reveals.currentValue 5 "email" none).1 = some "john.doe@example.com" ∧
      (reveals.currentValue 5 "phone" none).1 = some "***-***-4567" ∧
      (reveals.currentValue 5 "address" (some "none")).1 = some "none" := by
  intro policy before calls reveals
  have hclock : (calls.map Prod.fst).Pairwise (· ≤ ·) := by decide +kernel
  have hnow : ∀ entry ∈ calls, entry.1 ≤ 5 := by decide +kernel
  obtain ⟨-, -, hdefault, -, hvalue, -, hhidden⟩ := shown_by_trace policy (.int 3000) hclock hnow
  have hemail : LastGiven policy calls "email" ⟨"john.doe@example.com", .email⟩
      [(1, .handle "phone" .reveal), (2, .hideAll), (3, .handle "email" .toggle)] :=
    ⟨⟨[_], _, rfl, rfl, by decide, _, rfl⟩, by decide +kernel, by simp [KeyCall.Gives]⟩
  have hphone : LastGiven policy calls "phone" ⟨"555-123-4567", .phone⟩
      ((0, .create (some "john.doe@example.com") .email "email") :: (1, .handle "phone" .reveal) ::
        [(2, .hideAll), (3, .handle "email" .toggle)]) :=
    ⟨⟨[], _, rfl, rfl, by decide, _, rfl⟩, by decide +kernel, by simp [KeyCall.Gives]⟩
  refine ⟨hclock, hnow, ?_, ?_, ?_⟩
  · obtain ⟨pattern, -, hshown⟩ := hvalue _ _ _ hemail
    exact (hshown none).trans (congrArg some (if_pos (by decide +kernel)))
  · obtain ⟨pattern, hdecide, hshown⟩ :=
      hhidden before 2 _ rfl _ _ _ (by simp [KeyCall.Quiet]) hphone
    obtain rfl : Pattern.standard = pattern := Decision.masked.inj hdecide
    exact (hshown none).trans (by decide)
  · refine hdefault "address" (some "none") ?_
    rw [← has_performAll_empty policy (.int 3000)]
    decide +kernel

end Reveals

end ContactPrivacy.Reveal
