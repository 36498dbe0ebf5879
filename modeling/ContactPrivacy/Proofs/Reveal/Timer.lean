/-
The timer that a timed handle stands for.  A handle hides its value only when
it is looked at after the deadline; a timer keeps an optional deadline and
nothing else, and shows strictly before it.  As long as the clock does not go
back, nobody can tell the two apart.
-/
import Mathlib.Algebra.Order.Field.Rat
import Mathlib.Data.List.Pairwise
import Mathlib.Tactic.NormNum
import ContactPrivacy.Reveal.Handle

namespace ContactPrivacy

/-- The exact value of a number. -/
def Number.toRat : Number → ℚ
  | .int n => n
  | .float x => x.toRat

namespace Reveal

/-- A timeline on which a deadline that is reached stays reached. -/
class Timeline.Steady (T : Type) [Timeline T] [Preorder T] : Prop where
  reached_of_le (deadline : T) {now later : T} :
    now ≤ later → Timeline.reached deadline now = true → Timeline.reached deadline later = true

/-- Instants as exact numbers of seconds. -/
instance : Timeline ℚ where
  after now durationMs := now + durationMs.toRat / 1000
  reached deadline now := decide (deadline ≤ now)

instance : Timeline.Steady ℚ where
  reached_of_le _ _ _ hle hreached := decide_eq_true ((of_decide_eq_true hreached).trans hle)

/-- Instants of the running clock in the order of their exact values. -/
instance : Preorder Seconds := Preorder.lift fun instant => instant.value.toRat

instance : Timeline.Steady Seconds where
  reached_of_le _ _ _ hle hreached := decide_eq_true (le_trans (of_decide_eq_true hreached) hle)

variable {T : Type} [Timeline T]

/-- What a timer is set up with: the texts it chooses from, and how long it runs. -/
structure Timer where
  raw : String
  masked : String
  durationMs : Number

namespace Timer

/-- A timer shows while it has a deadline that the clock has not reached. -/
def shows (now : T) (deadline : Option T) : Bool :=
  deadline.any fun instant => !Timeline.reached instant now

/-- One call of a timer: its answer, and the deadline after it. -/
def step (timer : Timer) (now : T) (deadline : Option T) :
    HandleCall → HandleAnswer T × Option T
  | .reveal => (.text (some timer.raw), some (Timeline.after now timer.durationMs))
  | .hide => (.text (some timer.masked), none)
  | .toggle =>
      if shows now deadline then (.text (some timer.masked), none)
      else (.text (some timer.raw), some (Timeline.after now timer.durationMs))
  | .value => (.text (some (if shows now deadline then timer.raw else timer.masked)), deadline)
  | .isRevealed => (.flag (shows now deadline), deadline)
  | .state =>
      (.state (shows now deadline) (if shows now deadline then deadline else none), deadline)

/-- The answers of a timer to calls at instants, and the deadline after them. -/
def run (timer : Timer) (deadline : Option T) :
    List (T × HandleCall) → List (HandleAnswer T) × Option T
  | [] => ([], deadline)
  | (now, call) :: rest =>
      let (answer, deadline) := timer.step now deadline call
      let (answers, deadline) := timer.run deadline rest
      (answer :: answers, deadline)

end Timer

def HandleCall.isLook : HandleCall → Bool
  | .value | .isRevealed | .state => true
  | .reveal | .hide | .toggle => false

namespace Timer

theorem shows_eq_true_iff (now : T) (deadline : Option T) :
    shows now deadline = true ↔
      ∃ instant, deadline = some instant ∧ Timeline.reached instant now = false := by
  cases deadline <;> simp [shows]

theorem shows_eq_false_iff (now : T) (deadline : Option T) :
    shows now deadline = false ↔
      ∀ instant, deadline = some instant → Timeline.reached instant now = true := by
  cases deadline <;> simp [shows]

/-- On exact instants a timer shows strictly before its deadline. -/
theorem shows_iff_lt (now : ℚ) (deadline : Option ℚ) :
    shows now deadline = true ↔ ∃ instant, deadline = some instant ∧ now < instant := by
  rw [shows_eq_true_iff]
  simp [Timeline.reached]

/-- The deadline that a state tells: there is one while the timer shows, and
it is still ahead. -/
theorem told_deadline (now : ℚ) (deadline : Option ℚ) :
    let told := if shows now deadline then deadline else none
    (shows now deadline = true ↔ told.isSome = true) ∧
      ∀ instant, told = some instant → now < instant := by
  intro told
  cases hshows : shows now deadline with
  | false => simp [told, hshows]
  | true =>
      obtain ⟨instant, rfl, hahead⟩ := (shows_iff_lt now deadline).mp hshows
      have htold : told = some instant := by simp [told, hshows]
      rw [htold]
      refine ⟨by simp, fun other hother => ?_⟩
      exact Option.some.inj hother ▸ hahead

theorem step_look (timer : Timer) (now : T) (deadline : Option T) {call : HandleCall}
    (hlook : call.isLook = true) : (timer.step now deadline call).2 = deadline := by
  cases call with
  | value | isRevealed | state => rfl
  | reveal | hide | toggle => cases hlook

/-- The deadline does not depend on the looks that are taken. -/
theorem run_without_looks (timer : Timer) (deadline : Option T) (calls : List (T × HandleCall)) :
    (timer.run deadline (calls.filter fun entry => !entry.2.isLook)).2 =
      (timer.run deadline calls).2 := by
  induction calls generalizing deadline with
  | nil => rfl
  | cons entry rest ih =>
      obtain ⟨now, call⟩ := entry
      cases hlook : call.isLook with
      | true =>
          simp only [List.filter_cons, hlook, Bool.not_true, Bool.false_eq_true, if_false, run,
            timer.step_look now deadline hlook]
          exact ih deadline
      | false =>
          simp only [List.filter_cons, hlook, Bool.not_false, if_true, run]
          exact ih _

end Timer

/-- A visibility follows a deadline: it is revealed until this deadline, or it
is hidden and the deadline, if there is one, is over. -/
inductive Visibility.Follows (now : T) : Visibility T → Option T → Prop
  | revealed (deadline : T) : Follows now (.revealed deadline) (some deadline)
  | hidden (deadline : Option T) :
      (∀ instant, deadline = some instant → Timeline.reached instant now = true) →
      Follows now .hidden deadline

namespace Visibility

theorem follows_none (now : T) : (Visibility.hidden : Visibility T).Follows now none :=
  .hidden none (by simp)

/-- A deadline that is over stays so. -/
theorem Follows.later [Preorder T] [Timeline.Steady T] {now later : T} (hle : now ≤ later)
    {visibility : Visibility T} {deadline : Option T}
    (hfollows : visibility.Follows now deadline) : visibility.Follows later deadline := by
  cases hfollows with
  | revealed deadline => exact .revealed deadline
  | hidden deadline hover =>
      refine .hidden deadline fun instant hinstant => ?_
      exact Timeline.Steady.reached_of_le instant hle (hover instant hinstant)

/-- A look shows what the deadline says, and settles on it. -/
theorem Follows.settle {now : T} {visibility : Visibility T} {deadline : Option T}
    (hfollows : visibility.Follows now deadline) :
    (visibility.settle now).Follows now deadline ∧
      (visibility.settle now).isRevealed = Timer.shows now deadline ∧
      (visibility.settle now).deadline? =
        if Timer.shows now deadline then deadline else none := by
  cases hfollows with
  | hidden deadline hover =>
      have hshows := (Timer.shows_eq_false_iff now deadline).mpr hover
      simp only [hshows]
      exact ⟨.hidden deadline hover, rfl, rfl⟩
  | revealed deadline =>
      cases hreached : Timeline.reached deadline now with
      | true =>
          simp only [Visibility.settle, hreached, Timer.shows, Option.any_some]
          exact ⟨.hidden (some deadline) (by simpa using hreached), rfl, rfl⟩
      | false =>
          simp only [Visibility.settle, hreached, Timer.shows, Option.any_some]
          exact ⟨.revealed deadline, rfl, rfl⟩

/-- A deadline that is kept is the one that is followed. -/
theorem Follows.eq_some_of_deadline? {now : T} {visibility : Visibility T}
    {deadline : Option T} (hfollows : visibility.Follows now deadline) (instant : T)
    (hkept : visibility.deadline? = some instant) : deadline = some instant := by
  cases hfollows with
  | revealed deadline => exact hkept
  | hidden deadline hover => cases hkept

end Visibility

namespace TimedHandle

def timer (handle : TimedHandle T) : Timer := ⟨handle.raw, handle.masked, handle.durationMs⟩

/-- The answers of a handle to calls at instants, and the handle after them. -/
def run (handle : TimedHandle T) :
    List (T × HandleCall) → List (HandleAnswer T) × TimedHandle T
  | [] => ([], handle)
  | (now, call) :: rest =>
      let (answer, handle) := handle.call now call
      let (answers, handle) := handle.run rest
      (answer :: answers, handle)

omit [Timeline T] in
theorem current_eq (handle : TimedHandle T) :
    handle.current = if handle.isRevealed then handle.raw else handle.masked := rfl

theorem call_timer (handle : TimedHandle T) (now : T) (call : HandleCall) :
    (handle.call now call).2.timer = handle.timer := by
  cases call with
  | toggle =>
      simp only [TimedHandle.call, toggle]
      split <;> rfl
  | _ => rfl

/-- One call of a handle that follows a deadline: it answers as the timer
does, and follows the timer's deadline afterwards. -/
theorem call_follows {handle : TimedHandle T} {now : T} {deadline : Option T}
    (hfollows : handle.visibility.Follows now deadline) (call : HandleCall) :
    (handle.call now call).1 = (handle.timer.step now deadline call).1 ∧
      (handle.call now call).2.visibility.Follows now
        (handle.timer.step now deadline call).2 := by
  obtain ⟨hsettled, hshown, hdeadline⟩ := hfollows.settle
  cases call with
  | reveal => exact ⟨rfl, .revealed _⟩
  | hide => exact ⟨rfl, Visibility.follows_none now⟩
  | toggle =>
      simp only [TimedHandle.call, toggle, isRevealed, settle, hshown, Timer.step]
      cases Timer.shows now deadline with
      | true => exact ⟨rfl, Visibility.follows_none now⟩
      | false => exact ⟨rfl, .revealed _⟩
  | value =>
      refine ⟨?_, hsettled⟩
      simp only [TimedHandle.call, current_eq, isRevealed, settle, hshown, Timer.step]
      rfl
  | isRevealed =>
      refine ⟨?_, hsettled⟩
      simp only [TimedHandle.call, isRevealed, settle, hshown, Timer.step]
  | state =>
      refine ⟨?_, hsettled⟩
      simp only [TimedHandle.call, isRevealed, settle, hshown, hdeadline, Timer.step]

variable [Preorder T] [Timeline.Steady T]

/-- A run of calls on a clock that does not go back: the answers are the
timer's, and at any later instant the handle still follows its deadline. -/
theorem run_follows {handle : TimedHandle T} {now : T} {deadline : Option T}
    (hfollows : handle.visibility.Follows now deadline) {calls : List (T × HandleCall)}
    (hclock : (now :: calls.map Prod.fst).Pairwise (· ≤ ·)) :
    (handle.run calls).1 = (handle.timer.run deadline calls).1 ∧
      (handle.run calls).2.timer = handle.timer ∧
      ∀ later, now ≤ later → (∀ entry ∈ calls, entry.1 ≤ later) →
        (handle.run calls).2.visibility.Follows later (handle.timer.run deadline calls).2 := by
  induction calls generalizing handle now deadline with
  | nil => exact ⟨rfl, rfl, fun later hlater _ => hfollows.later hlater⟩
  | cons entry rest ih =>
      obtain ⟨next, call⟩ := entry
      obtain ⟨hnow, hrest⟩ := List.pairwise_cons.mp hclock
      have hnext : now ≤ next := hnow next List.mem_cons_self
      obtain ⟨hanswer, hafter⟩ := call_follows (hfollows.later hnext) call
      have htimer := handle.call_timer next call
      obtain ⟨hanswers, htimers, hlast⟩ := ih hafter hrest
      rw [htimer] at hanswers htimers hlast
      refine ⟨?_, htimers, ?_⟩
      · simp only [run, Timer.run, hanswer, hanswers]
      · intro later _ hcalls
        exact hlast later (hcalls _ List.mem_cons_self) fun entry hentry =>
          hcalls entry (List.mem_cons_of_mem _ hentry)

/-- A handle that is hidden at the start answers as a timer without a deadline
does, whenever the clock starts. -/
theorem run_follows_of_hidden {handle : TimedHandle T} (hhidden : handle.visibility = .hidden)
    {calls : List (T × HandleCall)} (hclock : (calls.map Prod.fst).Pairwise (· ≤ ·)) :
    (handle.run calls).1 = (handle.timer.run none calls).1 ∧
      (handle.run calls).2.timer = handle.timer ∧
      ∀ later, (∀ entry ∈ calls, entry.1 ≤ later) →
        (handle.run calls).2.visibility.Follows later (handle.timer.run none calls).2 := by
  have hfollows (now : T) : handle.visibility.Follows now none :=
    hhidden ▸ Visibility.follows_none now
  cases calls with
  | nil => exact ⟨rfl, rfl, fun later _ => hfollows later⟩
  | cons entry rest =>
      have hfirst : (entry.1 :: (entry :: rest).map Prod.fst).Pairwise (· ≤ ·) := by
        refine List.pairwise_cons.mpr ⟨?_, hclock⟩
        simpa using (List.pairwise_cons.mp hclock).1
      obtain ⟨hanswers, htimer, hlast⟩ := run_follows (hfollows entry.1) hfirst
      exact ⟨hanswers, htimer, fun later hlater =>
        hlast later (hlater entry List.mem_cons_self) hlater⟩

/-- That a handle expires only when it is looked at cannot be observed.  On an
exact clock that does not go back every answer is that of a timer, which keeps
at most one deadline; a handle has no other one.  Looks in between change no
answer, and a state tells a deadline if and only if it tells that the value is
revealed, and then one that is still ahead. -/
theorem answers_eq_timer (raw masked : String) (durationMs : Int)
    {calls : List (ℚ × HandleCall)} (hclock : (calls.map Prod.fst).Pairwise (· ≤ ·)) :
    let handle : TimedHandle ℚ := ⟨raw, masked, .int durationMs, .hidden⟩
    let timer : Timer := ⟨raw, masked, .int durationMs⟩
    let unobserved := calls.filter fun entry => !entry.2.isLook
    (handle.run calls).1 = (timer.run none calls).1 ∧
    ∀ now, (∀ entry ∈ calls, entry.1 ≤ now) →
      (∀ call, ((handle.run calls).2.call now call).1 =
        ((handle.run unobserved).2.call now call).1) ∧
      (∀ deadline, (handle.run calls).2.visibility.deadline? = some deadline →
        (timer.run none calls).2 = some deadline) ∧
      ∃ shown deadline, ((handle.run calls).2.call now .state).1 = .state shown deadline ∧
        (shown = true ↔ deadline.isSome = true) ∧
        ∀ instant, deadline = some instant → now < instant := by
  intro handle timer unobserved
  have hsublist : unobserved.Sublist calls := List.filter_sublist
  have hhidden : handle.visibility = .hidden := rfl
  obtain ⟨hanswers, htimer, hlast⟩ := run_follows_of_hidden hhidden hclock
  obtain ⟨-, htimer', hlast'⟩ :=
    run_follows_of_hidden hhidden (hclock.sublist (hsublist.map Prod.fst))
  refine ⟨hanswers, fun now hnow => ?_⟩
  have hfollows := hlast now hnow
  have hfollows' := hlast' now fun entry hentry => hnow entry (hsublist.subset hentry)
  have hdeadline : (handle.timer.run none unobserved).2 = (handle.timer.run none calls).2 :=
    handle.timer.run_without_looks none calls
  rw [hdeadline] at hfollows'
  refine ⟨?_, hfollows.eq_some_of_deadline?, ?_⟩
  · intro call
    rw [(call_follows hfollows call).1, (call_follows hfollows' call).1, htimer, htimer']
  · exact ⟨_, _, (call_follows hfollows .state).1, Timer.told_deadline now _⟩

/-- A value is shown up to its deadline, not at it; a toggle at the deadline
reveals again, and one before the new deadline hides. -/
theorem answers_eq_timer_at_deadline :
    let handle : TimedHandle ℚ := ⟨"ada@example.com", "a***@e***.com", .int 3000, .hidden⟩
    let calls : List (ℚ × HandleCall) :=
      [(0, .reveal), (2, .value), (3, .toggle), (5, .isRevealed), (5, .toggle), (5, .state)]
    let switches : List (ℚ × HandleCall) := [(0, .reveal), (3, .toggle), (5, .toggle)]
    (calls.map Prod.fst).Pairwise (· ≤ ·) ∧ (∀ entry ∈ calls, entry.1 ≤ 6) ∧
      (handle.run calls).1 = [.text (some "ada@example.com"), .text (some "ada@example.com"),
        .text (some "ada@example.com"), .flag true, .text (some "a***@e***.com"),
        .state false none] ∧
      ∀ call, ((handle.run calls).2.call 6 call).1 = ((handle.run switches).2.call 6 call).1 := by
  intro handle calls switches
  have hclock : (calls.map Prod.fst).Pairwise (· ≤ ·) := by decide +kernel
  have hlater : ∀ entry ∈ calls, entry.1 ≤ 6 := by decide +kernel
  have htimer := answers_eq_timer "ada@example.com" "a***@e***.com" 3000 hclock
  refine ⟨hclock, hlater, htimer.1.trans ?_, (htimer.2 6 hlater).1⟩
  norm_num [calls, Timer.run, Timer.step, Timer.shows, Timeline.reached, Timeline.after,
    Number.toRat]

end TimedHandle

end Reveal

end ContactPrivacy
