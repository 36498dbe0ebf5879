/-
Reveal handles.  A timed handle shows its raw value from a reveal until a
deadline is reached on a clock; that the deadline has passed is noticed by the
next look at the handle.  The clock that runs counts seconds as binary64 numbers.
-/
import ContactPrivacy.Decimal.Fraction
import ContactPrivacy.Json.Value

namespace ContactPrivacy.Reveal

/-- Instants of a clock, and durations in milliseconds on it. -/
class Timeline (T : Type) where
  /-- The instant that comes a number of milliseconds after another. -/
  after : T → Number → T
  /-- Whether a clock at the second instant has reached the first. -/
  reached : T → T → Bool

/-- Whether the raw value shows, and until when. -/
inductive Visibility (T : Type) where
  | hidden
  | revealed (deadline : T)

/-- A timed handle of one value. -/
structure TimedHandle (T : Type) where
  raw : String
  masked : String
  durationMs : Number
  visibility : Visibility T

variable {T : Type} [Timeline T]

namespace Visibility

/-- The visibility after a look: nothing shows once its deadline is reached. -/
def settle (now : T) : Visibility T → Visibility T
  | .hidden => .hidden
  | .revealed deadline =>
      if Timeline.reached deadline now then .hidden else .revealed deadline

omit [Timeline T] in
def isRevealed : Visibility T → Bool
  | .hidden => false
  | .revealed _ => true

omit [Timeline T] in
def deadline? : Visibility T → Option T
  | .hidden => none
  | .revealed deadline => some deadline

end Visibility

/-- What can be done with a handle. -/
inductive HandleCall where
  | reveal
  | hide
  | toggle
  | value
  | isRevealed
  | state
deriving DecidableEq, Repr

/-- What a handle answers: a text, a yes or no, or its state. -/
inductive HandleAnswer (T : Type) where
  | text (value : Option String)
  | flag (value : Bool)
  | state (isRevealed : Bool) (deadline : Option T)

namespace TimedHandle

/-- A look at the handle, which hides it once its deadline is reached. -/
def settle (now : T) (handle : TimedHandle T) : TimedHandle T :=
  { handle with visibility := handle.visibility.settle now }

/-- Show the raw value, with a new deadline. -/
def reveal (now : T) (handle : TimedHandle T) : TimedHandle T :=
  { handle with visibility := .revealed (Timeline.after now handle.durationMs) }

omit [Timeline T] in
/-- Show the masked value again, the deadline dropped. -/
def hide (handle : TimedHandle T) : TimedHandle T := { handle with visibility := .hidden }

omit [Timeline T] in
def isRevealed (handle : TimedHandle T) : Bool := handle.visibility.isRevealed

omit [Timeline T] in
/-- The value that shows. -/
def current (handle : TimedHandle T) : String :=
  if handle.isRevealed then handle.raw else handle.masked

/-- Hide a handle that shows its value after a look, else reveal it. -/
def toggle (now : T) (handle : TimedHandle T) : TimedHandle T :=
  if (handle.settle now).isRevealed then (handle.settle now).hide
  else (handle.settle now).reveal now

/-- One call of a handle: its answer, and the handle after it. -/
def call (now : T) (handle : TimedHandle T) : HandleCall → HandleAnswer T × TimedHandle T
  | .reveal => (.text (some handle.raw), handle.reveal now)
  | .hide => (.text (some handle.masked), handle.hide)
  | .toggle => (.text (some (handle.toggle now).current), handle.toggle now)
  | .value => (.text (some (handle.settle now).current), handle.settle now)
  | .isRevealed => (.flag (handle.settle now).isRevealed, handle.settle now)
  | .state =>
      (.state (handle.settle now).isRevealed (handle.settle now).visibility.deadline?,
        handle.settle now)

end TimedHandle

/-- A handle: timed, or for a value that is not masked, which always shows. -/
inductive Handle (T : Type) where
  | passthrough (raw : Option String)
  | timed (handle : TimedHandle T)

omit [Timeline T] in
/-- A call of a handle whose value always shows. -/
def passthroughAnswer (raw : Option String) : HandleCall → HandleAnswer T
  | .isRevealed => .flag true
  | .state => .state true none
  | _ => .text raw

/-- An instant in seconds. -/
structure Seconds where
  value : Binary64
deriving DecidableEq

namespace Seconds

/-- The number nearest to a JSON number. -/
def ofNumber : Number → Binary64
  | .int n => Binary64.ofInt n
  | .float x => x

/-- A number of milliseconds in seconds, the quotient rounded. -/
def ofMs (ms : Number) : Seconds := ⟨Binary64.div (ofNumber ms) (Binary64.ofInt 1000)⟩

/-- A deadline is the rounded sum; it is reached once the clock is not before it. -/
instance : Timeline Seconds where
  after now durationMs := ⟨Binary64.add now.value (ofMs durationMs).value⟩
  reached deadline now := Binary64.le deadline.value now.value

/-- An instant with six decimal places. -/
def text (instant : Seconds) : String := Decimal.fixedText 6 instant.value

end Seconds

end ContactPrivacy.Reveal
