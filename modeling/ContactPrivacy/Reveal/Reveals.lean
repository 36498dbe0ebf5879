/-
The reveal handles of one session, by key.  A key holds one handle at a time;
a handle that lost its key can still be used by whoever was given it.
-/
import ContactPrivacy.Contact
import ContactPrivacy.Reveal.Handle

namespace ContactPrivacy.Reveal

/-- A handle with its number in the order of making. -/
structure Entry (T : Type) where
  serial : Nat
  handle : TimedHandle T

/-- The handles of a session: those that keys hold, those that lost their
keys, and how many were made. -/
structure Reveals (T : Type) where
  policy : Policy
  durationMs : Number
  stored : Assoc (Entry T)
  lost : List (Entry T)
  made : Nat

/-- What a caller keeps of a handle it was given. -/
inductive HandleRef where
  | passthrough (raw : Option String)
  | timed (serial : Nat)
deriving DecidableEq

variable {T : Type}

/-- Write back an entry if it has the number. -/
def Entry.setIf (serial : Nat) (handle : TimedHandle T) (entry : Entry T) : Entry T :=
  if entry.serial = serial then { entry with handle := handle } else entry

namespace Reveals

def empty (policy : Policy) (durationMs : Number) : Reveals T := ⟨policy, durationMs, [], [], 0⟩

def size (reveals : Reveals T) : Nat := reveals.stored.length

/-- The handle a key holds. -/
def get? (reveals : Reveals T) (key : String) : Option (TimedHandle T) :=
  (Assoc.get? key reveals.stored).map Entry.handle

def has (reveals : Reveals T) (key : String) : Bool := (reveals.get? key).isSome

/-- Write back the handle a key holds. -/
def setHandle (reveals : Reveals T) (key : String) (handle : TimedHandle T) : Reveals T :=
  match Assoc.get? key reveals.stored with
  | some entry =>
      { reveals with stored := Assoc.put key { entry with handle := handle } reveals.stored }
  | none => reveals

/-- Give a key a new handle; the one it held before is lost to it. -/
def store (reveals : Reveals T) (key : String) (handle : TimedHandle T) : Reveals T :=
  { reveals with
    stored := Assoc.put key ⟨reveals.made, handle⟩ reveals.stored
    lost := (Assoc.get? key reveals.stored).toList ++ reveals.lost
    made := reveals.made + 1 }

/-- A new handle for a value: hidden, or passing the value through if the
policy does not mask it or there is none.  Only the former is stored. -/
def create (reveals : Reveals T) (value : Option String) (field : Field) (key : String) :
    Logged (HandleRef × Reveals T) := do
  match ← reveals.policy.look field, value.filter (· ≠ "") with
  | .masked pattern, some raw =>
      Logged.report (.handleCreated key reveals.durationMs)
      let handle := ⟨raw, field.mask pattern raw, reveals.durationMs, .hidden⟩
      return (.timed reveals.made, reveals.store key handle)
  | _, _ => return (.passthrough value, reveals)

/-- The handle with a number, whether a key still holds it or not. -/
def handle? (reveals : Reveals T) (serial : Nat) : Option (TimedHandle T) :=
  ((reveals.stored.map Prod.snd ++ reveals.lost).find? fun entry => entry.serial == serial).map
    Entry.handle

/-- Write back the handle with a number. -/
def setSerial (reveals : Reveals T) (serial : Nat) (handle : TimedHandle T) : Reveals T :=
  { reveals with
    stored := reveals.stored.map fun (key, entry) => (key, Entry.setIf serial handle entry)
    lost := reveals.lost.map (Entry.setIf serial handle) }

/-- Hide every handle that a key holds. -/
def hideAll (reveals : Reveals T) : Reveals T :=
  { reveals with
    stored := reveals.stored.map fun (key, entry) =>
      (key, { entry with handle := entry.handle.hide }) }

/-- Hide every handle and take all keys away. -/
def clear (reveals : Reveals T) : Reveals T :=
  let hidden := reveals.hideAll
  { hidden with stored := [], lost := hidden.stored.map Prod.snd ++ hidden.lost }

/-- What a reference refers to. -/
def resolve? (reveals : Reveals T) : HandleRef → Option (Handle T)
  | .passthrough raw => some (.passthrough raw)
  | .timed serial => (reveals.handle? serial).map .timed

variable [Timeline T]

/-- Call the handle a key holds. -/
def callKey (reveals : Reveals T) (now : T) (key : String) (call : HandleCall) :
    Option (HandleAnswer T × Reveals T) :=
  (reveals.get? key).map fun handle =>
    ((handle.call now call).1, reveals.setHandle key (handle.call now call).2)

/-- The value that shows at a key, or a default where the key holds no handle. -/
def currentValue (reveals : Reveals T) (now : T) (key : String) (default : Option String) :
    Option String × Reveals T :=
  match reveals.get? key with
  | some handle => (some (handle.settle now).current, reveals.setHandle key (handle.settle now))
  | none => (default, reveals)

/-- Call the handle a reference refers to. -/
def call (reveals : Reveals T) (now : T) (ref : HandleRef) (call : HandleCall) :
    Option (HandleAnswer T × Reveals T) :=
  match ref with
  | .passthrough raw => some (passthroughAnswer raw call, reveals)
  | .timed serial =>
      (reveals.handle? serial).map fun handle =>
        ((handle.call now call).1, reveals.setSerial serial (handle.call now call).2)

end Reveals

end ContactPrivacy.Reveal
