/-
A desk of reveals: the handles of a session, the clock they run on, and the
names under which the session keeps the handles it was given.
-/
import ContactPrivacy.Reveal.Reveals

namespace ContactPrivacy.Reveal

/-- Handles, clock, and handles by name.  A name may stand for no handle. -/
structure Desk (T : Type) where
  reveals : Reveals T
  now : T
  names : Assoc (Option HandleRef)

/-- What a session does with its reveals. -/
inductive DeskCall (T : Type) where
  | setClock (now : T)
  | create (value : Option String) (field : Field) (key : String) (name : String)
  | handle (name : String) (call : HandleCall)
  | get (key : String)
  | has (key : String)
  | currentValue (key : String) (default : Option String)
  | hideAll
  | clear
  | mayReveal (field : Field)

/-- What it gets for an answer. -/
inductive DeskAnswer (T : Type) where
  | nothing
  | noHandle
  | text (value : Option String)
  | flag (value : Bool)
  | handle (handle : Option (Handle T))
  | called (answer : HandleAnswer T)

variable {T : Type}

namespace Desk

def start (reveals : Reveals T) (now : T) : Desk T := ⟨reveals, now, []⟩

/-- Keep a handle, or that there is none, under a name. -/
def remember (desk : Desk T) (name : String) (ref : Option HandleRef) : Desk T :=
  { desk with names := Assoc.put name ref desk.names }

/-- The handle kept under a name, if there is one. -/
def kept? (desk : Desk T) (name : String) : Option HandleRef := (Assoc.get? name desk.names).join

variable [Timeline T]

/-- Call the handle kept under a name, if there is one. -/
def callNamed (desk : Desk T) (name : String) (call : HandleCall) : DeskAnswer T × Desk T :=
  match (desk.kept? name).bind fun ref => desk.reveals.call desk.now ref call with
  | some (answer, reveals) => (.called answer, { desk with reveals := reveals })
  | none => (.noHandle, desk)

/-- One call: its answer and the desk after it. -/
def step (desk : Desk T) : DeskCall T → Logged (DeskAnswer T × Desk T)
  | .setClock now => return (.nothing, { desk with now := now })
  | .create value field key name => do
      let (ref, reveals) ← desk.reveals.create value field key
      let answer := .handle (reveals.resolve? ref)
      return (answer, { desk with reveals := reveals }.remember name (some ref))
  | .handle name call => return desk.callNamed name call
  | .get key => return (.handle ((desk.reveals.get? key).map .timed), desk)
  | .has key => return (.flag (desk.reveals.has key), desk)
  | .currentValue key default =>
      let (value, reveals) := desk.reveals.currentValue desk.now key default
      return (.text value, { desk with reveals := reveals })
  | .hideAll => return (.nothing, { desk with reveals := desk.reveals.hideAll })
  | .clear => return (.nothing, { desk with reveals := desk.reveals.clear })
  | .mayReveal field => return (.flag (desk.reveals.policy.mayReveal field), desk)

end Desk

end ContactPrivacy.Reveal
