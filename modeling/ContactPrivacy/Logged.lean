/-
Answers together with the events logged on the way to them.
-/
import ContactPrivacy.Event

namespace ContactPrivacy

/-- An answer and the events logged before it was given, in order. -/
structure Logged (α : Type) where
  answer : α
  events : List Event

namespace Logged

variable {α β : Type}

def pure (answer : α) : Logged α := ⟨answer, []⟩

/-- Go on from an answer; what is logged later comes later. -/
def bind (first : Logged α) (next : α → Logged β) : Logged β :=
  let second := next first.answer
  ⟨second.answer, first.events ++ second.events⟩

instance : Monad Logged where
  pure := pure
  bind := bind

/-- Log one event. -/
def report (event : Event) : Logged Unit := ⟨(), [event]⟩

def reportAll (events : List Event) : Logged Unit := ⟨(), events⟩

@[simp] theorem answer_pure (x : α) : (Pure.pure x : Logged α).answer = x := rfl

@[simp] theorem events_pure (x : α) : (Pure.pure x : Logged α).events = [] := rfl

@[simp] theorem answer_bind (x : Logged α) (f : α → Logged β) :
    (x >>= f).answer = (f x.answer).answer := rfl

@[simp] theorem events_bind (x : Logged α) (f : α → Logged β) :
    (x >>= f).events = x.events ++ (f x.answer).events := rfl

@[simp] theorem answer_map (f : α → β) (x : Logged α) : (f <$> x).answer = f x.answer := rfl

@[simp] theorem events_map (f : α → β) (x : Logged α) : (f <$> x).events = x.events :=
  List.append_nil _

@[simp] theorem events_report (event : Event) : (report event).events = [event] := rfl

@[simp] theorem events_reportAll (events : List Event) : (reportAll events).events = events := rfl

end Logged

end ContactPrivacy
