/-
Sinks take audit records.  The one in memory keeps the newest records up to a
bound; the others keep none.
-/
import ContactPrivacy.Logged

namespace ContactPrivacy.Audit

/-- Records kept in memory, oldest first, and how many may be kept. -/
structure Store where
  bound : Int
  records : List Record
deriving DecidableEq

namespace Store

/-- The bound in force: none asked for, and zero, mean the configured one. -/
def effectiveBound (asked : Option Int) (configured : Int) : Int :=
  match asked with
  | some n => if n = 0 then configured else n
  | none => configured

def empty (bound : Int) : Store := ⟨bound, []⟩

/-- Keep a record; the oldest ones over the bound are dropped. -/
def add (store : Store) (record : Record) : Store :=
  let records := store.records ++ [record]
  ⟨store.bound, records.drop (records.length - store.bound).toNat⟩

def clear (store : Store) : Store := ⟨store.bound, []⟩

end Store

/-- Where audit records go: into memory, into the log, or nowhere, for a reason. -/
inductive Sink where
  | memory (store : Store)
  | log
  | broken (reason : String)
deriving DecidableEq

namespace Sink

/-- The records a sink keeps; only memory keeps any. -/
def store? : Sink → Option Store
  | .memory store => some store
  | _ => none

/-- Hand a record to a sink.  A broken sink takes none and says why. -/
def accept (sink : Sink) (record : Record) : Except String (Logged Sink) :=
  match sink with
  | .memory store => .ok ⟨.memory (store.add record), []⟩
  | .log => .ok ⟨.log, [.recordWritten record]⟩
  | .broken reason => .error reason

/-- Forget the records kept. -/
def clear : Sink → Sink
  | .memory store => .memory store.clear
  | sink => sink

end Sink

end ContactPrivacy.Audit
