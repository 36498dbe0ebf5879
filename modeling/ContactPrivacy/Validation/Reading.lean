/-
The result of reading a value: what it stands for, or everything that is wrong
with it.  Readings of several parts are put together without stopping at the
first issue.
-/
import ContactPrivacy.Validation.Issue

namespace ContactPrivacy

/-- An accepted value, or the issues in the order of the parts they are about. -/
inductive Reading (α : Type) where
  | accepted (value : α)
  | rejected (issues : List Issue)
deriving DecidableEq

namespace Reading

variable {α β : Type}

def issues : Reading α → List Issue
  | .accepted _ => []
  | .rejected issues => issues

def map (f : α → β) : Reading α → Reading β
  | .accepted value => .accepted (f value)
  | .rejected issues => .rejected issues

/-- Apply a reading of a function to a reading of its argument. -/
def apply : Reading (α → β) → Reading α → Reading β
  | .accepted f, .accepted value => .accepted (f value)
  | .accepted _, .rejected issues => .rejected issues
  | .rejected issues, .accepted _ => .rejected issues
  | .rejected first, .rejected second => .rejected (first ++ second)

instance : Applicative Reading where
  pure := .accepted
  map := map
  seq f x := apply f (x ())

/-- A value with one thing wrong with it. -/
def fault (f : Fault) : Reading α := .rejected [⟨[], f⟩]

/-- The reading of a part, its issues told from the whole. -/
def under (step : Step) : Reading α → Reading α
  | .accepted value => .accepted value
  | .rejected issues => .rejected (issues.map (Issue.under step))

/-- The reading of a member, with a default where the member is absent. -/
def member (members : Members) (name : String) (default : α) (read : Json → Reading α) :
    Reading α :=
  match Assoc.get? name members with
  | some value => (read value).under (.key name)
  | none => .accepted default

/-- The reading of a member that must be there. -/
def required (members : Members) (name : String) (read : Json → Reading α) : Reading α :=
  match Assoc.get? name members with
  | some value => (read value).under (.key name)
  | none => .rejected [⟨[.key name], .missing⟩]

/-- A value that is there. -/
def present (read : Json → Reading α) (value : Json) : Reading (Option α) :=
  (read value).map some

/-- Null reads as nothing. -/
def optional (read : Json → Reading α) : Json → Reading (Option α)
  | .null => .accepted none
  | value => (read value).map some

/-- Items one after the other, issues told with their positions. -/
def items (read : Json → Reading α) : Nat → List Json → Reading (List α)
  | _, [] => .accepted []
  | n, item :: rest =>
      apply (((read item).under (.index n)).map List.cons) (items read (n + 1) rest)

/-- An object is read by its members; anything else has the given fault. -/
def ofObject (other : Fault) (read : Members → Reading α) : Json → Reading α
  | .object members => read members
  | _ => fault other

@[simp] theorem map_accepted (f : α → β) (x : α) :
    f <$> (Reading.accepted x) = .accepted (f x) := rfl

@[simp] theorem map_rejected (f : α → β) (issues : List Issue) :
    f <$> (Reading.rejected issues : Reading α) = .rejected issues := rfl

@[simp] theorem seq_accepted (f : α → β) (x : α) :
    (Reading.accepted f) <*> (Reading.accepted x) = .accepted (f x) := rfl

theorem issues_seq (f : Reading (α → β)) (x : Reading α) :
    (f <*> x).issues = f.issues ++ x.issues := by
  cases f <;> cases x <;> simp [issues, Seq.seq, apply]

@[simp] theorem under_accepted (step : Step) (x : α) :
    (Reading.accepted x).under step = .accepted x := rfl

@[simp] theorem under_map (step : Step) (f : α → β) (x : Reading α) :
    (f <$> x).under step = f <$> x.under step := by
  cases x <;> rfl

@[simp] theorem under_seq (step : Step) (f : Reading (α → β)) (x : Reading α) :
    (f <*> x).under step = f.under step <*> x.under step := by
  cases f <;> cases x <;> simp [Seq.seq, apply, under]

@[simp] theorem issues_map (f : α → β) (x : Reading α) : (f <$> x).issues = x.issues := by
  cases x <;> rfl

@[simp] theorem issues_under (step : Step) (x : Reading α) :
    (x.under step).issues = x.issues.map (Issue.under step) := by
  cases x <;> rfl

theorem map_eq_accepted_iff (f : α → β) (x : Reading α) (result : β) :
    f <$> x = .accepted result ↔ ∃ value, x = .accepted value ∧ f value = result := by
  cases x <;> simp

theorem under_eq_accepted_iff (step : Step) (x : Reading α) (value : α) :
    x.under step = .accepted value ↔ x = .accepted value := by
  cases x <;> simp [under]

/-- Parts put together are accepted exactly if each of them is. -/
theorem seq_eq_accepted_iff (f : Reading (α → β)) (x : Reading α) (result : β) :
    f <*> x = .accepted result ↔
      ∃ g value, f = .accepted g ∧ x = .accepted value ∧ g value = result := by
  cases f <;> cases x <;> simp [Seq.seq, apply]

end Reading

end ContactPrivacy
