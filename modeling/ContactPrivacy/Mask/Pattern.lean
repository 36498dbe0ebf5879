/-
Masking patterns: how much of a value stays visible.
-/

namespace ContactPrivacy

/-- How much of a value stays visible, from the most to nothing. -/
inductive Pattern where
  | minimal
  | standard
  | complete
deriving DecidableEq, Repr

namespace Pattern

def name : Pattern → String
  | .minimal => "minimal"
  | .standard => "standard"
  | .complete => "complete"

/-- The pattern of a name; every other name means the standard pattern. -/
def ofName (s : String) : Pattern :=
  if s = "minimal" then .minimal
  else if s = "complete" then .complete
  else .standard

/-- The pattern a rule names; a rule without a pattern means the standard one. -/
def ofRule : Option String → Pattern
  | some s => ofName s
  | none => .standard

@[simp] theorem ofName_name (p : Pattern) : ofName p.name = p := by
  cases p <;> decide

theorem ofName_eq_standard_iff (s : String) :
    ofName s = .standard ↔ s ≠ "minimal" ∧ s ≠ "complete" := by
  unfold ofName
  split
  · simp_all
  · split <;> simp_all

/-- A rule means the standard pattern unless it names one of the others. -/
theorem ofRule_eq_standard_iff (rule : Option String) :
    ofRule rule = .standard ↔ rule ≠ some "minimal" ∧ rule ≠ some "complete" := by
  cases rule with
  | none => simp [ofRule]
  | some s => simpa [ofRule] using ofName_eq_standard_iff s

theorem ofRule_eq_minimal_iff (rule : Option String) :
    ofRule rule = .minimal ↔ rule = some "minimal" := by
  cases rule with
  | none => simp [ofRule]
  | some s =>
      simp only [ofRule, ofName, Option.some.injEq]
      split
      · simp_all
      · split <;> simp_all

end Pattern

end ContactPrivacy
