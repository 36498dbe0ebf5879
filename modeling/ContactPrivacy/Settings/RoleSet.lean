/-
Finite sets of role names.  A set is its names in strictly increasing order,
so that equal sets are equal values.
-/

namespace ContactPrivacy

/-- Put a name into an ordered list, unless it is there. -/
def insertRole (role : String) : List String → List String
  | [] => [role]
  | first :: rest =>
      if role < first then role :: first :: rest
      else if first < role then first :: insertRole role rest
      else first :: rest

theorem mem_insertRole_imp {x role : String} {roles : List String}
    (hx : x ∈ insertRole role roles) : x = role ∨ x ∈ roles := by
  induction roles with
  | nil => simpa [insertRole] using hx
  | cons first rest ih =>
      simp only [insertRole] at hx
      split at hx
      · simpa using hx
      · split at hx
        · rcases List.mem_cons.mp hx with rfl | hx
          · exact Or.inr List.mem_cons_self
          · rcases ih hx with h | h
            · exact Or.inl h
            · exact Or.inr (List.mem_cons_of_mem first h)
        · exact Or.inr hx

theorem insertRole_pairwise {roles : List String} (h : roles.Pairwise (· < ·)) (role : String) :
    (insertRole role roles).Pairwise (· < ·) := by
  induction roles with
  | nil => simp [insertRole]
  | cons first rest ih =>
      have hcons := List.pairwise_cons.mp h
      simp only [insertRole]
      split
      · next hlt =>
          refine List.pairwise_cons.mpr ⟨?_, h⟩
          intro x hx
          rcases List.mem_cons.mp hx with rfl | hx
          · exact hlt
          · exact String.lt_trans hlt (hcons.1 x hx)
      · split
        · next hlt =>
            refine List.pairwise_cons.mpr ⟨?_, ih hcons.2⟩
            intro x hx
            rcases mem_insertRole_imp hx with rfl | hx
            · exact hlt
            · exact hcons.1 x hx
        · exact h

/-- A set of role names. -/
structure RoleSet where
  roles : List String
  increasing : roles.Pairwise (· < ·)
deriving DecidableEq

namespace RoleSet

def empty : RoleSet := ⟨[], List.Pairwise.nil⟩

def insert (role : String) (set : RoleSet) : RoleSet :=
  ⟨insertRole role set.roles, insertRole_pairwise set.increasing role⟩

/-- The set of the names in a list, whatever their order and number. -/
def ofList (roles : List String) : RoleSet := roles.foldr insert empty

def contains (set : RoleSet) (role : String) : Bool := set.roles.contains role

/-- A smaller name goes to the front. -/
theorem insertRole_of_lt {role : String} {roles : List String}
    (h : ∀ x ∈ roles, role < x) : insertRole role roles = role :: roles := by
  cases roles with
  | nil => rfl
  | cons first rest => simp [insertRole, h first List.mem_cons_self]

@[simp] theorem ofList_roles (set : RoleSet) : ofList set.roles = set := by
  obtain ⟨roles, increasing⟩ := set
  suffices h : (ofList roles).roles = roles by
    cases hset : ofList roles with
    | mk _ _ => simp_all
  induction roles with
  | nil => rfl
  | cons first rest ih =>
      have hcons := List.pairwise_cons.mp increasing
      simp only [ofList, List.foldr_cons, insert]
      have hrest : (List.foldr insert empty rest).roles = rest := ih hcons.2
      rw [hrest, insertRole_of_lt hcons.1]

end RoleSet

end ContactPrivacy
