/-
What a JSON value is made of: its outline, which has the keys in order and the
lengths of the lists, and the scalars among its parts.  The two together tell the
value.
-/
import ContactPrivacy.Proofs.Json.Parts

namespace ContactPrivacy.Json

mutual

/-- A value with null for every scalar. -/
def outline : Json → Json
  | .list items => .list (outlineItems items)
  | .object members => .object (outlineMembers members)
  | .null | .bool _ | .number _ | .string _ => .null

def outlineItems : List Json → List Json
  | [] => []
  | item :: rest => outline item :: outlineItems rest

def outlineMembers : List (String × Json) → List (String × Json)
  | [] => []
  | (key, value) :: rest => (key, outline value) :: outlineMembers rest

end

def isScalar : Json → Bool
  | .list _ | .object _ => false
  | .null | .bool _ | .number _ | .string _ => true

def scalarsAmong (parts : List Part) : List Part := parts.filter fun part => part.value.isScalar

/-- The scalars of a value at a place, in document order. -/
def scalarsAt (place : List Step) (value : Json) : List Part := scalarsAmong (partsAt place value)

def scalars (value : Json) : List Part := scalarsAmong value.parts

@[simp] theorem scalarsAt_list (place : List Step) (items : List Json) :
    scalarsAt place (.list items) = scalarsAmong (partsOfItems place 0 items) := rfl

@[simp] theorem scalarsAt_object (place : List Step) (members : List (String × Json)) :
    scalarsAt place (.object members) = scalarsAmong (partsOfMembers place members) := rfl

@[simp] theorem scalarsAmong_partsOfItems_cons (place : List Step) (position : Nat) (item : Json)
    (rest : List Json) :
    scalarsAmong (partsOfItems place position (item :: rest)) =
      scalarsAt (.index position :: place) item ++
        scalarsAmong (partsOfItems place (position + 1) rest) :=
  List.filter_append _ _

@[simp] theorem scalarsAmong_partsOfMembers_cons (place : List Step) (key : String) (value : Json)
    (rest : List (String × Json)) :
    scalarsAmong (partsOfMembers place ((key, value) :: rest)) =
      scalarsAt (.key key :: place) value ++ scalarsAmong (partsOfMembers place rest) :=
  List.filter_append _ _

/-- The number of places where the scalars of two values of one outline differ. -/
def differences (first second : Json) : Nat :=
  (first.scalars.zip second.scalars).countP fun pair => pair.1.value ≠ pair.2.value

mutual

/-- Where the scalars are is told by the outline. -/
theorem places_scalarsAt (place : List Step) : (value : Json) →
    (scalarsAt place value).map Part.place = (scalarsAt place value.outline).map Part.place
  | .list items => by
      simp only [outline, scalarsAt_list]
      exact places_scalarsOfItems place 0 items
  | .object members => by
      simp only [outline, scalarsAt_object]
      exact places_scalarsOfMembers place members
  | .null | .bool _ | .number _ | .string _ => rfl

theorem places_scalarsOfItems (place : List Step) (position : Nat) : (items : List Json) →
    (scalarsAmong (partsOfItems place position items)).map Part.place =
      (scalarsAmong (partsOfItems place position (outlineItems items))).map Part.place
  | [] => rfl
  | item :: rest => by
      simp only [outlineItems, scalarsAmong_partsOfItems_cons, List.map_append]
      rw [places_scalarsAt _ item, places_scalarsOfItems place (position + 1) rest]

theorem places_scalarsOfMembers (place : List Step) : (members : List (String × Json)) →
    (scalarsAmong (partsOfMembers place members)).map Part.place =
      (scalarsAmong (partsOfMembers place (outlineMembers members))).map Part.place
  | [] => rfl
  | (key, value) :: rest => by
      simp only [outlineMembers, scalarsAmong_partsOfMembers_cons, List.map_append]
      rw [places_scalarsAt _ value, places_scalarsOfMembers place rest]

end

/-- Values of one outline have their scalars at the same places. -/
theorem places_scalarsAt_eq {first second : Json} (houtline : first.outline = second.outline)
    (place : List Step) :
    (scalarsAt place first).map Part.place = (scalarsAt place second).map Part.place := by
  rw [places_scalarsAt, houtline, ← places_scalarsAt]

theorem length_scalarsAt_eq {first second : Json} (houtline : first.outline = second.outline)
    (place : List Step) :
    (scalarsAt place first).length = (scalarsAt place second).length := by
  have hplaces := congrArg List.length (places_scalarsAt_eq houtline place)
  simpa only [List.length_map] using hplaces

mutual

/-- A value is told by its outline and its scalars at any one place. -/
theorem eq_of_scalarsAt (place : List Step) : (first second : Json) →
    first.outline = second.outline → scalarsAt place first = scalarsAt place second →
    first = second
  | .list xs, second, houtline, hscalars => by
      cases second with
      | list ys =>
          simp only [outline, list.injEq] at houtline
          rw [eq_of_scalarsOfItems place 0 xs ys houtline hscalars]
      | _ => simp [outline] at houtline
  | .object xs, second, houtline, hscalars => by
      cases second with
      | object ys =>
          simp only [outline, object.injEq] at houtline
          rw [eq_of_scalarsOfMembers place xs ys houtline hscalars]
      | _ => simp [outline] at houtline
  | .null, second, houtline, hscalars
  | .bool _, second, houtline, hscalars
  | .number _, second, houtline, hscalars
  | .string _, second, houtline, hscalars => by
      cases second with
      | list | object => simp [outline] at houtline
      | _ => exact congrArg Part.value (List.cons.inj hscalars).1

theorem eq_of_scalarsOfItems (place : List Step) (position : Nat) : (xs ys : List Json) →
    outlineItems xs = outlineItems ys →
    scalarsAmong (partsOfItems place position xs) = scalarsAmong (partsOfItems place position ys) →
    xs = ys
  | [], ys, houtline, _ => by
      cases ys with
      | nil => rfl
      | cons y ys => simp [outlineItems] at houtline
  | x :: xs, ys, houtline, hscalars => by
      cases ys with
      | nil => simp [outlineItems] at houtline
      | cons y ys =>
          obtain ⟨hhead, hrest⟩ := List.cons.inj houtline
          simp only [scalarsAmong_partsOfItems_cons] at hscalars
          obtain ⟨hfirst, hothers⟩ :=
            List.append_inj hscalars (length_scalarsAt_eq hhead _)
          rw [eq_of_scalarsAt _ x y hhead hfirst,
            eq_of_scalarsOfItems place (position + 1) xs ys hrest hothers]

theorem eq_of_scalarsOfMembers (place : List Step) : (xs ys : List (String × Json)) →
    outlineMembers xs = outlineMembers ys →
    scalarsAmong (partsOfMembers place xs) = scalarsAmong (partsOfMembers place ys) → xs = ys
  | [], ys, houtline, _ => by
      cases ys with
      | nil => rfl
      | cons y ys => simp [outlineMembers] at houtline
  | (key, x) :: xs, ys, houtline, hscalars => by
      cases ys with
      | nil => simp [outlineMembers] at houtline
      | cons member ys =>
          obtain ⟨other, y⟩ := member
          obtain ⟨hhead, hrest⟩ := List.cons.inj houtline
          obtain ⟨rfl, hvalue⟩ := Prod.mk.inj hhead
          simp only [scalarsAmong_partsOfMembers_cons] at hscalars
          obtain ⟨hfirst, hothers⟩ :=
            List.append_inj hscalars (length_scalarsAt_eq hvalue _)
          rw [eq_of_scalarsAt _ x y hvalue hfirst,
            eq_of_scalarsOfMembers place xs ys hrest hothers]

end

/-- A value is told by its outline and its scalars. -/
theorem eq_of_scalars {first second : Json} (houtline : first.outline = second.outline)
    (hscalars : first.scalars = second.scalars) : first = second :=
  eq_of_scalarsAt [] first second houtline hscalars

/-- Scalars side by side that differ in no value are the same. -/
theorem eq_of_no_differences {xs ys : List Part}
    (hplaces : xs.map Part.place = ys.map Part.place)
    (hnone : ((xs.zip ys).countP fun pair => pair.1.value ≠ pair.2.value) = 0) : xs = ys := by
  induction xs generalizing ys with
  | nil => exact (List.map_eq_nil_iff.mp hplaces.symm).symm
  | cons x xs ih =>
      cases ys with
      | nil => simp at hplaces
      | cons y ys =>
          obtain ⟨hplace, hothers⟩ := List.cons.inj hplaces
          simp only [List.zip_cons_cons, List.countP_cons, Nat.add_eq_zero_iff] at hnone
          have hvalue : x.value = y.value := by simpa using hnone.2
          have hhead : x = y := by
            cases x
            cases y
            rw [Part.mk.injEq]
            exact ⟨hplace, hvalue⟩
          rw [hhead, ih hothers hnone.1]

/-- Values of one outline differ nowhere exactly if they are equal. -/
theorem differences_eq_zero_iff {first second : Json}
    (houtline : first.outline = second.outline) :
    first.differences second = 0 ↔ first = second := by
  constructor
  · intro hnone
    apply eq_of_scalars houtline
    exact eq_of_no_differences (places_scalarsAt_eq houtline []) hnone
  · intro hsame
    rw [hsame, differences, List.countP_eq_zero]
    intro pair hpair
    obtain ⟨n, hn, rfl⟩ := List.getElem_of_mem hpair
    simp [List.getElem_zip]

end ContactPrivacy.Json
