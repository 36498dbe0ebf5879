/-
Replacing contact values, scalar by scalar.  A contact value is a text
directly under a key of contact data; replacing keeps the outline of a payload
and touches no other scalar.
-/
import ContactPrivacy.Contact
import ContactPrivacy.Proofs.Json.Scalars
import Mathlib.Data.List.Forall2

namespace ContactPrivacy.Contact

open Json (Part partsOfItems partsOfMembers scalarsAmong scalarsAt)

/-- The contact value that a scalar is, and the kind of its key. -/
def held? (scalar : Part) : Option (DataType × String) :=
  match scalar.place with
  | .key key :: _ => value? key scalar.value
  | _ => none

/-- A scalar with the contact value it is replaced. -/
def replaceScalar (f : DataType → String → String) (scalar : Part) : Part :=
  match held? scalar with
  | some (t, s) => { scalar with value := .string (f t s) }
  | none => scalar

theorem value?_eq_some_iff (key : String) (value : Json) (t : DataType) (s : String) :
    value? key value = some (t, s) ↔ dataType? key = some t ∧ value = .string s := by
  unfold value?
  cases dataType? key <;> cases value <;> simp

theorem held?_eq_some_iff (scalar : Part) (t : DataType) (s : String) :
    held? scalar = some (t, s) ↔
      ∃ key rest, scalar.place = .key key :: rest ∧ dataType? key = some t ∧
        scalar.value = .string s := by
  obtain ⟨place, value⟩ := scalar
  cases place with
  | nil => simp [held?]
  | cons step rest => cases step <;> simp [held?, value?_eq_some_iff]

theorem replaceScalar_of_held {f : DataType → String → String} {scalar : Part} {t : DataType}
    {s : String} (hheld : held? scalar = some (t, s)) :
    replaceScalar f scalar = { scalar with value := .string (f t s) } := by
  rw [replaceScalar, hheld]

theorem replaceScalar_of_not_held {f : DataType → String → String} {scalar : Part}
    (hheld : held? scalar = none) : replaceScalar f scalar = scalar := by
  rw [replaceScalar, hheld]

/-- A contact value stays one when it is replaced. -/
theorem held?_replaceScalar (f : DataType → String → String) (scalar : Part) :
    held? (replaceScalar f scalar) =
      (held? scalar).map fun found => (found.1, f found.1 found.2) := by
  cases hheld : held? scalar with
  | none =>
      rw [replaceScalar_of_not_held hheld, hheld]
      rfl
  | some found =>
      obtain ⟨t, s⟩ := found
      obtain ⟨key, rest, hplace, htype, -⟩ := (held?_eq_some_iff scalar t s).mp hheld
      rw [replaceScalar_of_held hheld]
      exact (held?_eq_some_iff _ t (f t s)).mpr ⟨key, rest, hplace, htype, rfl⟩

@[simp] theorem place_replaceScalar (f : DataType → String → String) (scalar : Part) :
    (replaceScalar f scalar).place = scalar.place := by
  cases hheld : held? scalar with
  | none => rw [replaceScalar_of_not_held hheld]
  | some found => rw [replaceScalar_of_held hheld]

mutual

/-- Replacing keeps the keys in order and the lengths of lists. -/
theorem outline_replace (f : DataType → String → String) :
    (payload : Json) → (replace f payload).outline = payload.outline
  | .list items => by
      simp only [replace, Json.outline]
      rw [outlineItems_replaceItems f items]
  | .object members => by
      simp only [replace, Json.outline]
      rw [outlineMembers_replaceMembers f members]
  | .null | .bool _ | .number _ | .string _ => rfl

theorem outlineItems_replaceItems (f : DataType → String → String) : (items : List Json) →
    Json.outlineItems (replaceItems f items) = Json.outlineItems items
  | [] => rfl
  | item :: rest => by
      simp only [replaceItems, Json.outlineItems]
      rw [outline_replace f item, outlineItems_replaceItems f rest]

theorem outlineMembers_replaceMembers (f : DataType → String → String) :
    (members : List (String × Json)) →
    Json.outlineMembers (replaceMembers f members) = Json.outlineMembers members
  | [] => rfl
  | (key, value) :: rest => by
      simp only [replaceMembers, Json.outlineMembers]
      rw [outlineMembers_replaceMembers f rest]
      split
      · next t s hvalue =>
          obtain ⟨-, rfl⟩ := (value?_eq_some_iff key value t s).mp hvalue
          rfl
      · rw [outline_replace f value]

end

mutual

/-- The scalars of a payload at a place whose key does not hold it, with each
contact value replaced. -/
theorem scalarsAt_replace (f : DataType → String → String) (place : List Step) :
    (payload : Json) → held? ⟨place, payload⟩ = none →
    scalarsAt place (replace f payload) = (scalarsAt place payload).map (replaceScalar f)
  | .list items, _ => by
      simp only [replace, Json.scalarsAt_list]
      exact scalarsOfItems_replaceItems f place 0 items
  | .object members, _ => by
      simp only [replace, Json.scalarsAt_object]
      exact scalarsOfMembers_replaceMembers f place members
  | .null, hheld | .bool _, hheld | .number _, hheld | .string _, hheld =>
      congrArg (fun scalar => [scalar]) (replaceScalar_of_not_held hheld).symm

theorem scalarsOfItems_replaceItems (f : DataType → String → String) (place : List Step)
    (position : Nat) : (items : List Json) →
    scalarsAmong (partsOfItems place position (replaceItems f items)) =
      (scalarsAmong (partsOfItems place position items)).map (replaceScalar f)
  | [] => rfl
  | item :: rest => by
      simp only [replaceItems, Json.scalarsAmong_partsOfItems_cons, List.map_append]
      rw [scalarsAt_replace f (.index position :: place) item rfl,
        scalarsOfItems_replaceItems f place (position + 1) rest]

theorem scalarsOfMembers_replaceMembers (f : DataType → String → String) (place : List Step) :
    (members : List (String × Json)) →
    scalarsAmong (partsOfMembers place (replaceMembers f members)) =
      (scalarsAmong (partsOfMembers place members)).map (replaceScalar f)
  | [] => rfl
  | (key, value) :: rest => by
      simp only [replaceMembers, Json.scalarsAmong_partsOfMembers_cons, List.map_append]
      rw [scalarsOfMembers_replaceMembers f place rest]
      split
      · next t s hvalue =>
          have hheld : held? ⟨.key key :: place, value⟩ = some (t, s) := hvalue
          obtain ⟨-, rfl⟩ := (value?_eq_some_iff key value t s).mp hvalue
          exact congrArg (fun scalar => [scalar] ++ _) (replaceScalar_of_held hheld).symm
      · next hvalue => rw [scalarsAt_replace f (.key key :: place) value hvalue]

end

mutual

/-- The contact values of a payload are those that its scalars are. -/
theorem values_eq_filterMap (place : List Step) : (payload : Json) →
    held? ⟨place, payload⟩ = none → values payload = (scalarsAt place payload).filterMap held?
  | .list items, _ => by
      simp only [values, Json.scalarsAt_list]
      exact valuesOfItems_eq_filterMap place 0 items
  | .object members, _ => by
      simp only [values, Json.scalarsAt_object]
      exact valuesOfMembers_eq_filterMap place members
  | .null, hheld | .bool _, hheld | .number _, hheld | .string _, hheld =>
      (List.filterMap_cons_none (l := []) hheld).symm

theorem valuesOfItems_eq_filterMap (place : List Step) (position : Nat) : (items : List Json) →
    valuesOfItems items = (scalarsAmong (partsOfItems place position items)).filterMap held?
  | [] => rfl
  | item :: rest => by
      simp only [valuesOfItems, Json.scalarsAmong_partsOfItems_cons, List.filterMap_append]
      rw [values_eq_filterMap (.index position :: place) item rfl,
        valuesOfItems_eq_filterMap place (position + 1) rest]

theorem valuesOfMembers_eq_filterMap (place : List Step) : (members : List (String × Json)) →
    valuesOfMembers members = (scalarsAmong (partsOfMembers place members)).filterMap held?
  | [] => rfl
  | (key, value) :: rest => by
      simp only [valuesOfMembers, Json.scalarsAmong_partsOfMembers_cons, List.filterMap_append]
      rw [valuesOfMembers_eq_filterMap place rest]
      split
      · next found hvalue =>
          obtain ⟨t, s⟩ := found
          have hheld : held? ⟨.key key :: place, value⟩ = some (t, s) := hvalue
          obtain ⟨-, rfl⟩ := (value?_eq_some_iff key value t s).mp hvalue
          exact congrArg (· ++ _) (List.filterMap_cons_some (l := []) hheld).symm
      · next hvalue => rw [values_eq_filterMap (.key key :: place) value hvalue]

end

/-- The scalars of a payload with its contact values replaced. -/
theorem scalars_replace (f : DataType → String → String) (payload : Json) :
    (replace f payload).scalars = payload.scalars.map (replaceScalar f) :=
  scalarsAt_replace f [] payload rfl

/-- A scalar is changed by a replacement if it is a contact value and that is. -/
theorem replaceScalar_ne_iff (f : DataType → String → String) (scalar : Part) :
    scalar.value ≠ (replaceScalar f scalar).value ↔
      ∃ t s, held? scalar = some (t, s) ∧ f t s ≠ s := by
  cases hheld : held? scalar with
  | none => simp [replaceScalar_of_not_held hheld]
  | some found =>
      obtain ⟨t, s⟩ := found
      obtain ⟨key, rest, -, -, hvalue⟩ := (held?_eq_some_iff scalar t s).mp hheld
      simp [replaceScalar_of_held hheld, hvalue, eq_comm]

/-- The contact values that a replacement changes are the scalars it changes. -/
theorem differences_replace (f : DataType → String → String) (payload : Json) :
    payload.differences (replace f payload) =
      (values payload).countP fun value => f value.1 value.2 != value.2 := by
  have hpairs : payload.scalars.zip (replace f payload).scalars =
      payload.scalars.map fun scalar => (scalar, replaceScalar f scalar) := by
    have hzip : (payload.scalars.map id).zip (payload.scalars.map (replaceScalar f)) =
        payload.scalars.map fun scalar => (id scalar, replaceScalar f scalar) := List.zip_map'
    rwa [List.map_id, ← scalars_replace] at hzip
  rw [Json.differences, hpairs, List.countP_map, values_eq_filterMap [] payload rfl,
    List.countP_filterMap]
  apply List.countP_congr
  intro scalar _
  simp only [Function.comp_apply, decide_eq_true_eq, replaceScalar_ne_iff]
  cases held? scalar with
  | none => simp
  | some found =>
      obtain ⟨t, s⟩ := found
      simp

end ContactPrivacy.Contact
