/-
Payloads that differ only in what protected keys hold.  A protected key of both
holds something that is not blank; everything else is the same.  So it is after
contact values are replaced, as long as the same of them are empty.
-/
import ContactPrivacy.Proofs.Contact.Replaced
import ContactPrivacy.Protection

namespace ContactPrivacy.Protection

mutual

/-- Payloads equal but for what protected keys hold that is not blank. -/
inductive Alike : Json → Json → Prop
  | refl (value : Json) : Alike value value
  | object {xs ys : List (String × Json)} :
      AlikeMembers xs ys → Alike (.object xs) (.object ys)
  | list {xs ys : List Json} : AlikeItems xs ys → Alike (.list xs) (.list ys)

inductive AlikeItems : List Json → List Json → Prop
  | nil : AlikeItems [] []
  | cons {x y : Json} {xs ys : List Json} :
      Alike x y → AlikeItems xs ys → AlikeItems (x :: xs) (y :: ys)

/-- Members with the same keys in order, where a protected key may hold another
value. -/
inductive AlikeMembers : List (String × Json) → List (String × Json) → Prop
  | nil : AlikeMembers [] []
  | cons (key : String) {x y : Json} {xs ys : List (String × Json)} :
      Alike x y → AlikeMembers xs ys → AlikeMembers ((key, x) :: xs) ((key, y) :: ys)
  | held {key : String} {x y : Json} {xs ys : List (String × Json)} :
      isProtectedKey key = true → isBlank x = false → isBlank y = false →
      AlikeMembers xs ys → AlikeMembers ((key, x) :: xs) ((key, y) :: ys)

end

/-- Values that are alike are blank together. -/
theorem Alike.isBlank_eq {x y : Json} (halike : Alike x y) : isBlank x = isBlank y := by
  cases halike with
  | refl => rfl
  | object => simp [isBlank]
  | list => simp [isBlank]

theorem shield_of_not_blank {value : Json} (hblank : isBlank value = false) :
    shield value = .string mark := by
  simp [shield, hblank]

theorem fields_evidence (key : String) (value : Json) :
    (evidence key value).map Violation.field = if isBlank value then [] else [key] := by
  unfold evidence
  split <;> rfl

/-- A protected key shows the same of values that are alike. -/
theorem Alike.shield_eq {x y : Json} (halike : Alike x y) : shield x = shield y := by
  cases halike with
  | refl => rfl
  | object => rfl
  | list => rfl

mutual

/-- Sanitizing payloads that are alike gives one payload. -/
theorem Alike.sanitized_eq {x y : Json} : Alike x y → sanitized x = sanitized y
  | .refl _ => rfl
  | .object hmembers => by
      simp only [sanitized]
      rw [hmembers.sanitizedMembers_eq]
  | .list hitems => by
      simp only [sanitized]
      rw [hitems.sanitizedItems_eq]

theorem AlikeItems.sanitizedItems_eq {xs ys : List Json} :
    AlikeItems xs ys → sanitizedItems xs = sanitizedItems ys
  | .nil => rfl
  | .cons hitem hrest => by
      simp only [sanitizedItems]
      rw [hitem.sanitized_eq, hrest.sanitizedItems_eq]

theorem AlikeMembers.sanitizedMembers_eq {xs ys : List (String × Json)} :
    AlikeMembers xs ys → sanitizedMembers xs = sanitizedMembers ys
  | .nil => rfl
  | .cons key hvalue hrest => by
      simp only [sanitizedMembers]
      rw [hvalue.shield_eq, hvalue.sanitized_eq, hrest.sanitizedMembers_eq]
  | .held hkey hx hy hrest => by
      simp only [sanitizedMembers, hkey, if_true, shield_of_not_blank hx, shield_of_not_blank hy]
      rw [hrest.sanitizedMembers_eq]

end

def replacedKeys (payload : Json) : List String := (replacements payload).map Violation.field

mutual

/-- The same keys are replaced in payloads that are alike. -/
theorem Alike.replacedKeys_eq {x y : Json} : Alike x y → replacedKeys x = replacedKeys y
  | .refl _ => rfl
  | .object hmembers => by
      simp only [replacedKeys, replacements]
      exact hmembers.fields_eq
  | .list hitems => by
      simp only [replacedKeys, replacements]
      exact hitems.fields_eq

theorem AlikeItems.fields_eq {xs ys : List Json} : AlikeItems xs ys →
    (replacementsOfItems xs).map Violation.field = (replacementsOfItems ys).map Violation.field
  | .nil => rfl
  | .cons hitem hrest => by
      have hkeys := hitem.replacedKeys_eq
      simp only [replacedKeys] at hkeys
      simp only [replacementsOfItems, List.map_append]
      rw [hkeys, hrest.fields_eq]

theorem AlikeMembers.fields_eq {xs ys : List (String × Json)} : AlikeMembers xs ys →
    (replacementsOfMembers xs).map Violation.field =
      (replacementsOfMembers ys).map Violation.field
  | .nil => rfl
  | .cons key hvalue hrest => by
      have hkeys := hvalue.replacedKeys_eq
      simp only [replacedKeys] at hkeys
      simp only [replacementsOfMembers, List.map_append, apply_ite (List.map Violation.field),
        fields_evidence, hvalue.isBlank_eq]
      rw [hkeys, hrest.fields_eq]
  | .held hkey hx hy hrest => by
      simp only [replacementsOfMembers, List.map_append, hkey, if_true, fields_evidence, hx, hy]
      rw [hrest.fields_eq]

end

/-- As many values are replaced in payloads that are alike. -/
theorem Alike.length_replacements_eq {x y : Json} (halike : Alike x y) :
    (replacements x).length = (replacements y).length := by
  have hkeys := congrArg List.length halike.replacedKeys_eq
  simpa only [replacedKeys, List.length_map] using hkeys

variable {f : DataType → String → String}

mutual

/-- A payload stays alike when its contact values are replaced and the same of
them are empty. -/
theorem alike_replace (hempty : ∀ t s, f t s = "" ↔ s = "") : (payload : Json) →
    Alike payload (Contact.replace f payload)
  | .object members => .object (alikeMembers_replace hempty members)
  | .list items => .list (alikeItems_replace hempty items)
  | .null | .bool _ | .number _ | .string _ => .refl _

theorem alikeItems_replace (hempty : ∀ t s, f t s = "" ↔ s = "") : (items : List Json) →
    AlikeItems items (Contact.replaceItems f items)
  | [] => .nil
  | item :: rest => .cons (alike_replace hempty item) (alikeItems_replace hempty rest)

theorem alikeMembers_replace (hempty : ∀ t s, f t s = "" ↔ s = "") :
    (members : List (String × Json)) → AlikeMembers members (Contact.replaceMembers f members)
  | [] => .nil
  | (key, value) :: rest => by
      have hrest := alikeMembers_replace hempty rest
      rw [Contact.replaceMembers]
      split
      · next t text hvalue =>
          obtain ⟨hkey, rfl⟩ := (Contact.value?_eq_some_iff key value t text).mp hvalue
          by_cases hblank : text = ""
          · rw [hblank, (hempty t "").mpr rfl]
            exact .cons key (.refl _) hrest
          · refine .held (by simp [isProtectedKey, hkey]) ?_ ?_ hrest
            · simp [isBlank, hblank]
            · simp [isBlank, hempty, hblank]
      · exact .cons key (alike_replace hempty value) hrest

end

end ContactPrivacy.Protection
