/-
What sanitizing leaves of a payload.  Protected keys hold nothing any more, at
any depth, and what does not lie under one is as it was.  A payload is its own
sanitized form exactly if it is clear, and payloads have one sanitized form
exactly if they are alike.
-/
import ContactPrivacy.Proofs.Json.Parts
import ContactPrivacy.Proofs.Protection.Alike

namespace ContactPrivacy.Protection

open Json (Frame Part partsAt partsOfItems partsOfMembers)

/-- What a protected key may hold: null, the empty text, or the mark. -/
def IsHarmless (value : Json) : Prop :=
  value = .null ∨ value = .string "" ∨ value = .string mark

/-- A part that is not held by a protected key, or is harmless. -/
def IsClear (part : Part) : Prop :=
  ∀ key rest, part.place = .key key :: rest → isProtectedKey key = true → IsHarmless part.value

/-- A payload whose protected keys hold nothing, at any depth. -/
def Cleared (payload : Json) : Prop := ∀ part ∈ payload.parts, IsClear part

/-- Whether no protected key is on the way to a place. -/
def isOpen (place : List Step) : Bool :=
  place.all fun
    | .key key => !isProtectedKey key
    | .index _ => true

/-- Those of some parts that do not lie under a protected key, with their frames. -/
def openAmong (parts : List Part) : List (List Step × Frame) :=
  (parts.filter fun part => isOpen part.place).map fun part => (part.place, part.value.frame)

/-- What does not lie under a protected key of a payload, in document order. -/
def openParts (payload : Json) : List (List Step × Frame) := openAmong payload.parts

theorem openAmong_cons (part : Part) (parts : List Part) :
    openAmong (part :: parts) =
      (if isOpen part.place then [(part.place, part.value.frame)] else []) ++ openAmong parts := by
  unfold openAmong
  split <;> simp_all

@[simp] theorem openAmong_append (first second : List Part) :
    openAmong (first ++ second) = openAmong first ++ openAmong second := by
  simp [openAmong]

/-- Nothing under a protected key is open. -/
theorem openAmong_partsAt_of_protected {key : String} (hkey : isProtectedKey key = true)
    (place : List Step) (value : Json) :
    openAmong (partsAt (.key key :: place) value) = [] := by
  rw [openAmong, List.map_eq_nil_iff, List.filter_eq_nil_iff]
  intro part hpart hopen
  have hstep : Step.key key ∈ part.place :=
    (Json.suffix_of_mem_partsAt _ value hpart).subset List.mem_cons_self
  have hallowed := List.all_eq_true.mp hopen _ hstep
  simp [hkey] at hallowed

/-! Shielding -/

theorem shield_harmless (value : Json) : IsHarmless (shield value) := by
  unfold shield
  split
  · next hblank =>
      rcases Bool.or_eq_true_iff.mp hblank with hnull | hempty
      · exact Or.inl (of_decide_eq_true hnull)
      · exact Or.inr (Or.inl (of_decide_eq_true hempty))
  · exact Or.inr (Or.inr rfl)

theorem shield_of_harmless {value : Json} (hharmless : IsHarmless value) :
    shield value = value := by
  rcases hharmless with rfl | rfl | rfl <;> rfl

/-- What a protected key shows has no parts but itself. -/
theorem partsAt_of_harmless {value : Json} (hharmless : IsHarmless value) (place : List Step) :
    partsAt place value = [⟨place, value⟩] := by
  rcases hharmless with rfl | rfl | rfl <;> rfl

/-- Values that a protected key shows alike are the same or both not blank. -/
theorem eq_or_not_blank_of_shield_eq {x y : Json} (hshield : shield x = shield y) :
    x = y ∨ isBlank x = false ∧ isBlank y = false := by
  have hmark : ∀ value, isBlank value = true → value ≠ .string mark := by
    rintro value hblank rfl
    revert hblank
    decide
  cases hx : isBlank x <;> cases hy : isBlank y <;> simp only [shield, hx, hy] at hshield
  · exact Or.inr ⟨rfl, rfl⟩
  · exact (hmark y hy hshield.symm).elim
  · exact (hmark x hx hshield).elim
  · exact Or.inl hshield

/-! What stays -/

theorem length_sanitizedItems (items : List Json) :
    (sanitizedItems items).length = items.length := by
  induction items with
  | nil => rfl
  | cons item rest ih => simp [sanitizedItems, ih]

theorem keys_sanitizedMembers (members : List (String × Json)) :
    Assoc.keys (sanitizedMembers members) = Assoc.keys members := by
  induction members with
  | nil => rfl
  | cons member rest ih =>
      simp only [Assoc.keys] at ih
      simp [sanitizedMembers, Assoc.keys, ih]

mutual

/-- Sanitizing changes nothing that does not lie under a protected key. -/
theorem openAmong_sanitized (place : List Step) : (payload : Json) →
    openAmong (partsAt place (sanitized payload)) = openAmong (partsAt place payload)
  | .list items => by
      simp only [sanitized, partsAt, openAmong_cons, Json.frame, length_sanitizedItems]
      rw [openAmong_sanitizedItems place 0 items]
  | .object members => by
      simp only [sanitized, partsAt, openAmong_cons, Json.frame, keys_sanitizedMembers]
      rw [openAmong_sanitizedMembers place members]
  | .null | .bool _ | .number _ | .string _ => rfl

theorem openAmong_sanitizedItems (place : List Step) (position : Nat) : (items : List Json) →
    openAmong (partsOfItems place position (sanitizedItems items)) =
      openAmong (partsOfItems place position items)
  | [] => rfl
  | item :: rest => by
      simp only [sanitizedItems, partsOfItems, openAmong_append]
      rw [openAmong_sanitized (.index position :: place) item,
        openAmong_sanitizedItems place (position + 1) rest]

theorem openAmong_sanitizedMembers (place : List Step) : (members : List (String × Json)) →
    openAmong (partsOfMembers place (sanitizedMembers members)) =
      openAmong (partsOfMembers place members)
  | [] => rfl
  | (key, value) :: rest => by
      simp only [sanitizedMembers, partsOfMembers, openAmong_append]
      rw [openAmong_sanitizedMembers place rest]
      cases hkey : isProtectedKey key with
      | true => simp only [openAmong_partsAt_of_protected hkey]
      | false =>
          simp only [Bool.false_eq_true, if_false]
          rw [openAmong_sanitized (.key key :: place) value]

end

/-! What goes -/

mutual

/-- A sanitized payload is clear inside, whatever holds it. -/
theorem isClear_of_mem_sanitized (place : List Step) : (payload : Json) →
    IsClear ⟨place, sanitized payload⟩ → ∀ part ∈ partsAt place (sanitized payload), IsClear part
  | .list items, hself, part, hpart => by
      rcases List.mem_cons.mp hpart with rfl | hinside
      · exact hself
      · exact isClear_of_mem_sanitizedItems place 0 items part hinside
  | .object members, hself, part, hpart => by
      rcases List.mem_cons.mp hpart with rfl | hinside
      · exact hself
      · exact isClear_of_mem_sanitizedMembers place members part hinside
  | .null, hself, part, hpart | .bool _, hself, part, hpart | .number _, hself, part, hpart
  | .string _, hself, part, hpart => by
      obtain rfl := List.mem_singleton.mp hpart
      exact hself

theorem isClear_of_mem_sanitizedItems (place : List Step) (position : Nat) :
    (items : List Json) →
    ∀ part ∈ partsOfItems place position (sanitizedItems items), IsClear part
  | [], part, hpart => by cases hpart
  | item :: rest, part, hpart => by
      rcases List.mem_append.mp hpart with hitem | hrest
      · refine isClear_of_mem_sanitized (.index position :: place) item ?_ part hitem
        rintro key way ⟨⟩
      · exact isClear_of_mem_sanitizedItems place (position + 1) rest part hrest

theorem isClear_of_mem_sanitizedMembers (place : List Step) :
    (members : List (String × Json)) →
    ∀ part ∈ partsOfMembers place (sanitizedMembers members), IsClear part
  | [], part, hpart => by cases hpart
  | (key, value) :: rest, part, hpart => by
      rcases List.mem_append.mp hpart with hvalue | hrest
      · cases hkey : isProtectedKey key with
        | true =>
            have hharmless := shield_harmless value
            simp only [hkey, if_true, partsAt_of_harmless hharmless] at hvalue
            obtain rfl := List.mem_singleton.mp hvalue
            intro _ _ _ _
            exact hharmless
        | false =>
            simp only [hkey, Bool.false_eq_true, if_false] at hvalue
            refine isClear_of_mem_sanitized (.key key :: place) value ?_ part hvalue
            rintro _ _ ⟨⟩ hprotected
            rw [hkey] at hprotected
            cases hprotected
      · exact isClear_of_mem_sanitizedMembers place rest part hrest

end

theorem cleared_sanitized (payload : Json) : Cleared (sanitized payload) :=
  isClear_of_mem_sanitized [] payload (by rintro key rest ⟨⟩)

mutual

/-- Sanitizing leaves what is clear as it is. -/
theorem sanitized_of_isClear (place : List Step) : (payload : Json) →
    (∀ part ∈ partsAt place payload, IsClear part) → sanitized payload = payload
  | .list items, hclear => by
      rw [sanitized, sanitizedItems_of_isClear place 0 items]
      intro part hpart
      exact hclear part (List.mem_cons_of_mem _ hpart)
  | .object members, hclear => by
      rw [sanitized, sanitizedMembers_of_isClear place members]
      intro part hpart
      exact hclear part (List.mem_cons_of_mem _ hpart)
  | .null, _ | .bool _, _ | .number _, _ | .string _, _ => rfl

theorem sanitizedItems_of_isClear (place : List Step) (position : Nat) : (items : List Json) →
    (∀ part ∈ partsOfItems place position items, IsClear part) → sanitizedItems items = items
  | [], _ => rfl
  | item :: rest, hclear => by
      rw [partsOfItems, List.forall_mem_append] at hclear
      rw [sanitizedItems, sanitized_of_isClear _ item hclear.1,
        sanitizedItems_of_isClear place (position + 1) rest hclear.2]

theorem sanitizedMembers_of_isClear (place : List Step) : (members : List (String × Json)) →
    (∀ part ∈ partsOfMembers place members, IsClear part) → sanitizedMembers members = members
  | [], _ => rfl
  | (key, value) :: rest, hclear => by
      rw [partsOfMembers, List.forall_mem_append] at hclear
      obtain ⟨hvalue, hrest⟩ := hclear
      rw [sanitizedMembers, sanitizedMembers_of_isClear place rest hrest]
      cases hkey : isProtectedKey key with
      | true =>
          have hharmless : IsHarmless value :=
            hvalue _ (Json.self_mem_partsAt _ value) key place rfl hkey
          simp only [if_true, shield_of_harmless hharmless]
      | false =>
          simp only [Bool.false_eq_true, if_false]
          rw [sanitized_of_isClear _ value hvalue]

end

/-- The payloads that sanitizing leaves as they are. -/
theorem sanitized_eq_self_iff (payload : Json) : sanitized payload = payload ↔ Cleared payload := by
  constructor
  · intro hsame
    exact hsame ▸ cleared_sanitized payload
  · exact sanitized_of_isClear [] payload

/-! What is told of what goes -/

theorem Alike.of_eq {x y : Json} (hsame : x = y) : Alike x y := hsame ▸ .refl x

mutual

theorem alike_of_sanitized_eq : (first second : Json) →
    sanitized first = sanitized second → Alike first second
  | .list xs, second, hsame => by
      cases second with
      | list ys => exact .list (alikeItems_of_sanitized_eq xs ys (Json.list.inj hsame))
      | _ => simp [sanitized] at hsame
  | .object xs, second, hsame => by
      cases second with
      | object ys => exact .object (alikeMembers_of_sanitized_eq xs ys (Json.object.inj hsame))
      | _ => simp [sanitized] at hsame
  | .null, second, hsame | .bool _, second, hsame | .number _, second, hsame
  | .string _, second, hsame => by
      cases second with
      | list | object => simp [sanitized] at hsame
      | _ => exact .of_eq hsame

theorem alikeItems_of_sanitized_eq : (xs ys : List Json) →
    sanitizedItems xs = sanitizedItems ys → AlikeItems xs ys
  | [], [], _ => .nil
  | [], _ :: _, hsame => by simp [sanitizedItems] at hsame
  | _ :: _, [], hsame => by simp [sanitizedItems] at hsame
  | x :: xs, y :: ys, hsame => by
      obtain ⟨hitem, hrest⟩ := List.cons.inj hsame
      exact .cons (alike_of_sanitized_eq x y hitem) (alikeItems_of_sanitized_eq xs ys hrest)

theorem alikeMembers_of_sanitized_eq : (xs ys : List (String × Json)) →
    sanitizedMembers xs = sanitizedMembers ys → AlikeMembers xs ys
  | [], [], _ => .nil
  | [], _ :: _, hsame => by simp [sanitizedMembers] at hsame
  | _ :: _, [], hsame => by simp [sanitizedMembers] at hsame
  | (key, x) :: xs, (other, y) :: ys, hsame => by
      obtain ⟨hmember, hothers⟩ := List.cons.inj hsame
      obtain ⟨rfl, hvalue⟩ := Prod.mk.inj hmember
      have hrest := alikeMembers_of_sanitized_eq xs ys hothers
      cases hkey : isProtectedKey key with
      | true =>
          simp only [hkey, if_true] at hvalue
          rcases eq_or_not_blank_of_shield_eq hvalue with rfl | ⟨hx, hy⟩
          · exact .cons key (.refl x) hrest
          · exact .held hkey hx hy hrest
      | false =>
          simp only [hkey, Bool.false_eq_true, if_false] at hvalue
          exact .cons key (alike_of_sanitized_eq x y hvalue) hrest

end

theorem sanitized_eq_iff (first second : Json) :
    sanitized first = sanitized second ↔ Alike first second :=
  ⟨alike_of_sanitized_eq first second, Alike.sanitized_eq⟩

theorem answer_sanitize_protected {protection : Protection}
    (hprotected : protection.isProtected = true) (payload : Json) :
    (protection.sanitize payload).answer.1 = sanitized payload := by
  simp [sanitize, hprotected]

theorem answer_sanitize_open {protection : Protection}
    (hopen : protection.isProtected = false) (payload : Json) :
    (protection.sanitize payload).answer.1 = payload := by
  simp [sanitize, hopen]

/-- A payload does not change whom a protection is for. -/
theorem isProtected_sanitize (protection : Protection) (payload : Json) :
    (protection.sanitize payload).answer.2.isProtected = protection.isProtected := by
  unfold sanitize
  split <;> rfl

/-- A protected user receives of a payload what does not lie under a protected
key, as it is, and null, the empty text or the mark for what does.  Payloads
that are alike cannot be told apart, a payload is received as it is if it is
clear already, and so is what was received before.  Everybody else receives
the payload. -/
theorem sanitize_clears (protection : Protection) (payload other : Json) :
    let received := (protection.sanitize payload).answer.1
    let after := (protection.sanitize payload).answer.2
    (protection.isProtected = true →
      Cleared received ∧
      openParts received = openParts payload ∧
      (received = (protection.sanitize other).answer.1 ↔ Alike payload other) ∧
      (received = payload ↔ Cleared payload) ∧
      (after.sanitize received).answer.1 = received) ∧
    (protection.isProtected = false → received = payload) := by
  intro received after
  refine ⟨fun hprotected => ?_, fun hopen => answer_sanitize_open hopen payload⟩
  have hreceived : received = sanitized payload := answer_sanitize_protected hprotected payload
  have hafter : after.isProtected = true :=
    (protection.isProtected_sanitize payload).trans hprotected
  rw [answer_sanitize_protected hafter, answer_sanitize_protected hprotected, hreceived]
  exact ⟨cleared_sanitized payload, openAmong_sanitized [] payload,
    sanitized_eq_iff payload other, sanitized_eq_self_iff payload,
    (sanitized_eq_self_iff _).mpr (cleared_sanitized payload)⟩

/-- An object with a number of its own under one protected key, and zero under
another inside a list, is received as the payload with other values there is.
The blank values stay. -/
theorem sanitize_clears_nested :
    let protection := ofUser (some ⟨none, none, .agent, true⟩)
    let contact := fun email number : Json => Json.object [("name", .string "Ada"),
      ("email", email), ("notes", .list [.object [("phone_number", number), ("phone", .null)],
        .object [("email", .string "")]])]
    let payload := contact (.object [("phone", .string "+1 555 123 4567")]) (.number (.int 0))
    let other := contact (.bool false) (.list [])
    let received := (protection.sanitize payload).answer.1
    protection.isProtected = true ∧ Alike payload other ∧
      received = contact (.string mark) (.string mark) ∧ Cleared received ∧
      received = (protection.sanitize other).answer.1 ∧ ¬ Cleared payload := by
  intro protection contact payload other received
  have hnotes : AlikeItems [.object [("phone_number", .number (.int 0)), ("phone", .null)],
      .object [("email", .string "")]] [.object [("phone_number", .list []), ("phone", .null)],
      .object [("email", .string "")]] :=
    .cons (.object (.held rfl (by decide) (by decide) (.cons "phone" (.refl _) .nil)))
      (.cons (.refl _) .nil)
  have halike : Alike payload other :=
    .object (.cons "name" (.refl _) (.held rfl (by decide) (by decide)
      (.cons "notes" (.list hnotes) .nil)))
  obtain ⟨hclear, -, hsame, hself, -⟩ := (sanitize_clears protection payload other).1 rfl
  exact ⟨rfl, halike, rfl, hclear, hsame.mpr halike, mt hself.mpr (by decide)⟩

end ContactPrivacy.Protection
