/-
Of an update only the permitted part counts.  Keys lead to nothing in it but what
they may lead to, it has all of that as the payload has it, and it is its own
permitted part.  Payloads whose permitted parts differ in nothing but the order of
members are one and the same update.
-/
import ContactPrivacy.Proofs.Settings.Leaf
import ContactPrivacy.Settings.Provision

namespace ContactPrivacy

namespace Permit

variable {permit : Permit} {allowed : List (String × Permit)} {value kept found : Json}
  {members : List (String × Json)}

/-- The permit that keys lead to, from branch to branch. -/
def at? : List String → Permit → Option Permit
  | [], permit => some permit
  | key :: rest, .branch allowed => (find? key allowed).bind (at? rest)
  | _ :: _, .leaf => none

/-! What is kept -/

/-- A branch keeps objects only, and of these some members. -/
theorem exists_of_keep_branch (hkept : keep (.branch allowed) value = some kept) :
    ∃ members, value = .object members ∧ kept = .object (keepMembers allowed members) := by
  cases value with
  | object members =>
      rw [keep, Option.some.injEq] at hkept
      exact ⟨members, rfl, hkept.symm⟩
  | _ => cases hkept

/-- A permitted member has a permit and is what that keeps of some value. -/
theorem exists_keep_of_get? {key : String} {child : Json}
    (hchild : Assoc.get? key (keepMembers allowed members) = some child) :
    ∃ permit value, find? key allowed = some permit ∧ keep permit value = some child := by
  induction members with
  | nil => cases hchild
  | cons member rest ih =>
      obtain ⟨other, value⟩ := member
      rw [keepMembers] at hchild
      split at hchild
      · next kept hkept =>
          by_cases hkey : other = key
          · subst hkey
            simp only [Assoc.get?, if_true, Option.some.injEq] at hchild
            subst hchild
            obtain ⟨permit, hpermit, hkept⟩ := Option.bind_eq_some_iff.mp hkept
            exact ⟨permit, value, hpermit, hkept⟩
          · simp only [Assoc.get?, hkey, if_false] at hchild
            exact ih hchild
      · exact ih hchild

/-- Keys lead through a leaf in what a permit keeps, or to an object at a branch. -/
theorem on_permit_of_at?_kept {path : List String} (hkept : keep permit value = some kept)
    (hfound : kept.at? path = some found) :
    (∃ front, front <+: path ∧ permit.Reaches front) ∨
      (∃ allowed, permit.at? path = some (.branch allowed)) ∧
        ∃ members, found = .object members := by
  induction path generalizing permit value kept with
  | nil =>
      cases permit with
      | leaf => exact Or.inl ⟨[], List.prefix_refl [], trivial⟩
      | branch allowed =>
          obtain ⟨members, rfl, rfl⟩ := exists_of_keep_branch hkept
          rw [Json.at?_nil, Option.some.injEq] at hfound
          exact Or.inr ⟨⟨allowed, rfl⟩, _, hfound.symm⟩
  | cons key rest ih =>
      cases permit with
      | leaf => exact Or.inl ⟨[], List.nil_prefix, trivial⟩
      | branch allowed =>
          obtain ⟨members, rfl, rfl⟩ := exists_of_keep_branch hkept
          rw [Json.at?_cons_object, Option.bind_eq_some_iff] at hfound
          obtain ⟨child, hchild, hfound⟩ := hfound
          obtain ⟨permit, value, hpermit, hkept⟩ := exists_keep_of_get? hchild
          rcases ih hkept hfound with ⟨front, hfront, hreaches⟩ | ⟨⟨inner, hinner⟩, hobject⟩
          · refine Or.inl ⟨key :: front, (List.cons_prefix_cons).mpr ⟨rfl, hfront⟩, ?_⟩
            exact ⟨permit, hpermit, hreaches⟩
          · refine Or.inr ⟨⟨inner, ?_⟩, hobject⟩
            rw [at?, hpermit]
            exact hinner

mutual

/-- What a permit keeps, it keeps again. -/
theorem keep_kept (permit : Permit) : (value : Json) → {kept : Json} →
    keep permit value = some kept → keep permit kept = some kept
  | .object members, kept, hkept => by
      cases permit with
      | leaf => rw [keep]
      | branch allowed =>
          rw [keep, Option.some.injEq] at hkept
          subst hkept
          rw [keep, keepMembers_keepMembers allowed members]
  | .null, kept, hkept | .bool _, kept, hkept | .number _, kept, hkept | .string _, kept, hkept
  | .list _, kept, hkept => by
      cases permit with
      | leaf => rw [keep]
      | branch allowed => cases hkept

theorem keepMembers_keepMembers (allowed : List (String × Permit)) :
    (members : List (String × Json)) →
    keepMembers allowed (keepMembers allowed members) = keepMembers allowed members
  | [] => rfl
  | (key, value) :: rest => by
      have hrest := keepMembers_keepMembers allowed rest
      rw [keepMembers]
      split
      · next kept hkept =>
          obtain ⟨permit, hpermit, hkept⟩ := Option.bind_eq_some_iff.mp hkept
          have hagain := keep_kept permit value hkept
          rw [keepMembers, hpermit, Option.bind_some, hagain, hrest]
      · exact hrest

end

mutual

/-- Keys that are distinct stay so. -/
theorem hasDistinctKeys_kept (permit : Permit) : (value : Json) → {kept : Json} →
    value.hasDistinctKeys = true → keep permit value = some kept → kept.hasDistinctKeys = true
  | .object members, kept, hdistinct, hkept => by
      cases permit with
      | leaf =>
          rw [keep, Option.some.injEq] at hkept
          exact hkept ▸ hdistinct
      | branch allowed =>
          rw [keep, Option.some.injEq] at hkept
          obtain ⟨hkeys, hvalues⟩ := (Json.hasDistinctKeys_object_iff members).mp hdistinct
          rw [← hkept, Json.hasDistinctKeys_object_iff]
          exact ⟨hkeys.sublist (keys_keepMembers_sublist allowed members),
            hasDistinctKeys_keptMembers allowed members hvalues⟩
  | .null, kept, hdistinct, hkept | .bool _, kept, hdistinct, hkept
  | .number _, kept, hdistinct, hkept | .string _, kept, hdistinct, hkept
  | .list _, kept, hdistinct, hkept => by
      cases permit with
      | leaf =>
          rw [keep, Option.some.injEq] at hkept
          exact hkept ▸ hdistinct
      | branch allowed => cases hkept

theorem hasDistinctKeys_keptMembers (allowed : List (String × Permit)) :
    (members : List (String × Json)) →
    (∀ value ∈ Assoc.values members, value.hasDistinctKeys = true) →
    ∀ value ∈ Assoc.values (keepMembers allowed members), value.hasDistinctKeys = true
  | [], hdistinct => hdistinct
  | (key, value) :: rest, hdistinct => by
      rw [Assoc.values_cons, List.forall_mem_cons] at hdistinct
      have hrest := hasDistinctKeys_keptMembers allowed rest hdistinct.2
      rw [keepMembers]
      split
      · next kept hkept =>
          obtain ⟨permit, -, hkept⟩ := Option.bind_eq_some_iff.mp hkept
          rw [Assoc.values_cons, List.forall_mem_cons]
          exact ⟨hasDistinctKeys_kept permit value hdistinct.1 hkept, hrest⟩
      · exact hrest

end

/-! Members in another order -/

mutual

/-- Values that a permit keeps and that are the same but for the order of members:
equal at its leaves, and reordered at its branches. -/
inductive Reordered : Permit → Json → Json → Prop
  | leaf (value : Json) : Reordered .leaf value value
  | branch {allowed : List (String × Permit)} {xs ys : List (String × Json)} :
      ReorderedMembers allowed xs ys → Reordered (.branch allowed) (.object xs) (.object ys)

/-- Members that have a permit each, in any order, and are the same but for the
order of members inside them. -/
inductive ReorderedMembers :
    List (String × Permit) → List (String × Json) → List (String × Json) → Prop
  | nil {allowed : List (String × Permit)} : ReorderedMembers allowed [] []
  | cons {allowed : List (String × Permit)} {key : String} {permit : Permit} {x y : Json}
      {xs ys : List (String × Json)} : find? key allowed = some permit → Reordered permit x y →
      ReorderedMembers allowed xs ys → ReorderedMembers allowed ((key, x) :: xs) ((key, y) :: ys)
  | swap {allowed : List (String × Permit)} (first second : String × Json)
      (rest : List (String × Json)) :
      ReorderedMembers allowed (first :: second :: rest) (second :: first :: rest)
  | trans {allowed : List (String × Permit)} {xs ys zs : List (String × Json)} :
      ReorderedMembers allowed xs ys → ReorderedMembers allowed ys zs →
      ReorderedMembers allowed xs zs

end

/-- Values that have the same at every leaf. -/
def Agree (permit : Permit) (x y : Json) : Prop :=
  ∀ path, permit.Reaches path → x.at? path = y.at? path

theorem agree_cons {key : String} {x y : Json} {xs ys : List (String × Json)}
    (hpermit : find? key allowed = some permit)
    (hvalue : permit.Agree x y) (hrest : (branch allowed).Agree (.object xs) (.object ys)) :
    (branch allowed).Agree (.object ((key, x) :: xs)) (.object ((key, y) :: ys)) := by
  intro path hreaches
  cases path with
  | nil => cases hreaches
  | cons other rest =>
      have hothers := hrest (other :: rest) hreaches
      obtain ⟨inner, hinner, hreaches⟩ := hreaches
      simp only [Json.at?_cons_object, Assoc.get?] at hothers ⊢
      split
      · next hkey =>
          subst hkey
          obtain rfl := Option.some.inj (hpermit.symm.trans hinner)
          exact hvalue rest hreaches
      · exact hothers

theorem agree_swap {first second : String × Json} {rest : List (String × Json)}
    (hkeys : first.1 ≠ second.1) :
    (branch allowed).Agree (.object (first :: second :: rest))
      (.object (second :: first :: rest)) := by
  intro path hreaches
  cases path with
  | nil => cases hreaches
  | cons key way =>
      simp only [Json.at?_cons_object, Assoc.get?]
      by_cases hfirst : first.1 = key
      · have hsecond : second.1 ≠ key := fun hsecond => hkeys (hfirst.trans hsecond.symm)
        simp only [hfirst, hsecond, if_true, if_false]
      · simp only [hfirst, if_false]

theorem ReorderedMembers.perm_keys {xs ys : List (String × Json)} :
    ReorderedMembers allowed xs ys → (Assoc.keys xs).Perm (Assoc.keys ys)
  | .nil => .refl []
  | .cons _ _ hrest => hrest.perm_keys.cons _
  | .swap first second rest => .swap second.1 first.1 _
  | .trans hfirst hsecond => hfirst.perm_keys.trans hsecond.perm_keys

mutual

/-- Reordering keeps keys distinct and leaves every leaf as it is. -/
theorem Reordered.agree {permit : Permit} {x y : Json} : Reordered permit x y →
    x.hasDistinctKeys = true → y.hasDistinctKeys = true ∧ permit.Agree x y
  | .leaf _, hdistinct => ⟨hdistinct, fun _ _ => rfl⟩
  | .branch hmembers, hdistinct => hmembers.agree hdistinct

theorem ReorderedMembers.agree {allowed : List (String × Permit)}
    {xs ys : List (String × Json)} : ReorderedMembers allowed xs ys →
    (Json.object xs).hasDistinctKeys = true →
    (Json.object ys).hasDistinctKeys = true ∧
      (branch allowed).Agree (.object xs) (.object ys)
  | .nil, hdistinct => ⟨hdistinct, fun _ _ => rfl⟩
  | .cons hpermit hvalue hrest, hdistinct => by
      rw [Json.hasDistinctKeys_object_iff, Assoc.values_cons, List.forall_mem_cons] at hdistinct
      obtain ⟨hkeys, hx, hxs⟩ := hdistinct
      obtain ⟨hy, hsame⟩ := hvalue.agree hx
      obtain ⟨hys, hothers⟩ := hrest.agree
        ((Json.hasDistinctKeys_object_iff _).mpr ⟨(List.nodup_cons.mp hkeys).2, hxs⟩)
      refine ⟨?_, agree_cons hpermit hsame hothers⟩
      rw [Json.hasDistinctKeys_object_iff, Assoc.values_cons, List.forall_mem_cons]
      exact ⟨(hrest.perm_keys.cons _).nodup hkeys, hy,
        ((Json.hasDistinctKeys_object_iff _).mp hys).2⟩
  | .swap first second rest, hdistinct => by
      rw [Json.hasDistinctKeys_object_iff] at hdistinct ⊢
      obtain ⟨hkeys, hvalues⟩ := hdistinct
      have hother : first.1 ≠ second.1 := (List.pairwise_cons.mp hkeys).1 _ List.mem_cons_self
      refine ⟨⟨(List.Perm.swap second.1 first.1 _).nodup hkeys, fun value hvalue => ?_⟩,
        agree_swap hother⟩
      exact hvalues value ((List.Perm.swap first.2 second.2 _).mem_iff.mp hvalue)
  | .trans hfirst hsecond, hdistinct => by
      obtain ⟨hmiddle, hbefore⟩ := hfirst.agree hdistinct
      obtain ⟨hlast, hafter⟩ := hsecond.agree hmiddle
      exact ⟨hlast, fun path hreaches => (hbefore path hreaches).trans (hafter path hreaches)⟩

end

end Permit

theorem hasDistinctKeys_permittedPart {payload : Json}
    (hdistinct : payload.hasDistinctKeys = true) :
    (Json.object (permittedPart payload)).hasDistinctKeys = true := by
  cases payload with
  | object members =>
      apply Permit.hasDistinctKeys_kept (.branch Permit.settings) (.object members) hdistinct
      rw [Permit.keep]
      rfl
  | _ => rfl

/-- What the permitted part of a payload has at a leaf is what the payload has there. -/
theorem at?_permittedPart {payload : Json} (hdistinct : payload.hasDistinctKeys = true)
    {path : List String} (hreaches : (Permit.branch Permit.settings).Reaches path) :
    (Json.object (permittedPart payload)).at? path = payload.at? path := by
  cases path with
  | nil => cases hreaches
  | cons key rest =>
      rw [← Permit.at?_keep hreaches hdistinct]
      cases payload with
      | object members => rfl
      | _ => rfl

theorem permittedPart_permittedPart (payload : Json) :
    permittedPart (.object (permittedPart payload)) = permittedPart payload := by
  cases payload with
  | object members => exact Permit.keepMembers_keepMembers Permit.settings members
  | _ => rfl

namespace Settings

variable {first second : Json}

/-- Payloads that mention the same at every leaf are the same update. -/
theorem updated_congr (before : Settings) (hfirst : first.hasDistinctKeys = true)
    (hsecond : second.hasDistinctKeys = true)
    (hsame : ∀ leaf : Leaf, leaf.mentioned? first = leaf.mentioned? second) :
    before.updated first = before.updated second := by
  have hsource : source before first = source before second := by
    funext leaf
    rw [source, source, hsame leaf]
  rw [updated_eq_assemble before hfirst, updated_eq_assemble before hsecond, hsource]

theorem update_congr (hsame : ∀ before : Settings, before.updated first = before.updated second)
    (recorder : Audit.Recorder) (user : Given User) (account : Option AccountCard)
    (current : Given Settings) :
    update recorder user account current first = update recorder user account current second := by
  have happly : ∀ settings : Given Settings,
      applyUpdate settings first = applyUpdate settings second := by
    intro settings
    simp only [applyUpdate, hsame]
  simp only [update, happly]

/-- Keys that are not permitted have no effect on an update.  In the permitted part of
a payload keys lead through a permitted leaf or to an object on the way to one; at
each permitted leaf it has what the payload has; and it is its own permitted part.
An update with another payload that has the same permitted part, but for the order of
members above the leaves, is the same: in what it answers, records and logs. -/
theorem update_by_permitted_part {payload : Json} (hdistinct : payload.hasDistinctKeys = true) :
    let permitted := Permit.branch Permit.settings
    let kept := Json.object (permittedPart payload)
    (∀ path found, kept.at? path = some found →
      (∃ front, front <+: path ∧ permitted.Reaches front) ∨
      (∃ allowed, permitted.at? path = some (.branch allowed)) ∧
        ∃ members, found = .object members) ∧
    (∀ path, permitted.Reaches path → kept.at? path = payload.at? path) ∧
    permittedPart kept = permittedPart payload ∧
    ∀ other : Json, other.hasDistinctKeys = true →
      Permit.ReorderedMembers Permit.settings (permittedPart payload) (permittedPart other) →
      ∀ recorder user account current,
        update recorder user account current payload =
          update recorder user account current other := by
  intro permitted kept
  refine ⟨?_, ?_, ?_, ?_⟩
  · intro path found hfound
    have hkept : Permit.keep permitted kept = some kept := by
      rw [Permit.keep]
      exact congrArg (some ∘ Json.object) (permittedPart_permittedPart payload)
    exact Permit.on_permit_of_at?_kept hkept hfound
  · intro path hreaches
    exact at?_permittedPart hdistinct hreaches
  · exact permittedPart_permittedPart payload
  · intro other hother hreordered
    obtain ⟨-, hagree⟩ := hreordered.agree (hasDistinctKeys_permittedPart hdistinct)
    apply update_congr
    intro before
    apply updated_congr before hdistinct hother
    intro leaf
    exact hagree leaf.path leaf.reaches

/-- A payload with a number for a rule, a rule's key beside the rules and keys of no
settings, and what it permits in another order. -/
theorem update_by_permitted_part_in_other_order :
    let roles := Json.list [.string "owner", .string "admin"]
    let payload := Json.object [("masking_rules", .object [("phone", .int 5), ("enabled", .null),
      ("exempt_roles", roles), ("email", .object [("enabled", .string "off"), ("roles", roles)])]),
      ("enabled", .bool true), ("masking_enabled", .bool false)]
    let other := Json.object [("masking_enabled", .bool false), ("masking_rules", .object
      [("email", .object [("enabled", .string "off")]), ("exempt_roles", roles)])]
    let recorder : Audit.Recorder := ⟨.memory (Audit.Store.empty 10), ""⟩
    let result := fun payload => update recorder (.ready none) none (.raw .null) payload
    payload.hasDistinctKeys = true ∧ other.hasDistinctKeys = true ∧
      permittedPart payload ≠ permittedPart other ∧
      Permit.ReorderedMembers Permit.settings (permittedPart payload) (permittedPart other) ∧
      result payload = result other ∧
      (Json.object (permittedPart payload)).at? ["masking_rules", "exempt_roles"] = some roles := by
  intro roles payload other recorder result
  have hdistinct : payload.hasDistinctKeys = true := by decide +kernel
  have hother : other.hasDistinctKeys = true := by decide +kernel
  have hrules : Permit.ReorderedMembers
      [("admin_bypass", .leaf), ("allow_reveal", .leaf), ("exempt_roles", .leaf),
        ("email", Permit.fieldRule), ("phone", Permit.fieldRule)]
      [("exempt_roles", roles), ("email", .object [("enabled", .string "off")])]
      [("email", .object [("enabled", .string "off")]), ("exempt_roles", roles)] :=
    .swap _ _ []
  have hreordered : Permit.ReorderedMembers Permit.settings (permittedPart payload)
      (permittedPart other) :=
    .trans (.cons rfl (.branch hrules) (.cons rfl (.leaf _) .nil)) (.swap _ _ [])
  obtain ⟨-, hleaves, -, hupdate⟩ := update_by_permitted_part hdistinct
  exact ⟨hdistinct, hother, by decide +kernel, hreordered,
    hupdate other hother hreordered recorder (.ready none) none (.raw .null),
    hleaves ["masking_rules", "exempt_roles"] ⟨_, rfl, _, rfl, trivial⟩⟩

end Settings

end ContactPrivacy
