/-
What an update leaves at a permitted leaf.  The permitted part of an update
keeps exactly the members that have a permit; merging it into a value puts what
it says at each leaf and leaves the leaves that it does not name.
-/
import ContactPrivacy.Proofs.Json.Lookup
import ContactPrivacy.Settings.Update

namespace ContactPrivacy

namespace Permit

/-- Whether keys lead to a value that an update may replace as a whole. -/
def Reaches : Permit → List String → Prop
  | .leaf, [] => True
  | .branch allowed, key :: rest => ∃ permit, find? key allowed = some permit ∧ permit.Reaches rest
  | .leaf, _ :: _ => False
  | .branch _, [] => False

theorem keys_keepMembers_sublist (allowed : List (String × Permit))
    (members : List (String × Json)) :
    (Assoc.keys (keepMembers allowed members)).Sublist (Assoc.keys members) := by
  induction members with
  | nil => simp [keepMembers]
  | cons member rest ih =>
      obtain ⟨key, value⟩ := member
      rw [keepMembers]
      split
      · exact ih.cons_cons key
      · exact ih.cons key

/-- The permitted members of an object with distinct keys. -/
theorem get?_keepMembers (allowed : List (String × Permit)) {members : List (String × Json)}
    (hdistinct : (Assoc.keys members).Nodup) (key : String) :
    Assoc.get? key (keepMembers allowed members) =
      (Assoc.get? key members).bind fun value =>
        (find? key allowed).bind fun permit => keep permit value := by
  induction members with
  | nil => rfl
  | cons member rest ih =>
      obtain ⟨other, value⟩ := member
      obtain ⟨hfresh, hrest⟩ := List.nodup_cons.mp hdistinct
      have ih := ih hrest
      rw [keepMembers]
      by_cases hkey : other = key
      · subst hkey
        have habsent : Assoc.get? other rest = none :=
          (Assoc.get?_eq_none_iff other rest).mpr hfresh
        split
        · next kept hkept => simp only [Assoc.get?, if_true, Option.bind_some, hkept]
        · next hkept =>
            rw [ih, habsent]
            simp only [Assoc.get?, if_true, Option.bind_some, Option.bind_none, hkept]
      · split
        · simp only [Assoc.get?, hkey, if_false, ih]
        · simp only [Assoc.get?, hkey, if_false, ih]

/-- The permitted part of a value has at a leaf what the value has there. -/
theorem at?_keep {path : List String} {permit : Permit} (hreaches : permit.Reaches path)
    {value : Json} (hdistinct : value.hasDistinctKeys = true) :
    (keep permit value).bind (Json.at? path) = value.at? path := by
  induction path generalizing permit value with
  | nil =>
      cases permit with
      | branch allowed => cases hreaches
      | leaf => rw [keep, Option.bind_some]
  | cons key rest ih =>
      cases permit with
      | leaf => cases hreaches
      | branch allowed =>
          obtain ⟨permit, hpermit, hrest⟩ := hreaches
          cases value with
          | object members =>
              obtain ⟨hkeys, hmembers⟩ := Json.hasDistinctKeys_object hdistinct
              rw [keep, Option.bind_some, Json.at?_cons_object, Json.at?_cons_object,
                get?_keepMembers allowed hkeys, hpermit]
              cases hchild : Assoc.get? key members with
              | none => rfl
              | some child =>
                  rw [Option.bind_some, Option.bind_some, Option.bind_some]
                  exact ih hrest (hmembers key child hchild)
          | _ => rfl

end Permit

/-- Only an object is merged into an object. -/
theorem mergeValue_of_not_object {base : Json} (hscalar : ∀ members, base ≠ .object members)
    (update : Json) : mergeValue (some base) update = update := by
  rw [mergeValue]
  intro members changes hobject
  exact absurd (Option.some.inj hobject) (hscalar members)

/-- Members merged into an object, where each key comes once. -/
theorem get?_mergeMembers (base : Members) {changes : List (String × Json)}
    (hdistinct : (Assoc.keys changes).Nodup) (key : String) :
    Assoc.get? key (mergeMembers base changes) =
      match Assoc.get? key changes with
      | some change => some (mergeValue (Assoc.get? key base) change)
      | none => Assoc.get? key base := by
  induction changes generalizing base with
  | nil => simp [mergeMembers, Assoc.get?]
  | cons change rest ih =>
      obtain ⟨other, value⟩ := change
      obtain ⟨hfresh, hrest⟩ := List.nodup_cons.mp hdistinct
      rw [mergeMembers, ih _ hrest]
      by_cases hkey : other = key
      · subst hkey
        have habsent : Assoc.get? other rest = none :=
          (Assoc.get?_eq_none_iff other rest).mpr hfresh
        simp only [habsent, Assoc.get?, if_true, Assoc.get?_put_self]
      · simp only [Assoc.get?, hkey, if_false, Assoc.get?_put_of_ne (Ne.symm hkey)]

open Permit in
/-- At a leaf that a permit reaches, a merge of the permitted part of an update
leaves what the update has there, or else what was there before. -/
theorem at?_mergeValue {path : List String} {permit : Permit} (hreaches : permit.Reaches path)
    {base old update kept : Json} (hold : base.at? path = some old)
    (hscalar : ∀ members, old ≠ .object members) (hdistinct : update.hasDistinctKeys = true)
    (hkept : keep permit update = some kept) :
    (mergeValue (some base) kept).at? path = some ((kept.at? path).getD old) := by
  induction path generalizing permit base update kept with
  | nil =>
      rw [Json.at?_nil, Option.some.injEq] at hold
      rw [mergeValue_of_not_object (hold ▸ hscalar), Json.at?_nil, Option.getD_some]
  | cons key rest ih =>
      cases permit with
      | leaf => cases hreaches
      | branch allowed =>
          obtain ⟨permit, hpermit, hrest⟩ := hreaches
          obtain ⟨members, child, rfl, hchild, hfound⟩ := Json.at?_cons_eq_some hold
          cases update with
          | object changes =>
              obtain ⟨hkeys, hchanges⟩ := Json.hasDistinctKeys_object hdistinct
              rw [keep, Option.some.injEq] at hkept
              subst hkept
              have hnodup := hkeys.sublist (keys_keepMembers_sublist allowed changes)
              have hpart := get?_keepMembers allowed hkeys key
              rw [hpermit] at hpart
              rw [mergeValue, Json.at?_cons_object, Json.at?_cons_object,
                get?_mergeMembers members hnodup]
              cases hchange : Assoc.get? key (keepMembers allowed changes) with
              | none =>
                  simp only [hchild, Option.bind_some, Option.bind_none, Option.getD_none]
                  exact hfound
              | some part =>
                  rw [hchange, eq_comm, Option.bind_eq_some_iff] at hpart
                  obtain ⟨change, hchanged, hkeeps⟩ := hpart
                  simp only [hchild, Option.bind_some]
                  exact ih hrest hfound (hchanges key change hchanged) hkeeps
          | _ => cases hkept

end ContactPrivacy
