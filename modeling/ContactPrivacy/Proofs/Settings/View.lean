/-
Settings are told by what they are compared by.  The view of settings tells
them apart from all others and from absent ones, so that their difference is
empty exactly if they are the same.
-/
import ContactPrivacy.Proofs.Settings.Trail

namespace ContactPrivacy

open Audit (Changes RuleName)

theorem Json.ofText?_injective : Function.Injective Json.ofText? := by
  intro first second hsame
  cases first <;> cases second <;> simp_all [Json.ofText?]

theorem FieldRule.toJson_injective : Function.Injective FieldRule.toJson := by
  rintro ⟨enabled, pattern⟩ ⟨otherEnabled, otherPattern⟩ hsame
  simp only [FieldRule.toJson, Json.object.injEq, List.cons.injEq, Prod.mk.injEq, true_and,
    Json.bool.injEq, and_true] at hsame
  obtain ⟨rfl, hpattern⟩ := hsame
  rw [Json.ofText?_injective hpattern]

theorem MaskingRules.exemptRoles_eq_of_rolesJson {first second : MaskingRules}
    (hsame : first.rolesJson = second.rolesJson) : first.exemptRoles = second.exemptRoles := by
  have hroles : first.exemptRoles.roles = second.exemptRoles.roles :=
    List.map_injective_iff.mpr (fun _ _ => Json.string.inj) (Json.list.inj hsame)
  rw [← RoleSet.ofList_roles first.exemptRoles, hroles, RoleSet.ofList_roles]

namespace SettingsView

/-- Settings with the same view are the same. -/
theorem of_injective : Function.Injective SettingsView.of := by
  intro first second hsame
  have hswitch := congrArg SettingsView.switch hsame
  have hrule := fun rule => congrFun (congrArg SettingsView.rule hsame) rule
  match first, second with
  | none, none => rfl
  | none, some _ => cases hswitch
  | some _, none => cases hswitch
  | some ⟨enabled, rules⟩, some ⟨otherEnabled, otherRules⟩ =>
      obtain rfl : enabled = otherEnabled := Json.bool.inj hswitch
      have hemail : rules.email = otherRules.email :=
        FieldRule.toJson_injective (hrule .email)
      have hphone : rules.phone = otherRules.phone :=
        FieldRule.toJson_injective (hrule .phone)
      have hbypass : rules.adminBypass = otherRules.adminBypass :=
        Json.bool.inj (hrule .adminBypass)
      have hreveal : rules.allowReveal = otherRules.allowReveal :=
        Json.bool.inj (hrule .allowReveal)
      have hroles : rules.exemptRoles = otherRules.exemptRoles :=
        MaskingRules.exemptRoles_eq_of_rolesJson (hrule .exemptRoles)
      obtain ⟨email, phone, bypass, reveal, roles⟩ := rules
      obtain ⟨_, _, _, _, _⟩ := otherRules
      subst hemail hphone hbypass hreveal hroles
      rfl

end SettingsView

theorem Audit.between_self (settings : Option Settings) :
    Changes.between settings settings = .none := by
  simp [Changes.between, Audit.Change.between?, Changes.none]

/-- Nothing differs exactly between settings that are the same. -/
theorem Audit.isEmpty_between_iff (before after : Option Settings) :
    (Changes.between before after).isEmpty = true ↔ before = after := by
  constructor
  · intro hempty
    have hwrite := SettingsView.write_between before after
    rw [Audit.Changes.eq_none_of_isEmpty hempty] at hwrite
    exact SettingsView.of_injective hwrite
  · rintro rfl
    rw [Audit.between_self]
    rfl

end ContactPrivacy
