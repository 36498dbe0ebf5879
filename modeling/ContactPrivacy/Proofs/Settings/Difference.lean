/-
The difference of two settings is exact: it names the fields in which they
differ, in a fixed order, with both values of each.  So it leads from either of
the two to the other, and from their exchange it is itself, exchanged.
-/
import ContactPrivacy.Proofs.Json.Lookup
import ContactPrivacy.Proofs.Settings.View

namespace ContactPrivacy

open Audit (Change Changes RuleName)

/-- A field that settings are compared by. -/
inductive SettingsField where
  | switch
  | rule (name : RuleName)
deriving DecidableEq

namespace SettingsField

def path : SettingsField → List String
  | .switch => ["masking_enabled"]
  | .rule name => ["masking_rules", name.name]

/-- What settings have at a field in the shape in which accounts store them.
Absent settings have null everywhere. -/
def valueIn (field : SettingsField) (settings : Option Settings) : Json :=
  ((settings.map Settings.view).bind (Json.at? field.path)).getD .null

end SettingsField

namespace SettingsView

def value (view : SettingsView) : SettingsField → Json
  | .switch => view.switch
  | .rule name => view.rule name

theorem value_of (settings : Option Settings) (field : SettingsField) :
    (of settings).value field = field.valueIn settings := by
  cases settings with
  | none => cases field <;> rfl
  | some settings =>
      cases field with
      | switch => rfl
      | rule name => cases name <;> rfl

end SettingsView

namespace Audit

def Change.swap (change : Change) : Change := ⟨change.after, change.before⟩

/-- The changes back, told in the same order. -/
def Changes.swap (changes : Changes) : Changes :=
  ⟨changes.maskingEnabled.map Change.swap,
    changes.rules.map fun (rule, change) => (rule, change.swap)⟩

theorem Change.between?_comm (before after : Json) :
    between? after before = (between? before after).map swap := by
  by_cases hsame : before = after
  · rw [between?, between?, if_pos hsame, if_pos hsame.symm, Option.map_none]
  · rw [between?, between?, if_neg hsame, if_neg (Ne.symm hsame), Option.map_some]
    rfl

/-- The difference of two settings the other way round. -/
theorem between_comm (before after : Option Settings) :
    Changes.between after before = (Changes.between before after).swap := by
  simp only [Changes.between, Changes.swap, Changes.mk.injEq, List.map_filterMap,
    Change.between?_comm (switchJson before), Change.between?_comm (ruleJson _ before),
    Option.map_map, true_and]
  rfl

theorem RuleName.name_injective : Function.Injective RuleName.name := by
  intro first second hsame
  cases first <;> cases second <;> simp_all [RuleName.name]

section Named

variable (change? : RuleName → Option Change) (names : List RuleName)

/-- What some changes tell of rules, each under its name. -/
def namedChanges : Members :=
  (names.filterMap fun name => (change? name).map fun change => (name, change)).map
    fun (rule, change) => (rule.name, change.toJson)

theorem get?_namedChanges (rule : RuleName) :
    Assoc.get? rule.name (namedChanges change? names) =
      if rule ∈ names then (change? rule).map Change.toJson else none := by
  induction names with
  | nil => rfl
  | cons name rest ih =>
      have hname : name.name = rule.name ↔ name = rule := RuleName.name_injective.eq_iff
      rw [namedChanges] at ih ⊢
      cases hchange : change? name with
      | none =>
          simp only [List.filterMap_cons, hchange, Option.map_none, ih, List.mem_cons]
          by_cases hrule : rule = name
          · simp [hrule, hchange]
          · simp [hrule]
      | some change =>
          simp only [List.filterMap_cons, hchange, Option.map_some, List.map_cons, Assoc.get?,
            hname, ih, List.mem_cons]
          by_cases hrule : rule = name
          · simp [hrule, hchange]
          · simp [hrule, Ne.symm hrule]

/-- Changes are told in the order of the names. -/
theorem keys_namedChanges_sublist :
    (Assoc.keys (namedChanges change? names)).Sublist (names.map RuleName.name) := by
  have hkeys : Assoc.keys (namedChanges change? names) =
      (names.filter fun name => (change? name).isSome).map RuleName.name := by
    induction names with
    | nil => rfl
    | cons name rest ih =>
        rw [namedChanges, Assoc.keys] at ih ⊢
        cases hchange : change? name <;> simp [hchange, ih]
  rw [hkeys]
  exact List.filter_sublist.map RuleName.name

end Named

namespace Changes

theorem toJson_eq_empty_iff (changes : Changes) :
    changes.toJson = .object [] ↔ changes.isEmpty = true := by
  obtain ⟨switch, rules⟩ := changes
  cases switch <;> cases rules <;> simp [toJson, members, isEmpty]

theorem at?_switch (changes : Changes) :
    changes.toJson.at? ["masking_enabled"] = changes.maskingEnabled.map Change.toJson := by
  obtain ⟨switch, rules⟩ := changes
  rw [toJson, Json.at?_key]
  cases switch <;> cases rules <;> simp [members, Assoc.get?]

theorem at?_rule (changes : Changes) (rule : RuleName) :
    changes.toJson.at? ["masking_rules", rule.name] =
      Assoc.get? rule.name changes.rulesMembers := by
  have hrules : Assoc.get? "masking_rules" changes.members =
      if changes.rules.isEmpty then .none else some (.object changes.rulesMembers) := by
    obtain ⟨switch, rules⟩ := changes
    cases switch <;> cases rules <;> simp [members, Assoc.get?]
  rw [toJson, Json.at?_cons_object, hrules]
  split
  · next hempty =>
      rw [rulesMembers, List.isEmpty_iff.mp hempty]
      rfl
  · rw [Option.bind_some, Json.at?_key]

theorem keys_members_sublist (changes : Changes) :
    (Assoc.keys changes.members).Sublist ["masking_enabled", "masking_rules"] := by
  obtain ⟨switch, rules⟩ := changes
  cases switch <;> cases rules <;> simp [members, Assoc.keys]

end Changes

/-- A difference tells a field exactly if the settings differ in it. -/
theorem at?_between (before after : Option Settings) (field : SettingsField) :
    (Changes.between before after).toJson.at? field.path =
      (Change.between? (field.valueIn before) (field.valueIn after)).map Change.toJson := by
  simp only [← SettingsView.value_of]
  cases field with
  | switch =>
      rw [SettingsField.path, Changes.at?_switch, Changes.between, SettingsView.switchJson_eq,
        SettingsView.switchJson_eq]
      rfl
  | rule rule =>
      have hnamed := get?_namedChanges
        (fun name => Change.between? (ruleJson name before) (ruleJson name after)) RuleName.all rule
      rw [if_pos (SettingsView.mem_all rule), SettingsView.ruleJson_eq,
        SettingsView.ruleJson_eq] at hnamed
      rw [SettingsField.path, Changes.at?_rule]
      exact hnamed

end Audit

namespace Settings

/-- The difference of two settings, which malformed ones take part in as absent,
is exact and can be undone.  It is empty exactly if both are the same.  It tells
a field exactly if the views differ there, with the values of both.  Written
over the first view it gives the second, the difference the other way round is
the same with its values exchanged, and written over the second view that gives
the first.  Rules come in one order, whatever the order of members and roles
they were read from. -/
theorem difference_exact_reversible (before after : Given Settings) :
    let old := before.settings.answer
    let new := after.settings.answer
    let changes := (Changes.ofGiven before after).answer
    (changes.toJson = .object [] ↔ old = new) ∧
    (∀ field : SettingsField, changes.toJson.at? field.path =
      if field.valueIn old = field.valueIn new then none
      else some (.object [("from", field.valueIn old), ("to", field.valueIn new)])) ∧
    (SettingsView.of old).write changes = SettingsView.of new ∧
    (SettingsView.of new).write changes.swap = SettingsView.of old ∧
    (Changes.ofGiven after before).answer = changes.swap ∧
    (∀ field : SettingsField, (SettingsView.of old).value field = field.valueIn old ∧
      (SettingsView.of new).value field = field.valueIn new) ∧
    (Assoc.keys changes.members).Sublist ["masking_enabled", "masking_rules"] ∧
    (Assoc.keys changes.rulesMembers).Sublist
      ["email", "phone", "admin_bypass", "allow_reveal", "exempt_roles"] := by
  intro old new changes
  have hchanges : changes = Changes.between old new := rfl
  have hback : (Changes.ofGiven after before).answer = changes.swap := Audit.between_comm old new
  refine ⟨?_, fun field => ?_, SettingsView.write_between old new, ?_, hback, fun field => ?_,
    changes.keys_members_sublist, ?_⟩
  · rw [changes.toJson_eq_empty_iff]
    exact Audit.isEmpty_between_iff old new
  · rw [hchanges, Audit.at?_between, Change.between?]
    split <;> rfl
  · rw [← hback]
    exact SettingsView.write_between new old
  · exact ⟨SettingsView.value_of old field, SettingsView.value_of new field⟩
  · exact Audit.keys_namedChanges_sublist
      (fun rule => Change.between? (Audit.ruleJson rule old) (Audit.ruleJson rule new)) RuleName.all

end Settings

end ContactPrivacy
