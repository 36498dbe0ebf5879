/-
Two ways to provision settings.  Settings that are read from an object are those
that an update of nothing by that object leaves, and an update by the view of
settings leaves these settings, whatever was there before.
-/
import ContactPrivacy.Proofs.Settings.Leaf

namespace ContactPrivacy

namespace Json

/-- The members of the object that a key leads to; any other value has none. -/
def child (key : String) (members : Members) : Members :=
  ((Assoc.get? key members).bind members?).getD []

/-- A way that goes on after a key goes on in the members under the key. -/
theorem at?_child (key next : String) (rest : List String) (members : Members) :
    (Json.object members).at? (key :: next :: rest) =
      (Json.object (child key members)).at? (next :: rest) := by
  rw [at?_cons_object, child]
  cases Assoc.get? key members with
  | none => rfl
  | some value => cases value <;> rfl

end Json

namespace Reading

variable {α : Type} {members : Members} {name : String} {default result : α}
  {read : Json → Reading α}

/-- What a member is read as comes from its value if it has one, and is the
default if it has none. -/
theorem member_eq_accepted (haccepted : member members name default read = .accepted result) :
    (∀ value, Assoc.get? name members = some value → read value = .accepted result) ∧
      (Assoc.get? name members = none → result = default) := by
  unfold member at haccepted
  cases hvalue : Assoc.get? name members with
  | none =>
      rw [hvalue] at haccepted
      exact ⟨nofun, fun _ => (Reading.accepted.inj haccepted).symm⟩
  | some value =>
      rw [hvalue] at haccepted
      refine ⟨?_, nofun⟩
      rintro _ ⟨⟩
      exact (under_eq_accepted_iff _ _ _).mp haccepted

/-- A member whose reader takes null for the empty object is read by its members,
also where it is not there. -/
theorem ofMembers_child (ofMembers : Members → Reading α)
    (hdefault : ofMembers [] = .accepted default)
    (hread : ∀ value result, read value = .accepted result →
      ofMembers (value.members?.getD []) = .accepted result)
    (haccepted : member members name default read = .accepted result) :
    ofMembers (Json.child name members) = .accepted result := by
  obtain ⟨hgiven, habsent⟩ := member_eq_accepted haccepted
  rw [Json.child]
  cases hvalue : Assoc.get? name members with
  | none => rw [habsent hvalue, Option.bind_none, Option.getD_none, hdefault]
  | some value => exact hread value result (hgiven value hvalue)

end Reading

theorem FieldRule.ofMembers_of_read (value : Json) (rule : FieldRule)
    (haccepted : FieldRule.read value = .accepted rule) :
    FieldRule.ofMembers (value.members?.getD []) = .accepted rule := by
  cases value with
  | null => exact haccepted
  | object members => exact haccepted
  | _ => cases haccepted

theorem MaskingRules.ofMembers_of_read (value : Json) (rules : MaskingRules)
    (haccepted : MaskingRules.read value = .accepted rules) :
    MaskingRules.ofMembers (value.members?.getD []) = .accepted rules := by
  cases value with
  | null => exact haccepted
  | object members => exact haccepted
  | _ => cases haccepted

namespace Settings

/-- Settings hold at a leaf what a value has there, or the default where it has
nothing. -/
structure Leaf.ReadFrom (leaf : Leaf) (value : Json) (settings : Settings) : Prop where
  given : ∀ found, value.at? leaf.path = some found →
    leaf.read found = .accepted (leaf.get settings)
  absent : value.at? leaf.path = none → leaf.get settings = leaf.get default

theorem Leaf.readFrom_of_member {leaf : Leaf} {members inner : Members} {key : String}
    {settings : Settings}
    (hfound : (Json.object members).at? leaf.path = Assoc.get? key inner)
    (haccepted : Reading.member inner key (leaf.get default) leaf.read =
      .accepted (leaf.get settings)) : leaf.ReadFrom (.object members) settings := by
  obtain ⟨hgiven, habsent⟩ := Reading.member_eq_accepted haccepted
  exact ⟨fun found hvalue => hgiven found (hfound ▸ hvalue),
    fun hnone => habsent (hfound ▸ hnone)⟩

/-- The leaves of a rule that is read from the members under its key. -/
theorem rule_readFrom {members : Members} {settings : Settings} (t : DataType)
    (haccepted : Reading.member (Json.child "masking_rules" members) t.name .default
      FieldRule.read = .accepted (Leaf.ruleOf settings t)) :
    (Leaf.ruleEnabled t).ReadFrom (.object members) settings ∧
      (Leaf.rulePattern t).ReadFrom (.object members) settings := by
  have hrule := Reading.ofMembers_child FieldRule.ofMembers rfl
    FieldRule.ofMembers_of_read haccepted
  obtain ⟨henabled, hpattern⟩ := (FieldRule.mk_eq_accepted_iff _ _ _).mp hrule
  have hpath : ∀ key, (Json.object members).at? ["masking_rules", t.name, key] =
      Assoc.get? key (Json.child t.name (Json.child "masking_rules" members)) := fun key => by
    rw [Json.at?_child, Json.at?_child, Json.at?_key]
  have hdefault : Leaf.ruleOf default t = .default := by cases t <;> rfl
  refine ⟨Leaf.readFrom_of_member (hpath "enabled") ?_,
    Leaf.readFrom_of_member (hpath "pattern") ?_⟩
  · rw [Leaf.get, hdefault]
    exact henabled
  · rw [Leaf.get, hdefault]
    exact hpattern

/-- Settings that members are read as hold each leaf from there. -/
theorem readFrom_of_accepted {members : Members} {settings : Settings}
    (haccepted : ofMembers members = .accepted settings) (leaf : Leaf) :
    leaf.ReadFrom (.object members) settings := by
  obtain ⟨hswitch, hmember⟩ := (mk_eq_accepted_iff _ _ settings).mp haccepted
  have hrules := Reading.ofMembers_child MaskingRules.ofMembers rfl
    MaskingRules.ofMembers_of_read hmember
  obtain ⟨hemail, hphone, hbypass, hreveal, hroles⟩ :=
    (MaskingRules.mk_eq_accepted_iff _ _ _ _ _ settings.rules).mp hrules
  have hpath : ∀ key, (Json.object members).at? ["masking_rules", key] =
      Assoc.get? key (Json.child "masking_rules" members) := fun key => by
    rw [Json.at?_child, Json.at?_key]
  have hrule : ∀ t : DataType, (Leaf.ruleEnabled t).ReadFrom (.object members) settings ∧
      (Leaf.rulePattern t).ReadFrom (.object members) settings := by
    intro t
    cases t with
    | email => exact rule_readFrom .email hemail
    | phone => exact rule_readFrom .phone hphone
  cases leaf with
  | maskingEnabled => exact Leaf.readFrom_of_member (Json.at?_key _ members) hswitch
  | ruleEnabled t => exact (hrule t).1
  | rulePattern t => exact (hrule t).2
  | adminBypass => exact Leaf.readFrom_of_member (hpath _) hbypass
  | allowReveal => exact Leaf.readFrom_of_member (hpath _) hreveal
  | exemptRoles => exact Leaf.readFrom_of_member (hpath _) hroles

/-- Settings that an object is read as are an update of the defaults by it. -/
theorem leafUpdate_of_accepted {members : Members} {settings : Settings}
    (hdistinct : (Json.object members).hasDistinctKeys = true)
    (haccepted : ofMembers members = .accepted settings) :
    LeafUpdate default (.object members) settings := by
  constructor
  · intro leaf value hvalue
    rw [leaf.mentioned?_eq_at? hdistinct] at hvalue
    exact (readFrom_of_accepted haccepted leaf).given value hvalue
  · intro leaf hnone
    rw [leaf.mentioned?_eq_at? hdistinct] at hnone
    exact (readFrom_of_accepted haccepted leaf).absent hnone

theorem hasDistinctKeys_view (settings : Settings) : settings.view.hasDistinctKeys = true := by
  have hpattern : ∀ pattern : Option String, (Json.ofText? pattern).hasDistinctKeys = true := by
    intro pattern
    cases pattern <;> rfl
  have hroles : settings.rules.rolesJson.hasDistinctKeys = true := by
    simp [MaskingRules.rolesJson, Json.hasDistinctKeys, Json.haveDistinctKeysItems_iff]
  simp [view, MaskingRules.toJson, FieldRule.toJson, Json.hasDistinctKeys,
    Json.haveDistinctKeysMembers, Assoc.keys, hpattern, hroles]

/-- The view of settings mentions every leaf. -/
theorem leafUpdate_view (before settings : Settings) :
    LeafUpdate before settings.view settings := by
  have hmentioned : ∀ leaf : Leaf,
      leaf.mentioned? settings.view = some (leaf.view settings) := fun leaf => by
    rw [leaf.mentioned?_eq_at? settings.hasDistinctKeys_view]
    exact leaf.at?_members settings
  constructor
  · intro leaf value hvalue
    rw [hmentioned leaf, Option.some.injEq] at hvalue
    rw [← hvalue, leaf.read_view]
  · intro leaf hnone
    rw [hmentioned leaf] at hnone
    cases hnone

/-- Settings that a raw value stands for are read from the members of an object. -/
theorem answer_raw_eq_some {value : Json} {settings : Settings}
    (hstands : (Given.raw value).settings.answer = some settings) :
    ∃ members, value = .object members ∧ ofMembers members = .accepted settings := by
  cases value with
  | object members =>
      refine ⟨members, rfl, ?_⟩
      simp only [Given.settings, acceptRaw] at hstands
      split at hstands
      · next accepted haccepted => rw [haccepted, Option.some.inj hstands]
      · cases hstands
  | _ => cases hstands

/-- Settings are provisioned alike on two ways.  An update of settings that are
absent or malformed by a value that stands for settings leaves these, and so does an
update by their view, whatever was there before. -/
theorem provisioning_agrees :
    (∀ payload : Json, payload.hasDistinctKeys = true →
      ∀ accepted, (Given.raw payload).settings.answer = some accepted →
      ∀ absent : Given Settings, absent.settings.answer = none →
        (applyUpdate absent payload).answer = .accepted accepted) ∧
    ∀ (current : Given Settings) (target : Settings),
      (applyUpdate current target.view).answer = .accepted target := by
  constructor
  · intro payload hdistinct accepted hstands absent hnone
    obtain ⟨members, rfl, haccepted⟩ := answer_raw_eq_some hstands
    rw [answer_applyUpdate, hnone, Option.getD_none, updated_eq_accepted_iff _ _ hdistinct]
    exact leafUpdate_of_accepted hdistinct haccepted
  · intro current target
    rw [answer_applyUpdate, updated_eq_accepted_iff _ _ target.hasDistinctKeys_view]
    exact leafUpdate_view _ target

/-- A payload with null for a rule, a number for a pattern and members that no
settings have, over settings that do not read; and the view of settings with a role and
no pattern, over the settings of this payload. -/
theorem provisioning_agrees_of_partial_rules :
    let payload := Json.object [("masking_rules", .object [("phone", .null),
      ("email", .object [("pattern", .int 7), ("colour", .string "red")]),
      ("exempt_roles", .null), ("owner", .object [])]), ("masking_enabled", .string "off")]
    let absent : Given Settings := .raw (.object [("masking_enabled", .string "maybe")])
    let accepted : Settings := ⟨false, ⟨true, some "7"⟩, .default, false, true, .empty⟩
    let target : Settings :=
      ⟨true, ⟨false, none⟩, .default, true, false, RoleSet.ofList ["owner"]⟩
    payload.hasDistinctKeys = true ∧ absent.settings.answer = none ∧
      (Given.raw payload).settings.answer = some accepted ∧
      (applyUpdate absent payload).answer = .accepted accepted ∧
      (applyUpdate (.raw payload) target.view).answer = .accepted target := by
  intro payload absent accepted target
  have hdistinct : payload.hasDistinctKeys = true := by decide +kernel
  have habsent : absent.settings.answer = none := by decide +kernel
  have haccepted : (Given.raw payload).settings.answer = some accepted := by decide +kernel
  obtain ⟨hread, hview⟩ := provisioning_agrees
  exact ⟨hdistinct, habsent, haccepted,
    hread payload hdistinct accepted haccepted absent habsent,
    hview (.raw payload) target⟩

end Settings

end ContactPrivacy
