/-
What an update of settings does, leaf by leaf.  A leaf that the permitted part
of a payload mentions is read from there, and every other leaf stays; the update
is accepted if and only if each mentioned value can be read.
-/
import ContactPrivacy.Proofs.Settings.Merge

namespace ContactPrivacy

namespace Reading

variable {α : Type}

/-- The reading of a part that keys lead to, its issues told from the whole. -/
def along (path : List String) (reading : Reading α) : Reading α :=
  path.foldr (fun key part => part.under (.key key)) reading

theorem along_eq_accepted_iff (path : List String) (reading : Reading α) (value : α) :
    reading.along path = .accepted value ↔ reading = .accepted value := by
  induction path with
  | nil => rfl
  | cons key rest ih =>
      rw [← ih]
      exact under_eq_accepted_iff (.key key) (reading.along rest) value

theorem issues_along (path : List String) (reading : Reading α) :
    (reading.along path).issues =
      reading.issues.map fun issue => ⟨path.map Step.key ++ issue.place, issue.fault⟩ := by
  induction path with
  | nil => simp [along]
  | cons key rest ih =>
      have hunder := issues_under (.key key) (reading.along rest)
      rw [ih, List.map_map] at hunder
      exact hunder

theorem member_of_get? {members : Members} {name : String} {value : Json}
    (hvalue : Assoc.get? name members = some value) (default : α) (read : Json → Reading α) :
    member members name default read = (read value).under (.key name) := by
  rw [member, hvalue]

theorem items_text_strings (texts : List String) (position : Nat) :
    items text position (texts.map Json.string) = .accepted texts := by
  induction texts generalizing position with
  | nil => rfl
  | cons first rest ih =>
      rw [List.map_cons, items, ih]
      rfl

end Reading

@[simp] theorem FieldRule.read_object (members : Members) :
    FieldRule.read (.object members) = FieldRule.ofMembers members := rfl

/-- A pattern is null or the text of what was given. -/
theorem FieldRule.patternOf_eq (value : Json) :
    FieldRule.patternOf value = if value = .null then none else some value.literal := by
  cases value <;> simp [FieldRule.patternOf]

@[simp] theorem MaskingRules.read_object (members : Members) :
    MaskingRules.read (.object members) = MaskingRules.ofMembers members := rfl

/-! A record is read exactly if each of its fields is. -/

theorem FieldRule.mk_eq_accepted_iff (enabled : Reading Bool) (pattern : Reading (Option String))
    (rule : FieldRule) :
    FieldRule.mk <$> enabled <*> pattern = .accepted rule ↔
      enabled = .accepted rule.enabled ∧ pattern = .accepted rule.pattern := by
  constructor
  · intro haccepted
    simp only [Reading.seq_eq_accepted_iff, Reading.map_eq_accepted_iff] at haccepted
    obtain ⟨_, pattern, ⟨enabled, henabled, rfl⟩, hpattern, rfl⟩ := haccepted
    exact ⟨henabled, hpattern⟩
  · rintro ⟨rfl, rfl⟩
    rfl

theorem MaskingRules.mk_eq_accepted_iff (email phone : Reading FieldRule)
    (bypass reveal : Reading Bool) (roles : Reading RoleSet) (rules : MaskingRules) :
    MaskingRules.mk <$> email <*> phone <*> bypass <*> reveal <*> roles = .accepted rules ↔
      email = .accepted rules.email ∧ phone = .accepted rules.phone ∧
        bypass = .accepted rules.adminBypass ∧ reveal = .accepted rules.allowReveal ∧
        roles = .accepted rules.exemptRoles := by
  constructor
  · intro haccepted
    simp only [Reading.seq_eq_accepted_iff, Reading.map_eq_accepted_iff] at haccepted
    obtain ⟨_, roles, ⟨_, reveal, ⟨_, bypass, ⟨_, phone, ⟨email, hemail, rfl⟩, hphone, rfl⟩,
      hbypass, rfl⟩, hreveal, rfl⟩, hroles, rfl⟩ := haccepted
    exact ⟨hemail, hphone, hbypass, hreveal, hroles⟩
  · rintro ⟨rfl, rfl, rfl, rfl, rfl⟩
    rfl

namespace Settings

theorem mk_eq_accepted_iff (switch : Reading Bool) (rules : Reading MaskingRules)
    (settings : Settings) :
    Settings.mk <$> switch <*> rules = .accepted settings ↔
      switch = .accepted settings.maskingEnabled ∧ rules = .accepted settings.rules := by
  constructor
  · intro haccepted
    simp only [Reading.seq_eq_accepted_iff, Reading.map_eq_accepted_iff] at haccepted
    obtain ⟨_, rules, ⟨switch, hswitch, rfl⟩, hrules, rfl⟩ := haccepted
    exact ⟨hswitch, hrules⟩
  · rintro ⟨rfl, rfl⟩
    rfl

/-- The leaves of settings, each replaced as a whole by an update. -/
inductive Leaf where
  | maskingEnabled
  | ruleEnabled (dataType : DataType)
  | rulePattern (dataType : DataType)
  | adminBypass
  | allowReveal
  | exemptRoles
deriving DecidableEq

namespace Leaf

def all : List Leaf :=
  [.maskingEnabled, .ruleEnabled .email, .rulePattern .email, .ruleEnabled .phone,
    .rulePattern .phone, .adminBypass, .allowReveal, .exemptRoles]

def path : Leaf → List String
  | .maskingEnabled => ["masking_enabled"]
  | .ruleEnabled t => ["masking_rules", t.name, "enabled"]
  | .rulePattern t => ["masking_rules", t.name, "pattern"]
  | .adminBypass => ["masking_rules", "admin_bypass"]
  | .allowReveal => ["masking_rules", "allow_reveal"]
  | .exemptRoles => ["masking_rules", "exempt_roles"]

/-- What settings hold at a leaf. -/
abbrev Value : Leaf → Type
  | .rulePattern _ => Option String
  | .exemptRoles => RoleSet
  | .maskingEnabled | .ruleEnabled _ | .adminBypass | .allowReveal => Bool

/-- What a value that is given for a leaf stands for. -/
def read : (leaf : Leaf) → Json → Reading leaf.Value
  | .rulePattern _, value => .accepted (FieldRule.patternOf value)
  | .exemptRoles, value => MaskingRules.readRoles value
  | .maskingEnabled, value | .ruleEnabled _, value | .adminBypass, value
  | .allowReveal, value => Reading.bool value

def ruleOf (settings : Settings) : DataType → FieldRule
  | .email => settings.rules.email
  | .phone => settings.rules.phone

def get : (leaf : Leaf) → Settings → leaf.Value
  | .maskingEnabled, settings => settings.maskingEnabled
  | .ruleEnabled t, settings => (ruleOf settings t).enabled
  | .rulePattern t, settings => (ruleOf settings t).pattern
  | .adminBypass, settings => settings.rules.adminBypass
  | .allowReveal, settings => settings.rules.allowReveal
  | .exemptRoles, settings => settings.rules.exemptRoles

def view (settings : Settings) : Leaf → Json
  | .maskingEnabled => .bool settings.maskingEnabled
  | .ruleEnabled t => .bool (ruleOf settings t).enabled
  | .rulePattern t => Json.ofText? (ruleOf settings t).pattern
  | .adminBypass => .bool settings.rules.adminBypass
  | .allowReveal => .bool settings.rules.allowReveal
  | .exemptRoles => settings.rules.rolesJson

/-- What the permitted part of a payload has at a leaf, if it mentions the leaf. -/
def mentioned? (leaf : Leaf) (payload : Json) : Option Json :=
  (Json.object (permittedPart payload)).at? leaf.path

/-- A leaf is permitted. -/
theorem reaches (leaf : Leaf) : (Permit.branch Permit.settings).Reaches leaf.path := by
  cases leaf with
  | maskingEnabled => exact ⟨_, rfl, trivial⟩
  | ruleEnabled t => cases t <;> exact ⟨_, rfl, _, rfl, _, rfl, trivial⟩
  | rulePattern t => cases t <;> exact ⟨_, rfl, _, rfl, _, rfl, trivial⟩
  | adminBypass => exact ⟨_, rfl, _, rfl, trivial⟩
  | allowReveal => exact ⟨_, rfl, _, rfl, trivial⟩
  | exemptRoles => exact ⟨_, rfl, _, rfl, trivial⟩

theorem at?_members (settings : Settings) (leaf : Leaf) :
    (Json.object settings.members).at? leaf.path = some (leaf.view settings) := by
  cases leaf with
  | ruleEnabled t => cases t <;> rfl
  | rulePattern t => cases t <;> rfl
  | _ => rfl

theorem view_ne_object (settings : Settings) (leaf : Leaf) (members : List (String × Json)) :
    leaf.view settings ≠ .object members := by
  cases leaf with
  | rulePattern t =>
      rw [view]
      cases (ruleOf settings t).pattern <;> simp [Json.ofText?]
  | _ => simp [view, MaskingRules.rolesJson]

/-- The view of a leaf reads as what the settings hold there. -/
theorem read_view (settings : Settings) (leaf : Leaf) :
    leaf.read (leaf.view settings) = .accepted (leaf.get settings) := by
  cases leaf with
  | rulePattern t =>
      rw [view, get]
      cases hpattern : (ruleOf settings t).pattern with
      | none => rfl
      | some pattern =>
          simp only [read, Json.ofText?, FieldRule.patternOf, Json.literal_string]
  | exemptRoles =>
      rw [view, get, read, MaskingRules.rolesJson, MaskingRules.readRoles,
        Reading.items_text_strings]
      exact congrArg Reading.accepted (RoleSet.ofList_roles settings.rules.exemptRoles)
  | _ => rfl

/-- A payload whose objects have distinct keys mentions a leaf if and only if it
has something there. -/
theorem mentioned?_eq_at? {payload : Json} (hdistinct : payload.hasDistinctKeys = true)
    (leaf : Leaf) : leaf.mentioned? payload = payload.at? leaf.path := by
  have hkeep := Permit.at?_keep leaf.reaches hdistinct
  cases payload with
  | object members => exact hkeep
  | _ =>
      rw [← hkeep]
      cases leaf <;> rfl

/-- The merged members have at each leaf what the payload mentions there, or else
the view of the current leaf. -/
theorem at?_merged (current : Settings) {payload : Json}
    (hdistinct : payload.hasDistinctKeys = true) (leaf : Leaf) :
    (Json.object (mergeMembers current.members (permittedPart payload))).at? leaf.path =
      some ((leaf.mentioned? payload).getD (leaf.view current)) := by
  have hbase := leaf.at?_members current
  cases payload with
  | object members =>
      have hmerged := at?_mergeValue leaf.reaches hbase (leaf.view_ne_object current) hdistinct
        (by rw [Permit.keep])
      rw [mergeValue] at hmerged
      exact hmerged
  | _ => cases leaf <;> exact hbase

end Leaf

/-! Putting leaves together -/

section Assembly

variable (readings : (leaf : Leaf) → Reading leaf.Value)

def assembleRule (t : DataType) : Reading FieldRule :=
  FieldRule.mk <$> readings (.ruleEnabled t) <*> readings (.rulePattern t)

def assembleRules : Reading MaskingRules :=
  MaskingRules.mk
    <$> assembleRule readings .email
    <*> assembleRule readings .phone
    <*> readings .adminBypass
    <*> readings .allowReveal
    <*> readings .exemptRoles

/-- Settings put together from readings of their leaves. -/
def assemble : Reading Settings :=
  Settings.mk <$> readings .maskingEnabled <*> assembleRules readings

/-- Settings are put together exactly if each leaf can be read. -/
theorem assemble_eq_accepted_iff (settings : Settings) :
    assemble readings = .accepted settings ↔
      ∀ leaf, readings leaf = .accepted (leaf.get settings) := by
  simp only [assemble, mk_eq_accepted_iff, assembleRules, MaskingRules.mk_eq_accepted_iff,
    assembleRule, FieldRule.mk_eq_accepted_iff]
  constructor
  · rintro ⟨hswitch, hemail, hphone, hbypass, hreveal, hroles⟩ leaf
    cases leaf with
    | maskingEnabled => exact hswitch
    | ruleEnabled t =>
        cases t with
        | email => exact hemail.1
        | phone => exact hphone.1
    | rulePattern t =>
        cases t with
        | email => exact hemail.2
        | phone => exact hphone.2
    | adminBypass => exact hbypass
    | allowReveal => exact hreveal
    | exemptRoles => exact hroles
  · intro hleaves
    exact ⟨hleaves _, ⟨hleaves _, hleaves _⟩, ⟨hleaves _, hleaves _⟩, hleaves _, hleaves _,
      hleaves _⟩

/-- The issues of settings are those of their leaves, in the order of the fields. -/
theorem issues_assemble :
    (assemble readings).issues = Leaf.all.flatMap fun leaf => (readings leaf).issues := by
  simp [assemble, assembleRules, assembleRule, Reading.issues_seq, Leaf.all]

end Assembly

/-! Reading leaf by leaf -/

section Members

variable {values : Leaf → Json}

/-- The reading of the value of a leaf, its issues told from the settings. -/
def readLeaf (values : Leaf → Json) (leaf : Leaf) : Reading leaf.Value :=
  (leaf.read (values leaf)).along leaf.path

theorem member_rule_eq {rules : Members} (t : DataType)
    (henabled : (Json.object rules).at? [t.name, "enabled"] = some (values (.ruleEnabled t)))
    (hpattern : (Json.object rules).at? [t.name, "pattern"] = some (values (.rulePattern t))) :
    (Reading.member rules t.name .default FieldRule.read).under (.key "masking_rules") =
      assembleRule (readLeaf values) t := by
  rw [Json.at?_cons_object, Option.bind_eq_some_iff] at henabled hpattern
  obtain ⟨value, hvalue, henabled⟩ := henabled
  obtain ⟨rule, child, rfl, hchild, hfound⟩ := Json.at?_cons_eq_some henabled
  obtain ⟨other, hother, hpattern⟩ := hpattern
  rw [hvalue, Option.some.injEq] at hother
  subst hother
  rw [Json.at?_key] at henabled hpattern
  rw [Reading.member_of_get? hvalue, FieldRule.read_object, FieldRule.ofMembers,
    Reading.member_of_get? henabled, Reading.member_of_get? hpattern]
  simp only [Reading.under_seq, Reading.under_map]
  rfl

theorem member_rules_eq {members : Members}
    (hvalues : ∀ leaf : Leaf, (Json.object members).at? leaf.path = some (values leaf)) :
    Reading.member members "masking_rules" .default MaskingRules.read =
      assembleRules (readLeaf values) := by
  obtain ⟨_, value, hobject, hvalue, hbypass⟩ := Json.at?_cons_eq_some (hvalues .adminBypass)
  cases hobject
  obtain ⟨rules, _, rfl, -, -⟩ := Json.at?_cons_eq_some hbypass
  have hinner : ∀ leaf rest, leaf.path = "masking_rules" :: rest →
      (Json.object rules).at? rest = some (values leaf) := by
    intro leaf rest hpath
    have hleaf := hvalues leaf
    rw [hpath, Json.at?_cons_object, hvalue, Option.bind_some] at hleaf
    exact hleaf
  have hmember : ∀ leaf key, leaf.path = ["masking_rules", key] →
      Assoc.get? key rules = some (values leaf) := by
    intro leaf key hpath
    have hleaf := hinner leaf [key] hpath
    rw [Json.at?_key] at hleaf
    exact hleaf
  have hrule := fun t : DataType =>
    member_rule_eq t (hinner (.ruleEnabled t) _ rfl) (hinner (.rulePattern t) _ rfl)
  rw [Reading.member_of_get? hvalue, MaskingRules.read_object, MaskingRules.ofMembers,
    Reading.member_of_get? (hmember .adminBypass _ rfl),
    Reading.member_of_get? (hmember .allowReveal _ rfl),
    Reading.member_of_get? (hmember .exemptRoles _ rfl)]
  simp only [Reading.under_seq, Reading.under_map]
  rw [assembleRules, ← hrule .email, ← hrule .phone]
  rfl

/-- Members that have something at each leaf are read leaf by leaf. -/
theorem ofMembers_eq_assemble {members : Members}
    (hvalues : ∀ leaf : Leaf, (Json.object members).at? leaf.path = some (values leaf)) :
    ofMembers members = assemble (readLeaf values) := by
  have hswitch := hvalues .maskingEnabled
  rw [Leaf.path, Json.at?_key] at hswitch
  rw [ofMembers, assemble, member_rules_eq hvalues, Reading.member_of_get? hswitch]
  rfl

end Members

/-- The settings that hold some values at their leaves. -/
def ofLeaves (values : (leaf : Leaf) → leaf.Value) : Settings :=
  ⟨values .maskingEnabled,
    ⟨values (.ruleEnabled .email), values (.rulePattern .email)⟩,
    ⟨values (.ruleEnabled .phone), values (.rulePattern .phone)⟩,
    values .adminBypass, values .allowReveal, values .exemptRoles⟩

theorem Leaf.get_ofLeaves (values : (leaf : Leaf) → leaf.Value) (leaf : Leaf) :
    leaf.get (ofLeaves values) = values leaf := by
  cases leaf with
  | ruleEnabled t => cases t <;> rfl
  | rulePattern t => cases t <;> rfl
  | _ => rfl

/-! Updates -/

/-- What an update reads at a leaf: what the payload mentions, or else the view
of the current leaf. -/
def source (before : Settings) (payload : Json) (leaf : Leaf) : Json :=
  (leaf.mentioned? payload).getD (leaf.view before)

theorem updated_eq_assemble (before : Settings) {payload : Json}
    (hdistinct : payload.hasDistinctKeys = true) :
    before.updated payload = assemble (readLeaf (source before payload)) :=
  ofMembers_eq_assemble (Leaf.at?_merged before hdistinct)

/-- Absent and malformed settings are updated like the defaults. -/
theorem answer_applyUpdate (current : Given Settings) (payload : Json) :
    (applyUpdate current payload).answer =
      (current.settings.answer.getD default).updated payload := by
  simp only [applyUpdate, Logged.answer_bind]
  split <;> rfl

/-- Settings after an update: a leaf that the payload mentions is read from it,
and every other leaf is as before. -/
structure LeafUpdate (before : Settings) (payload : Json) (after : Settings) : Prop where
  mentioned : ∀ (leaf : Leaf) value, leaf.mentioned? payload = some value →
    leaf.read value = .accepted (leaf.get after)
  unmentioned : ∀ leaf : Leaf, leaf.mentioned? payload = none → leaf.get after = leaf.get before

theorem updated_eq_accepted_iff (before after : Settings) {payload : Json}
    (hdistinct : payload.hasDistinctKeys = true) :
    before.updated payload = .accepted after ↔ LeafUpdate before payload after := by
  rw [updated_eq_assemble before hdistinct, assemble_eq_accepted_iff]
  simp only [readLeaf, Reading.along_eq_accepted_iff]
  constructor
  · intro hleaves
    constructor
    · intro leaf value hvalue
      rw [← hleaves leaf, source, hvalue, Option.getD_some]
    · intro leaf hnone
      have hleaf := hleaves leaf
      rw [source, hnone, Option.getD_none, leaf.read_view] at hleaf
      exact (Reading.accepted.inj hleaf).symm
  · intro hupdate leaf
    cases hvalue : leaf.mentioned? payload with
    | none =>
        rw [source, hvalue, Option.getD_none, leaf.read_view, hupdate.unmentioned leaf hvalue]
    | some value =>
        rw [source, hvalue, Option.getD_some, hupdate.mentioned leaf value hvalue]

/-- The issues of a leaf that the payload mentions, told from the settings. -/
def Leaf.issues (payload : Json) (leaf : Leaf) : List Issue :=
  match leaf.mentioned? payload with
  | some value => (leaf.read value).issues.map fun issue =>
      ⟨leaf.path.map Step.key ++ issue.place, issue.fault⟩
  | none => []

theorem issues_updated (before : Settings) {payload : Json}
    (hdistinct : payload.hasDistinctKeys = true) :
    (before.updated payload).issues = Leaf.all.flatMap (Leaf.issues payload) := by
  rw [updated_eq_assemble before hdistinct, issues_assemble]
  congr 1
  funext leaf
  rw [readLeaf, Reading.issues_along, Leaf.issues, source]
  cases hvalue : leaf.mentioned? payload with
  | none =>
      rw [Option.getD_none, leaf.read_view]
      rfl
  | some value => rfl

/-- An update is accepted exactly if each value that it mentions can be read. -/
theorem exists_updated_iff (before : Settings) {payload : Json}
    (hdistinct : payload.hasDistinctKeys = true) :
    (∃ after, before.updated payload = .accepted after) ↔
      ∀ (leaf : Leaf) value, leaf.mentioned? payload = some value →
        ∃ result, leaf.read value = .accepted result := by
  constructor
  · rintro ⟨after, haccepted⟩ leaf value hvalue
    have hupdate := (updated_eq_accepted_iff before after hdistinct).mp haccepted
    exact ⟨leaf.get after, hupdate.mentioned leaf value hvalue⟩
  · intro hreadable
    have hsource : ∀ leaf : Leaf, ∃ result,
        leaf.read (source before payload leaf) = .accepted result := by
      intro leaf
      cases hvalue : leaf.mentioned? payload with
      | none =>
          rw [source, hvalue, Option.getD_none]
          exact ⟨leaf.get before, leaf.read_view before⟩
      | some value =>
          rw [source, hvalue, Option.getD_some]
          exact hreadable leaf value hvalue
    choose results hresults using hsource
    refine ⟨ofLeaves results, ?_⟩
    rw [updated_eq_assemble before hdistinct, assemble_eq_accepted_iff]
    intro leaf
    rw [readLeaf, Reading.along_eq_accepted_iff, leaf.get_ofLeaves, hresults leaf]

/-- An update, leaf by leaf. -/
theorem applyUpdate_leaf_by_leaf (current : Given Settings) {payload : Json}
    (hdistinct : payload.hasDistinctKeys = true) :
    let before := current.settings.answer.getD default
    let result := (applyUpdate current payload).answer
    ((∃ after, result = .accepted after) ↔
      ∀ (leaf : Leaf) value, leaf.mentioned? payload = some value →
        ∃ result, leaf.read value = .accepted result) ∧
    (∀ after, result = .accepted after →
      (∀ (leaf : Leaf) value, leaf.mentioned? payload = some value →
        leaf.read value = .accepted (leaf.get after)) ∧
      (∀ leaf : Leaf, leaf.mentioned? payload = none → leaf.get after = leaf.get before) ∧
      (Leaf.exemptRoles.mentioned? payload = some .null → after.rules.exemptRoles = .empty) ∧
      (∀ t value, (Leaf.rulePattern t).mentioned? payload = some value →
        (Leaf.ruleOf after t).pattern = if value = .null then none else some value.literal)) ∧
    (∀ issues, result = .rejected issues → issues = Leaf.all.flatMap (Leaf.issues payload)) := by
  intro before result
  have hresult : result = before.updated payload := answer_applyUpdate current payload
  rw [hresult]
  refine ⟨exists_updated_iff before hdistinct, ?_, ?_⟩
  · intro after haccepted
    have hupdate := (updated_eq_accepted_iff before after hdistinct).mp haccepted
    refine ⟨hupdate.mentioned, hupdate.unmentioned, ?_, ?_⟩
    · intro hnull
      exact (Reading.accepted.inj (hupdate.mentioned .exemptRoles .null hnull)).symm
    · intro t value hvalue
      rw [← FieldRule.patternOf_eq value]
      exact (Reading.accepted.inj (hupdate.mentioned (.rulePattern t) value hvalue)).symm
  · intro issues hrejected
    rw [← issues_updated before hdistinct, hrejected]
    rfl

/-- An update of absent settings with null for the exempt roles and a rule for
addresses, whose switch may be read in one case and not in the other. -/
theorem applyUpdate_of_rule :
    let payload := fun enabled : String => Json.object [("masking_rules", .object
      [("exempt_roles", .null),
        ("email", .object [("pattern", .int 7), ("enabled", .string enabled)])])]
    let result := fun enabled : String => (applyUpdate (.ready none) (payload enabled)).answer
    let after : Settings := ⟨true, ⟨false, some "7"⟩, .default, false, true, .empty⟩
    let issues : List Issue :=
      [⟨[.key "masking_rules", .key "email", .key "enabled"], .unclearBool⟩]
    (∀ enabled, (payload enabled).hasDistinctKeys = true) ∧
      result "off" = .accepted after ∧
      (∀ leaf : Leaf, leaf.mentioned? (payload "off") = none →
        leaf.get after = leaf.get default) ∧
      result "maybe" = .rejected issues ∧
      issues = Leaf.all.flatMap (Leaf.issues (payload "maybe")) := by
  intro payload result after issues
  have hdistinct : ∀ enabled, (payload enabled).hasDistinctKeys = true := by
    intro enabled
    simp [payload, Json.hasDistinctKeys, Json.haveDistinctKeysMembers, Assoc.keys, Json.int]
  have haccepted : result "off" = .accepted after := by decide +kernel
  have hrejected : result "maybe" = .rejected issues := by decide +kernel
  have hoff := applyUpdate_leaf_by_leaf (.ready none) (hdistinct "off")
  have hmaybe := applyUpdate_leaf_by_leaf (.ready none) (hdistinct "maybe")
  exact ⟨hdistinct, haccepted, (hoff.2.1 after haccepted).2.1, hrejected,
    hmaybe.2.2 issues hrejected⟩

end Settings

end ContactPrivacy
