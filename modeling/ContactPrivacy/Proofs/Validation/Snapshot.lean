/-
Snapshots written out and read again.  Whatever a value was read as, and however
loosely it was given, what is written of it is strict enough to be read as the
same.
-/
import ContactPrivacy.Audit.Query
import ContactPrivacy.Proofs.Settings.Leaf

namespace ContactPrivacy

theorem Identifier.toJson_ne_null (id : Identifier) : id.toJson ≠ .null := by
  cases id <;> exact Json.noConfusion

theorem DataType.choice_toJson (t : DataType) :
    Reading.choice DataType.byName t.toJson = .accepted t := by
  cases t <;> rfl

theorem Audit.Kind.choice_toJson (kind : Audit.Kind) :
    Reading.choice Audit.Kind.byName kind.toJson = .accepted kind := by
  cases kind <;> rfl

namespace Reading

variable {α : Type} {read : Json → Reading α}

theorem member_of_accepted {members : Members} {name : String} {value : Json} {result : α}
    (hvalue : Assoc.get? name members = some value) (hread : read value = .accepted result)
    (default : α) : member members name default read = .accepted result := by
  rw [member_of_get? hvalue, hread, under_accepted]

theorem optional_of_ne_null {value : Json} (hnull : value ≠ .null) :
    optional read value = (read value).map some := by
  cases value with
  | null => exact absurd rfl hnull
  | _ => rfl

/-- What may be absent is read again where nothing is written as null and all
else as something that is read as it is. -/
theorem optional_written (write : Option α → Json) (hnone : write none = .null)
    (hnull : ∀ x, write (some x) ≠ .null) (hsome : ∀ x, read (write (some x)) = .accepted x)
    (x : Option α) : optional read (write x) = .accepted x := by
  cases x with
  | none => rw [hnone, optional]
  | some x =>
      rw [optional_of_ne_null (hnull x), hsome]
      rfl

theorem optional_text (given : Option String) :
    optional text (Json.ofText? given) = .accepted given :=
  optional_written Json.ofText? rfl (fun _ => Json.noConfusion) (fun _ => rfl) given

theorem optional_identifier (id : Option Identifier) :
    optional Identifier.read (Identifier.toJson? id) = .accepted id :=
  optional_written Identifier.toJson? rfl Identifier.toJson_ne_null Identifier.read_toJson id

theorem optional_dataType (dataType : Option DataType) :
    optional (choice DataType.byName) (DataType.toJson? dataType) = .accepted dataType :=
  optional_written DataType.toJson? rfl (fun _ => Json.noConfusion) DataType.choice_toJson dataType

theorem optional_kind (kind : Option Audit.Kind) :
    optional (choice Audit.Kind.byName) ((kind.map Audit.Kind.toJson).getD .null) =
      .accepted kind :=
  optional_written (fun kind => (kind.map Audit.Kind.toJson).getD .null) rfl
    (fun _ => Json.noConfusion) Audit.Kind.choice_toJson kind

end Reading

@[simp] theorem RoleType.ofJson_name (roleType : RoleType) :
    RoleType.ofJson (.string roleType.name) = roleType := by
  cases roleType <;> decide

theorem User.read_toJson (user : User) : User.read user.toJson = .accepted user := by
  have htype : Reading.accepted (RoleType.ofJson (.string user.roleType.name)) =
      .accepted user.roleType := by rw [RoleType.ofJson_name]
  rw [read, toJson, Reading.ofObject, ofMembers,
    Reading.member_of_accepted rfl (Reading.optional_identifier user.id),
    Reading.member_of_accepted rfl (Reading.optional_text user.role),
    Reading.member_of_accepted rfl htype]
  rfl

theorem Account.read_toJson (account : Account) :
    Account.read account.toJson = .accepted account := by
  rw [read, toJson, Reading.ofObject, ofMembers,
    Reading.member_of_accepted rfl (Reading.optional_identifier account.id),
    Reading.member_of_accepted rfl (Reading.optional_text account.name)]
  rfl

theorem Audit.Query.read_toJson (query : Audit.Query) :
    Audit.Query.read query.toJson = .accepted query := by
  rw [read, toJson, Reading.ofObject, ofMembers,
    Reading.member_of_accepted rfl (Reading.optional_kind query.kind),
    Reading.member_of_accepted rfl (Reading.optional_text query.actorId),
    Reading.member_of_accepted rfl (Reading.optional_dataType query.dataType)]
  rfl

namespace Settings

/-- The view of settings is read as the settings, leaf by leaf. -/
theorem read_view (settings : Settings) : read settings.view = .accepted settings := by
  have hleaves : read settings.view = assemble (readLeaf fun leaf => leaf.view settings) :=
    ofMembers_eq_assemble (Leaf.at?_members settings)
  rw [hleaves, assemble_eq_accepted_iff]
  intro leaf
  rw [readLeaf, Reading.along_eq_accepted_iff, leaf.read_view]

/-- Settings are told by their view. -/
theorem view_injective : Function.Injective view := by
  intro first second hsame
  have hread := congrArg read hsame
  rw [read_view, read_view] at hread
  exact Reading.accepted.inj hread

end Settings

/-- Every snapshot, whatever value it was read from, is written as a value that
is read without an issue and as an equal snapshot.  The view of settings tells
them from all others. -/
theorem snapshots_read_back :
    (∀ settings : Settings, Settings.read settings.view = .accepted settings) ∧
      (∀ user : User, User.read user.toJson = .accepted user) ∧
      (∀ account : Account, Account.read account.toJson = .accepted account) ∧
      (∀ query : Audit.Query, Audit.Query.read query.toJson = .accepted query) ∧
      ∀ first second : Settings, first.view = second.view ↔ first = second :=
  ⟨Settings.read_view, User.read_toJson, Account.read_toJson, Audit.Query.read_toJson,
    fun _ _ => Settings.view_injective.eq_iff⟩

/-- Words and numbers for truth values, a number for a pattern, null for a rule
and repeated roles are gone from what is written. -/
example :
    let value := Json.object [("masking_enabled", .string "Off"), ("masking_rules", .object
      [("email", .object [("enabled", .int 0), ("pattern", .int 7)]), ("phone", .null),
        ("exempt_roles", .list [.string "lead", .string "agent", .string "lead"])])]
    let settings : Settings :=
      ⟨false, ⟨false, some "7"⟩, .default, false, true, .ofList ["agent", "lead"]⟩
    Settings.read value = .accepted settings ∧
      Settings.read settings.view = .accepted settings := by
  decide +kernel

end ContactPrivacy
