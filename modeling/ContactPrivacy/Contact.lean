/-
Contact payloads: which keys hold contact data, which values a policy looks at
in a payload, and the payload with those values masked.
-/
import ContactPrivacy.Policy

namespace ContactPrivacy.Contact

/-- The keys that hold contact data, by the kind they hold. -/
def keys : List (String × DataType) :=
  [("email", .email), ("phone", .phone), ("phone_number", .phone),
    ("phone_number_formatted", .phone)]

/-- The kind of data a key holds. -/
def dataType? (key : String) : Option DataType :=
  (keys.find? fun entry => entry.1 == key).map Prod.snd

/-- The kind of data and the text of a member that holds a contact value. -/
def value? (key : String) (value : Json) : Option (DataType × String) :=
  match dataType? key, value with
  | some t, .string s => some (t, s)
  | _, _ => none

mutual

/-- The contact values of a payload, at any depth, in document order. -/
def values : Json → List (DataType × String)
  | .object members => valuesOfMembers members
  | .list items => valuesOfItems items
  | _ => []

def valuesOfItems : List Json → List (DataType × String)
  | [] => []
  | item :: rest => values item ++ valuesOfItems rest

def valuesOfMembers : List (String × Json) → List (DataType × String)
  | [] => []
  | (key, value) :: rest =>
      (match value? key value with
        | some found => [found]
        | none => values value) ++ valuesOfMembers rest

end

mutual

/-- A payload with every contact value replaced. -/
def replace (f : DataType → String → String) : Json → Json
  | .object members => .object (replaceMembers f members)
  | .list items => .list (replaceItems f items)
  | value => value

def replaceItems (f : DataType → String → String) : List Json → List Json
  | [] => []
  | item :: rest => replace f item :: replaceItems f rest

def replaceMembers (f : DataType → String → String) :
    List (String × Json) → List (String × Json)
  | [] => []
  | (key, value) :: rest =>
      (key, match value? key value with
        | some (t, s) => .string (f t s)
        | none => replace f value) :: replaceMembers f rest

end

end ContactPrivacy.Contact

namespace ContactPrivacy.Policy

/-- A value as the policy shows it. -/
def shown (policy : Policy) (field : Field) (value : String) : String :=
  match policy.decide field with
  | .unmasked => value
  | .masked pattern => field.mask pattern value

/-- A value as the policy shows it, the decision logged. -/
def mask (policy : Policy) (field : Field) (value : Option String) : Logged (Option String) :=
  (fun _ => value.map (policy.shown field)) <$> policy.look field

/-- A list of addresses as the policy shows it, the decision logged. -/
def maskEmailList (policy : Policy) (value : Option String) : Logged (Option String) := do
  match ← policy.look Field.email with
  | .unmasked => return value
  | .masked pattern => return value.map (Mask.emailList pattern)

/-- A payload masked, and how many values that changed. -/
def maskContact (policy : Policy) (payload : Json) : Logged (Json × Nat) :=
  let mask := fun t s => policy.shown (.known t) s
  let changed := (Contact.values payload).countP fun (t, s) => mask t s != s
  ⟨(Contact.replace mask payload, changed),
    (Contact.values payload).map fun (t, _) =>
      .decisionResolved t.toJson (policy.decide (.known t))⟩

end ContactPrivacy.Policy
