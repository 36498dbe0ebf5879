/-
Masking of email addresses.  An address is cut at its first `@`; the local
part keeps its outer characters and the domain its last label, as far as the
pattern lets them show.
-/
import ContactPrivacy.Mask.Pattern
import ContactPrivacy.Text.Class

namespace ContactPrivacy.Mask

/-- What is shown of a value under the complete pattern. -/
def hidden : List Char := "*** HIDDEN ***".toList

/-- What stands for characters that are not shown. -/
def stars : List Char := ['*', '*', '*']

/-- The text before and after the first occurrence of a character. -/
def splitFirst? (separator : Char) : List Char → Option (List Char × List Char)
  | [] => none
  | c :: rest =>
      if c = separator then some ([], rest)
      else (splitFirst? separator rest).map fun parts => (c :: parts.1, parts.2)

/-- The last character of a text, as a text. -/
def lastOf (s : List Char) : List Char := s.drop (s.length - 1)

/-- A label of at most three characters is starred out; a longer one keeps its first. -/
def label (s : List Char) : List Char :=
  if s.length ≤ 3 then stars else s.take 1 ++ stars

/-- Every label but the last is masked. -/
def labels : List (List Char) → List (List Char)
  | [] => []
  | [last] => [last]
  | head :: next :: rest => label head :: labels (next :: rest)

/-- A domain with all labels but the last masked; without a dot it stays. -/
def domainText (s : List Char) : List Char :=
  ['.'].intercalate (labels (s.splitOn '.'))

/-- The local part under the standard pattern. -/
def localText (s : List Char) : List Char :=
  if s.length ≤ 2 then stars else s.take 1 ++ stars ++ lastOf s

/-- A masked address.  A text without `@` stays, except under the complete pattern. -/
def emailText (pattern : Pattern) (s : List Char) : List Char :=
  if s = [] then []
  else
    match pattern, splitFirst? '@' s with
    | .complete, _ => hidden
    | _, none => s
    | .minimal, some (front, domain) => front.take 1 ++ stars ++ '@' :: domain
    | .standard, some (front, domain) => localText front ++ '@' :: domainText domain

/-- A comma-separated list of addresses with every entry masked. -/
def emailListText (pattern : Pattern) (s : List Char) : List Char :=
  if s = [] then []
  else
    [',', ' '].intercalate
      ((s.splitOn ',').map fun entry => emailText pattern (Text.stripEnds Text.isBlank entry))

def email (pattern : Pattern) (value : String) : String :=
  String.ofList (emailText pattern value.toList)

def emailList (pattern : Pattern) (value : String) : String :=
  String.ofList (emailListText pattern value.toList)

def domain (value : String) : String := String.ofList (domainText value.toList)

theorem splitFirst?_eq_none_iff (separator : Char) (s : List Char) :
    splitFirst? separator s = none ↔ separator ∉ s := by
  induction s with
  | nil => simp [splitFirst?]
  | cons c rest ih =>
      by_cases hc : c = separator
      · simp [splitFirst?, hc]
      · simp [splitFirst?, hc, ih, Ne.symm hc]

/-- Splitting loses only the separator, which the first part does not hold. -/
theorem splitFirst?_eq_some_iff (separator : Char) (s front back : List Char) :
    splitFirst? separator s = some (front, back) ↔
      s = front ++ separator :: back ∧ separator ∉ front := by
  induction s generalizing front with
  | nil => simp [splitFirst?]
  | cons c rest ih =>
      by_cases hc : c = separator
      · subst hc
        cases front with
        | nil => simp [splitFirst?]
        | cons d tail => simp +contextual [splitFirst?]
      · cases front with
        | nil => simp [splitFirst?, hc]
        | cons d tail =>
            simp only [splitFirst?, hc, if_false, Option.map_eq_some_iff, Prod.exists,
              Prod.mk.injEq, List.cons.injEq, List.cons_append, List.mem_cons, not_or]
            constructor
            · rintro ⟨a, b, hab, ⟨rfl, rfl⟩, rfl⟩
              have := (ih a).mp hab
              exact ⟨⟨rfl, this.1⟩, Ne.symm hc, this.2⟩
            · rintro ⟨⟨rfl, hrest⟩, _, htail⟩
              exact ⟨tail, back, (ih tail).mpr ⟨hrest, htail⟩, ⟨rfl, rfl⟩, rfl⟩

@[simp] theorem email_empty (pattern : Pattern) : email pattern "" = "" := by
  simp [email, emailText]

end ContactPrivacy.Mask
