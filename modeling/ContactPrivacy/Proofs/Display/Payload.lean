/-
What masking a payload does for a user who is not protected.  Each contact
value becomes what a display of it shows, and nothing else changes.  Under the
complete pattern nothing is left of the contact values.
-/
import ContactPrivacy.Proofs.Contact.Replaced
import ContactPrivacy.Proofs.Display.Calls
import ContactPrivacy.Proofs.Protection.Alike

namespace ContactPrivacy

namespace Contact

open Json (Part)

/-- Scalars that are the same, or texts that are not empty under one key of
contact data. -/
inductive AlikeScalar : Part → Part → Prop
  | same (scalar : Part) : AlikeScalar scalar scalar
  | held {key : String} {t : DataType} {s u : String} (rest : List Step) :
      dataType? key = some t → s ≠ "" → u ≠ "" →
      AlikeScalar ⟨.key key :: rest, .string s⟩ ⟨.key key :: rest, .string u⟩

/-- Payloads equal but for the texts, not empty, that keys of contact data hold. -/
structure Alike (first second : Json) : Prop where
  outline_eq : first.outline = second.outline
  scalars_alike : List.Forall₂ AlikeScalar first.scalars second.scalars

/-- A replacement that tells of a text only whether it is empty. -/
def Conceals (f : DataType → String → String) : Prop :=
  ∀ t s u, f t s = f t u ↔ (s = "" ↔ u = "")

/-- Contact values at one place are alike if they are empty together. -/
theorem alikeScalar_of_held {first second : Part} {t : DataType} {s u : String}
    (hplace : first.place = second.place) (hfirst : held? first = some (t, s))
    (hsecond : held? second = some (t, u)) (hempty : s = "" ↔ u = "") :
    AlikeScalar first second := by
  obtain ⟨key, rest, hkey, htype, hs⟩ := (held?_eq_some_iff first t s).mp hfirst
  obtain ⟨-, -, -, -, hu⟩ := (held?_eq_some_iff second t u).mp hsecond
  obtain ⟨place, value⟩ := first
  obtain ⟨other, text⟩ := second
  simp only at hplace hkey hs hu
  subst hkey hplace hs hu
  by_cases hblank : s = ""
  · rw [hblank, hempty.mp hblank]
    exact .same _
  · exact .held rest htype hblank (mt hempty.mpr hblank)

/-- Concealed scalars are the same exactly if they were alike. -/
theorem Conceals.replaceScalar_eq_iff {f : DataType → String → String} (hconceals : Conceals f)
    (first second : Part) :
    replaceScalar f first = replaceScalar f second ↔ AlikeScalar first second := by
  constructor
  · intro hsame
    have hplace : first.place = second.place := by
      rw [← place_replaceScalar f first, hsame, place_replaceScalar]
    have hheld := congrArg held? hsame
    rw [held?_replaceScalar, held?_replaceScalar] at hheld
    cases hfirst : held? first with
    | none =>
        rw [hfirst, Option.map_none, eq_comm, Option.map_eq_none_iff] at hheld
        rw [replaceScalar_of_not_held hfirst, replaceScalar_of_not_held hheld] at hsame
        rw [hsame]
        exact .same second
    | some found =>
        obtain ⟨t, s⟩ := found
        rw [hfirst, Option.map_some, eq_comm, Option.map_eq_some_iff] at hheld
        obtain ⟨⟨kind, u⟩, hsecond, hshown⟩ := hheld
        obtain ⟨rfl, hequal⟩ := Prod.mk.inj hshown
        exact alikeScalar_of_held hplace hfirst hsecond ((hconceals kind s u).mp hequal.symm)
  · intro halike
    cases halike with
    | same => rfl
    | @held key t s u rest htype hs hu =>
        have hfirst : held? ⟨.key key :: rest, .string s⟩ = some (t, s) :=
          (held?_eq_some_iff _ t s).mpr ⟨key, rest, rfl, htype, rfl⟩
        have hsecond : held? ⟨.key key :: rest, .string u⟩ = some (t, u) :=
          (held?_eq_some_iff _ t u).mpr ⟨key, rest, rfl, htype, rfl⟩
        have hsame : f t s = f t u := (hconceals t s u).mpr (iff_of_false hs hu)
        rw [replaceScalar_of_held hfirst, replaceScalar_of_held hsecond, hsame]

/-- Concealing payloads gives one payload exactly if they are alike. -/
theorem Conceals.replace_eq_iff {f : DataType → String → String} (hconceals : Conceals f)
    (first second : Json) : replace f first = replace f second ↔ Alike first second := by
  have hscalars : (replace f first).scalars = (replace f second).scalars ↔
      List.Forall₂ AlikeScalar first.scalars second.scalars := by
    rw [scalars_replace, scalars_replace, ← List.forall₂_eq_eq_eq, List.forall₂_map_left_iff,
      List.forall₂_map_right_iff]
    simp only [hconceals.replaceScalar_eq_iff]
  constructor
  · intro hsame
    refine ⟨?_, hscalars.mp (congrArg Json.scalars hsame)⟩
    rw [← outline_replace f first, hsame, outline_replace]
  · intro halike
    apply Json.eq_of_scalars
    · rw [outline_replace, outline_replace, halike.outline_eq]
    · exact hscalars.mpr halike.scalars_alike

end Contact

/-- The complete pattern tells of a text only whether it is empty. -/
theorem Policy.conceals_of_complete {policy : Policy}
    (hcomplete : ∀ t, policy.decide (.known t) = .masked .complete) :
    Contact.Conceals fun t s => policy.shown (.known t) s := by
  have hshown : ∀ t s, policy.shown (.known t) s =
      if s = "" then "" else String.ofList Mask.hidden := by
    intro t s
    split
    · next hs => rw [hs, shown_empty]
    · next hs => rw [shown_of_masked (hcomplete t), Field.mask_complete _ hs]
  have hhidden : String.ofList Mask.hidden ≠ "" := by decide
  intro t s u
  simp only [hshown]
  split <;> split <;> simp_all

namespace Display

open Contact (held? replaceScalar)
open Json (Part)
open Reveal (Seconds Timeline)

namespace Session

variable {T : Type}

theorem answer_maskContact {session : Session T} (hopen : session.isProtected = false)
    (payload : Json) :
    (session.maskContact payload).answer =
      ((session.policy.maskContact payload).answer, session) := by
  simp [maskContact, hopen]

variable [Timeline T]

/-- A display without a key shows a value as the policy does, and changes nothing. -/
theorem display_without_key {session : Session T} (hopen : session.isProtected = false)
    (value : Option String) (field : Field) :
    (session.display value field none).answer =
      (value.map (session.policy.shown field), session) := by
  rcases session.policy.passes_or_masks field value with hpasses | ⟨pattern, raw, hmasks⟩
  · rw [display_passes hopen hpasses, Policy.shown_of_passes hpasses]
  · have hkeyless : session.consulted? raw field none = none := rfl
    rw [display_of_not_consulted hopen hmasks hkeyless]
    obtain ⟨rfl, -, hdecide⟩ := hmasks
    rw [Option.map_some, Policy.shown_of_masked hdecide]

/-- What masking makes of a scalar: a contact value becomes what a display of it
without a key shows, and any other value stays. -/
structure ShowsScalar (session : Session T) (before after : Part) : Prop where
  place_eq : after.place = before.place
  contact : ∀ key rest t s, before.place = .key key :: rest → Contact.dataType? key = some t →
    before.value = .string s → ∃ shown, after.value = .string shown ∧
      (session.display (some s) (.known t) none).answer.1 = some shown
  other : held? before = none → after.value = before.value

theorem showsScalar_replaceScalar {session : Session T} (hopen : session.isProtected = false)
    (scalar : Part) :
    session.ShowsScalar scalar
      (replaceScalar (fun t s => session.policy.shown (.known t) s) scalar) := by
  refine ⟨Contact.place_replaceScalar _ scalar, ?_, ?_⟩
  · intro key rest t s hplace htype hvalue
    have hheld := (Contact.held?_eq_some_iff scalar t s).mpr ⟨key, rest, hplace, htype, hvalue⟩
    refine ⟨session.policy.shown (.known t) s, ?_, ?_⟩
    · rw [Contact.replaceScalar_of_held hheld]
    · rw [display_without_key hopen]
      rfl
  · intro hheld
    rw [Contact.replaceScalar_of_not_held hheld]

/-- Masking a payload agrees with displaying its contact values one by one and
changes nothing else; the count is that of the scalars that differ. -/
theorem maskContact_shows {session : Session T} (hopen : session.isProtected = false)
    (payload : Json) :
    let masked := (session.maskContact payload).answer.1.1
    let count := (session.maskContact payload).answer.1.2
    (session.maskContact payload).answer.2 = session ∧
      masked.outline = payload.outline ∧
      List.Forall₂ session.ShowsScalar payload.scalars masked.scalars ∧
      count = payload.differences masked ∧
      (count = 0 ↔ masked = payload) := by
  intro masked count
  have hanswer := answer_maskContact hopen payload
  have hmasked : masked =
      Contact.replace (fun t s => session.policy.shown (.known t) s) payload := by
    simp only [masked, hanswer]
    rfl
  have houtline : masked.outline = payload.outline := by
    rw [hmasked, Contact.outline_replace]
  have hcount : count = payload.differences masked := by
    rw [hmasked, Contact.differences_replace]
    simp only [count, hanswer]
    rfl
  refine ⟨?_, houtline, ?_, hcount, ?_⟩
  · rw [hanswer]
  · rw [hmasked, Contact.scalars_replace, List.forall₂_map_right_iff]
    exact List.forall₂_same.mpr fun scalar _ => showsScalar_replaceScalar hopen scalar
  · rw [hcount]
    rw [Json.differences_eq_zero_iff houtline.symm, eq_comm]

/-- A payload with an address, a number under a key of contact data and a name. -/
theorem maskContact_shows_address :
    let session := ofSettings .default none
    let payload := fun address : String => Json.object [("name", .string "John Doe"),
      ("contacts", .list [.object [("email", .string address), ("phone", .int 15551234567)]])]
    session.isProtected = false ∧
      (session.maskContact (payload "john.doe@example.com")).answer.1 =
        (payload "j***e@e***.com", 1) ∧
      List.Forall₂ session.ShowsScalar (payload "john.doe@example.com").scalars
        (payload "j***e@e***.com").scalars := by
  intro session payload
  have hanswer : (session.maskContact (payload "john.doe@example.com")).answer.1 =
      (payload "j***e@e***.com", 1) := by
    decide
  obtain ⟨-, -, hscalars, -⟩ :=
    maskContact_shows (rfl : session.isProtected = false) (payload "john.doe@example.com")
  rw [hanswer] at hscalars
  exact ⟨rfl, hanswer, hscalars⟩

omit [Timeline T] in
/-- Under the complete pattern two payloads are masked alike exactly if they
differ only in the texts, not empty, that keys of contact data hold. -/
theorem maskContact_complete_eq_iff {session : Session T} (hopen : session.isProtected = false)
    (hcomplete : ∀ t, session.policy.decide (.known t) = .masked .complete)
    (first second : Json) :
    (session.maskContact first).answer.1.1 = (session.maskContact second).answer.1.1 ↔
      Contact.Alike first second := by
  rw [answer_maskContact hopen, answer_maskContact hopen]
  exact (Policy.conceals_of_complete hcomplete).replace_eq_iff first second

/-- Contact data of both kinds masked by the complete pattern. -/
def completeSettings : Settings :=
  ⟨true, ⟨true, some "complete"⟩, ⟨true, some "complete"⟩, false, true, .empty⟩

/-- Two addresses leave one payload. -/
theorem maskContact_complete_of_two_addresses :
    let session := ofSettings completeSettings (some ⟨none, none, .agent, false⟩)
    let payload := fun address : String => Json.object [("email", .string address)]
    session.isProtected = false ∧
      (∀ t, session.policy.decide (.known t) = .masked .complete) ∧
      Contact.Alike (payload "ada@example.com") (payload "bob@example.org") ∧
      (session.maskContact (payload "ada@example.com")).answer.1.1 =
        (session.maskContact (payload "bob@example.org")).answer.1.1 := by
  intro session payload
  have hcomplete : ∀ t, session.policy.decide (.known t) = .masked .complete := by
    intro t
    cases t <;> rfl
  have halike : Contact.Alike (payload "ada@example.com") (payload "bob@example.org") :=
    ⟨rfl, .cons (.held [] rfl (by decide) (by decide)) .nil⟩
  exact ⟨rfl, hcomplete, halike, (maskContact_complete_eq_iff rfl hcomplete _ _).mpr halike⟩

/-- A telephone number that is a JSON number is no text, so that masking leaves
it, though the protection of a user would replace it. -/
theorem maskContact_complete_of_number :
    let session := ofSettings completeSettings (some ⟨none, none, .agent, false⟩)
    let text := Json.object [("phone", .string "+1 555 123 4567")]
    let number := Json.object [("phone", .int 15551234567)]
    session.isProtected = false ∧
      session.policy.decide Field.email = .masked .complete ∧
      session.policy.decide Field.phone = .masked .complete ∧
      Protection.Alike text number ∧
      (session.maskContact text).answer.1.1 = .object [("phone", .string "*** HIDDEN ***")] ∧
      (session.maskContact number).answer.1.1 = number ∧
      (session.maskContact text).answer.1.1 ≠ (session.maskContact number).answer.1.1 := by
  intro session text number
  have halike : Protection.Alike text number :=
    .object (.held rfl (by decide) (by decide) .nil)
  exact ⟨rfl, rfl, rfl, halike, by decide, by decide, by decide⟩

end Session

end Display

end ContactPrivacy
