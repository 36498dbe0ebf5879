/-
What the body of a request is read as.  Every object in a body that is read has each
of its keys once, whatever the text repeats, so an update that is sent is an update
leaf by leaf.
-/
import ContactPrivacy.Http.Request
import ContactPrivacy.Proofs.Json.Read
import ContactPrivacy.Proofs.Settings.Leaf

namespace ContactPrivacy.Http

/-- A body is accepted if it is an object whose members are. -/
theorem readBody_eq_accepted_iff {α : Type} (read : Members → Reading α) (body : String)
    (result : α) :
    readBody read body = .ok (.accepted result) ↔
      body ≠ "" ∧ ∃ members, Json.readMessage body = .ok (.object members) ∧
        read members = .accepted result := by
  unfold readBody
  split
  · next hempty => simp [hempty]
  · next hbody =>
      cases hmessage : Json.readMessage body with
      | error fault => cases fault <;> simp
      | ok value =>
          cases value with
          | object members => simp [hbody, Reading.ofObject, Reading.under_eq_accepted_iff]
          | _ => simp [Reading.ofObject, Reading.fault, Reading.under]

/-- An object that is required is a member as it is. -/
theorem get?_of_required_dictionary {members result : Members} {name : String}
    (haccepted : Reading.required members name Reading.dictionary = .accepted result) :
    Assoc.get? name members = some (.object result) := by
  unfold Reading.required at haccepted
  cases hvalue : Assoc.get? name members with
  | none => simp [hvalue] at haccepted
  | some value =>
      rw [hvalue] at haccepted
      have hread := (Reading.under_eq_accepted_iff _ _ _).mp haccepted
      cases value with
      | object inner => rw [Reading.accepted.inj hread]
      | _ => cases hread

/-- The update in a body has each key of an object once. -/
theorem update_hasDistinctKeys {body : String} {asked : UpdateSettings}
    (hread : readBody UpdateSettings.ofMembers body = .ok (.accepted asked)) :
    (Json.object asked.update).hasDistinctKeys = true := by
  obtain ⟨-, members, hmessage, haccepted⟩ := (readBody_eq_accepted_iff _ body asked).mp hread
  obtain ⟨-, hvalues⟩ := Json.hasDistinctKeys_object (Json.readMessage_hasDistinctKeys hmessage)
  simp only [UpdateSettings.ofMembers, Reading.seq_eq_accepted_iff,
    Reading.map_eq_accepted_iff] at haccepted
  obtain ⟨_, update, ⟨_, _, ⟨_, _, ⟨_, -, rfl⟩, -, rfl⟩, -, rfl⟩, hupdate, rfl⟩ := haccepted
  exact hvalues "update" (.object update) (get?_of_required_dictionary hupdate)

/-- An update that is sent replaces the leaves that it mentions by what it gives for
them, and keeps the others. -/
theorem applyUpdate_of_readBody {body : String} {asked : UpdateSettings}
    (hread : readBody UpdateSettings.ofMembers body = .ok (.accepted asked)) (after : Settings) :
    (Settings.applyUpdate asked.current (.object asked.update)).answer = .accepted after ↔
      Settings.LeafUpdate (asked.current.settings.answer.getD .default) (.object asked.update)
        after := by
  rw [Settings.answer_applyUpdate]
  exact Settings.updated_eq_accepted_iff _ after (update_hasDistinctKeys hread)

end ContactPrivacy.Http
