/-
Updating settings with an audit trail: a record of what changed, and one of
the switch if masking was turned on or off.
-/
import ContactPrivacy.Audit.Recorder
import ContactPrivacy.Settings.Update

namespace ContactPrivacy.Settings

open Audit (Record Recorder)

/-- New settings and the records about them that a sink took. -/
structure Updated where
  settings : Settings
  records : List Record

/-- Whether an update turns masking on or off; new settings do neither. -/
def switches (before : Option Settings) (after : Settings) : Bool :=
  before.any fun settings => settings.maskingEnabled != after.maskingEnabled

/-- Update settings and record it.  A rejected update records nothing. -/
def update (recorder : Recorder) (user : Given User) (account : Option AccountCard)
    (current : Given Settings) (payload : Json) :
    Logged (Reading Updated × Recorder) := do
  let before ← current.settings
  match ← applyUpdate (.ready before) payload with
  | .rejected issues => return (.rejected issues, recorder)
  | .accepted after =>
      let (changed, recorder) ←
        recorder.recordSettingsChange user account (.ready before) (.ready (some after))
      let (switched, recorder) ←
        if switches before after then recorder.recordSwitch user account after.maskingEnabled
        else pure (none, recorder)
      let records := changed.toList ++ switched.toList
      Logged.report (.settingsUpdated (!records.isEmpty) after.maskingEnabled)
      return (.accepted ⟨after, records⟩, recorder)

end ContactPrivacy.Settings
