import AmountProofs.Bundle

/-!
Settings: the policy for bundles, and where log records go.

Settings may be filled with any values, so their fields are JSON values. `Settings.problems` lists
what is wrong with them, in the order of its checks; settings without problems may be used.
-/

namespace AmountProofs

structure LogSettings where
  /-- The name of the least level that is kept, in any case. -/
  level : Json := .string "WARNING"
  /-- The file that records go to; the error stream if it is blank. -/
  file : Json := .null
  /-- The layout of a record. -/
  format : Json := .string "%(asctime)s %(levelname)s %(name)s: %(message)s"
  /-- The size, in units of 2 ^ 20 bytes, at which a file is put aside. -/
  maxSize : Json := .int 10
  /-- How many files that were put aside are kept. -/
  backupCount : Json := .int 3

namespace LogSettings

def members (s : LogSettings) : List (String × Json) :=
  [("level", s.level), ("file", s.file), ("format", s.format), ("max_size_mb", s.maxSize),
   ("backup_count", s.backupCount)]

/-- Sets the field with a name, if there is one. -/
def set? (name : Text) (value : Json) (s : LogSettings) : Option LogSettings :=
  if name = Text.ofString "level" then some { s with level := value }
  else if name = Text.ofString "file" then some { s with file := value }
  else if name = Text.ofString "format" then some { s with format := value }
  else if name = Text.ofString "max_size_mb" then some { s with maxSize := value }
  else if name = Text.ofString "backup_count" then some { s with backupCount := value }
  else none

/-- Sets fields one after the other; a name that no field has is refused. -/
def setAll : LogSettings → List (Text × Json) → Except Failure LogSettings
  | s, [] => .ok s
  | s, (name, value) :: rest =>
    match s.set? name value with
    | some s => s.setAll rest
    | none => .error .wrongType

/-- Settings of the log from an object that has some of the fields. -/
def ofJson : Json → Except Failure LogSettings
  | .object members => setAll {} members
  | _ => .error .wrongType

def toJson (s : LogSettings) : Json := .record s.members

def same (s t : LogSettings) : Bool :=
  s.level.same t.level && s.file.same t.file && s.format.same t.format
    && s.maxSize.same t.maxSize && s.backupCount.same t.backupCount

end LogSettings

/-- Settings, with fields of any type. -/
structure Settings where
  /-- Whether a neutral public key is rejected before anything else. -/
  rejectNeutralKeys : Json := .bool false
  /-- The label of the transcripts of bundles; an empty one leaves the label of the proof's kind. -/
  label : Json := .string ""
  /-- Where log records go. -/
  log : LogSettings := {}

namespace Settings

def rejectName : String := "reject_identity_pubkeys"

def labelName : String := "transcript_label"

def logName : String := "log"

def setAll : Settings → List (Text × Json) → Except Failure Settings
  | s, [] => .ok s
  | s, (name, value) :: rest =>
    if name = Text.ofString rejectName then setAll { s with rejectNeutralKeys := value } rest
    else if name = Text.ofString labelName then setAll { s with label := value } rest
    else if name = Text.ofString logName then do
      let log ← LogSettings.ofJson value
      setAll { s with log := log } rest
    else .error .wrongType

/-- Settings from an object that has some of the fields, with values of any type. -/
def ofFields : Json → Except Failure Settings
  | .object members => setAll {} members
  | _ => .error .wrongType

def levelNames : List Text := ["DEBUG", "INFO", "WARNING", "ERROR", "CRITICAL"].map Text.ofString

def maxLabelSize : Nat := 255

/-- What is wrong with the level. It is told with the level itself, which may fail. -/
def levelProblems (level : Json) : Except Failure (List Text) :=
  let known := match level with
    | .text name => levelNames.contains name.upper
    | _ => false
  if known then .ok []
  else if level.isShown then .ok [Text.ofString "Invalid log level: " ++ level.display]
  else .error (.badValue .tooManyDigits)

/-- What is wrong with an integer that has a least value. -/
def leastProblems (least : Int) (problem : String) (value : Json) : List Text :=
  match value.asInt? with
  | some n => if least ≤ n then [] else [Text.ofString problem]
  | none => [Text.ofString problem]

/-- What is wrong with the label. A text without a UTF-8 form has no size. -/
def labelProblems : Json → Except Failure (List Text)
  | .text t =>
    match t.utf8? with
    | some b =>
      .ok (if maxLabelSize < b.length then [Text.ofString (labelName ++ " too long")] else [])
    | none => .error .unpairedSurrogate
  | _ => .ok [Text.ofString (labelName ++ " must be a string")]

def problems (s : Settings) : Except Failure (List Text) := do
  let ofLevel ← levelProblems s.log.level
  let ofLabel ← labelProblems s.label
  return ofLevel
    ++ leastProblems 1 "max_size_mb must be at least 1" s.log.maxSize
    ++ leastProblems 0 "backup_count cannot be negative" s.log.backupCount
    ++ ofLabel

/-- The policy that settings without problems state. -/
def policy (s : Settings) : Policy where
  rejectNeutralKeys := match s.rejectNeutralKeys with
    | .bool b => b
    | _ => false
  label := match s.label with
    | .text t => t
    | _ => []

/-- The settings as an object of all fields. Values of the log's fields are copied; if they are nested
too deeply for the `room` that the caller leaves, this fails. -/
def toJson (s : Settings) (room : Nat := Json.callLimit) : Except Failure Json :=
  if s.log.members.all fun (_, v) => v.copyDepth ≤ room then
    .ok (.record [(rejectName, s.rejectNeutralKeys), (labelName, s.label), (logName, s.log.toJson)])
  else .error .nestedTooDeeply

def same (s t : Settings) : Bool :=
  s.rejectNeutralKeys.same t.rejectNeutralKeys && s.label.same t.label && s.log.same t.log

end Settings

end AmountProofs
