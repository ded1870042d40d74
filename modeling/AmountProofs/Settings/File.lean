import AmountProofs.Directory
import AmountProofs.Json.Reader
import AmountProofs.Json.Writer
import AmountProofs.Log.Record
import AmountProofs.Settings

/-!
Settings in files.

A settings file is a JSON object. Its members of unknown names are passed over, those inside the log's
object are refused; a value that no setting takes is reported with the path of the file.
-/

namespace AmountProofs.Settings

/-- The logger that reads and writes of settings are reported to. -/
def logger : String := "zksigma.config"

/-- What a message says of a failure that is reported as an error of settings, if it is one. -/
def causeName? : Failure → Option String
  | .fileNotFound => some "FileNotFoundError"
  | .isDirectory => some "IsADirectoryError"
  | .notDirectory => some "NotADirectoryError"
  | .nameTooLong => some "OSError"
  | .wrongType => some "TypeError"
  | _ => none

/-- Reports a failure as an error of settings, after some words and with its name in brackets. -/
def blame (words : String) (failure : Failure) : Failure :=
  match causeName? failure with
  | some name => .settings (words ++ ": <" ++ name ++ ">") .null
  | none => failure

/-- What it is reported as that a text in a file is no JSON value. -/
def parseFailure (path : String) : Json.ReadFailure → Failure
  | .malformed => .settings ("cannot read " ++ path ++ ": <JSONDecodeError>") .null
  | .tooDeep => .nestedTooDeeply
  | .tooManyDigits got => .badValue (.tooManyDigitsRead got)

/-- The JSON value in a file; `nesting` is the deepest nesting of lists and objects that is read. -/
def readJson (d : Directory) (path : String) (nesting : Nat := Json.callLimit) :
    Except Failure Json := do
  let content ← (d.read path).mapError (blame ("cannot read " ++ path))
  match Text.ofUtf8? content with
  | none => throw .malformedUtf8
  | some t => (Json.parse t nesting).mapError (parseFailure path)

/-- The member of a settings object that must be a Boolean. -/
def rejectOf (path : String) (members : List (Text × Json)) : Except Failure Json :=
  match (Json.member? (Text.ofString rejectName) members).getD (.bool false) with
  | .bool b => .ok (.bool b)
  | _ => .error (.settings (path ++ ": " ++ rejectName ++ " must be a boolean") .null)

/-- The member of a settings object that must be a text. -/
def labelOf (path : String) (members : List (Text × Json)) : Except Failure Json :=
  match (Json.member? (Text.ofString labelName) members).getD (.string "") with
  | .text t => .ok (.text t)
  | _ => .error (.settings (path ++ ": " ++ labelName ++ " must be a string") .null)

/-- The member of a settings object that holds the settings of the log. -/
def logOf (path : String) (members : List (Text × Json)) : Except Failure LogSettings :=
  match Json.member? (Text.ofString logName) members with
  | none => .ok {}
  | some v => (LogSettings.ofJson v).mapError (blame path)

/-- The settings in a JSON value that was read from a path; they have no problems. -/
def ofJson (path : String) (v : Json) : Except Failure Settings := do
  match v with
  | .object members =>
    let reject ← rejectOf path members
    let label ← labelOf path members
    let log ← logOf path members
    let s : Settings := { rejectNeutralKeys := reject, label := label, log := log }
    let problems ← s.problems
    if problems.isEmpty then return s
    else throw (.settings (path ++ ": invalid configuration") (.list (problems.map .text)))
  | _ => throw (.settings (path ++ ": top level must be an object") .null)

/-- Reads settings from a file, and the records that this logs. -/
def load (d : Directory) (path : String) (nesting : Nat := Json.callLimit) :
    Except Failure Settings × List Log.Record :=
  match readJson d path nesting >>= ofJson path with
  | .ok s => (.ok s, [⟨Log.info, logger, Text.ofString ("Configuration loaded from " ++ path)⟩])
  | .error e => (.error e, [])

/-- Writes settings to a file. The file is emptied before anything else, and what is written in front
of an integer with too many digits stays in it. -/
def write (s : Settings) (path : String) (room : Nat := Json.callLimit) : Attempt Directory Unit := do
  Directory.write path []
  let v ← .ofExcept (s.toJson room)
  match Json.Writer.stopped? 0 v with
  | none => Directory.write path (Bytes.ofAscii v.pretty)
  | some begun =>
    Directory.write path (Bytes.ofAscii (String.ofList begun))
    throw (.badValue .tooManyDigits)

/-- Writes settings to a file, and the records that this logs. -/
def save (s : Settings) (path : String) (d : Directory) (room : Nat := Json.callLimit) :
    Except Failure Unit × Directory × List Log.Record :=
  match (s.write path room).on d with
  | (.ok _, after) => (.ok (), after, [⟨Log.info, logger, Text.ofString ("Configuration saved to " ++ path)⟩])
  | (.error e, after) => (.error e, after, [])

end AmountProofs.Settings
