import AmountProofs.Directory
import AmountProofs.Log.Layout
import AmountProofs.Settings

/-!
Where log records go.

The records of the library and of all its parts come to one output with a least level and at most one
handler, which writes to the error stream or to the end of a file. New settings take effect step by
step: the level first, then the old handler goes, then the file is opened, and the layout is checked
last. A step that fails leaves what was done before it.
-/

namespace AmountProofs.Log

structure Handler where
  /-- The file it writes to; without one it writes to the error stream. -/
  file : Option Directory.OpenFile
  /-- The size at which the file is put aside. -/
  maxBytes : Json
  /-- How many files that were put aside are kept. -/
  backupCount : Json
  layout : Text

/-- The output of the library's log, in the directory that its files are in. -/
structure Output where
  level : Int
  handler : Option Handler
  files : Directory

namespace Output

def initial : Output := ⟨0, none, []⟩

def rootName : String := "zksigma"

/-- The levels that settings may name, with the spare names of two of them. -/
def namedLevels : List (String × Int) :=
  [("DEBUG", debug), ("INFO", info), ("WARNING", warning), ("WARN", warning), ("ERROR", error),
   ("CRITICAL", critical), ("FATAL", critical), ("NOTSET", 0)]

/-- The name of the plain layout, and what it stands for. -/
def plainLayout : String × String := ("BASIC_FORMAT", "%(levelname)s:%(name)s:%(message)s")

/-- The name of the table of ways to write layouts. -/
def layoutTable : String := "_STYLES"

/-- The level that a text names, in any case; other texts name the level of warnings. Two texts name
something of the log that is no level, and are refused. -/
def levelOf (name : Text) : Except Failure Int :=
  let named (known : String) : Bool := Text.ofString known == name.upper
  if named plainLayout.1 then
    .error (.badValue (.logLevel (Json.Display.quoted (Text.ofString plainLayout.2))))
  else if named layoutTable then .error .wrongType
  else .ok (((namedLevels.find? fun (known, _) => named known).map (·.2)).getD warning)

/-- A size in bytes from one in units of `2 ^ 20` bytes. -/
def bytesOf : Json → Except Failure Json
  | .int n => .ok (.int (n * Int.pow 2 20))
  | .bool b => .ok (.int (if b then Int.pow 2 20 else 0))
  | .float x => .ok (.float (x.times (Nat.pow 2 20)))
  | _ => .error .wrongType

/-- The layout that a format states: the message alone if it is blank. -/
def layoutOf (format : Json) : Except Failure Text :=
  if format.isBlank then .ok Layout.ofMessage
  else
    match format with
    | .text t => if Layout.hasReference t then .ok t else .error (.badValue (.logFormat t))
    | _ => .error .wrongType

/-- Opens the file that a path leads to, and makes it if it is missing. -/
def openFile : Json → Attempt Output Directory.OpenFile
  | .text t => Attempt.zoom Output.files (fun d o => { o with files := d }) (Directory.openFile t.toString)
  | _ => throw .wrongType

def handlerOf (s : LogSettings) : Attempt Output Handler := do
  if s.file.isBlank then
    let layout ← .ofExcept (layoutOf s.format)
    return ⟨none, .null, .null, layout⟩
  else
    let maxBytes ← .ofExcept (bytesOf s.maxSize)
    let file ← openFile s.file
    let layout ← .ofExcept (layoutOf s.format)
    return ⟨some file, maxBytes, s.backupCount, layout⟩

def configure (s : LogSettings) : Attempt Output Unit := do
  match s.level with
  | .text name =>
    let level ← .ofExcept (levelOf name)
    modify fun o => { o with level := level, handler := none }
    let handler ← handlerOf s
    modify fun o => { o with handler := some handler }
  | _ => throw .noSuchMember

/-- Whether a logger belongs to the library. -/
def owns (logger : String) : Bool :=
  logger == rootName || (rootName ++ ".").toList.isPrefixOf logger.toList

/-- The least level of records that are written: without one, that of warnings. -/
def threshold (o : Output) : Int := if o.level = 0 then warning else o.level

/-- Writes a record, if it is important enough and belongs to the library. A record that cannot be
written in the handler's layout is dropped. -/
def emit (r : Record) (o : Output) : Output :=
  match o.handler with
  | some { file := some file, layout := layout, .. } =>
    if owns r.logger && o.threshold ≤ r.level && file.here then
      match (Layout.render layout r).bind Text.utf8? with
      | some line => { o with files := o.files.append file.name (line ++ [10]) }
      | none => o
    else o
  | _ => o

end Output

end AmountProofs.Log
