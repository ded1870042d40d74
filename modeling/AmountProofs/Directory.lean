import AmountProofs.Failure

/-!
A directory of files, and where paths lead from it.

The directory has no directories inside, but paths may leave it: it lies in `/tmp`, and a few
directories that every system has are known. `Directory.read` follows a path step by step, so every step
but the last has to come to a directory. `Directory.openFile` first takes back the steps that a path
cancels itself, and makes the file if it is missing.
-/

namespace AmountProofs

/-- The files of a directory with their contents. -/
abbrev Directory := List (String × Bytes)

/-- The steps of a path. -/
structure Path where
  /-- Whether the steps start at the root, and not in the directory at hand. -/
  absolute : Bool
  /-- The steps; none is empty or a single point. -/
  steps : List String
  /-- Whether a slash or a single point follows the last step. -/
  wantsDirectory : Bool
  deriving DecidableEq, Repr

namespace Path

/-- Whether a step stays where it is. -/
def stays (step : String) : Bool := step == "" || step == "."

def ofString (text : String) : Path :=
  let parts := (text.toList.splitOn '/').map String.ofList
  { absolute := parts.head? == some "" && 1 < parts.length
    steps := parts.filter fun step => !stays step
    wantsDirectory := parts.getLast?.any stays }

def byteSize (text : String) : Nat := text.utf8ByteSize

def maxStepSize : Nat := 255

def maxSize : Nat := 4095

end Path

namespace Directory

/-- A directory that a path can be in: the one at hand, or another one by its steps from the root. -/
inductive Spot
  | home
  | outer (steps : List String)
  deriving DecidableEq, Repr

/-- The directory that the one at hand lies in. -/
def surroundings : List String := ["tmp"]

/-- How many bytes the path of the directory at hand has. -/
def homeSize : Nat := 16

/-- The other directories that are known. -/
def knownDirectories : List (List String) :=
  [] :: (["bin", "boot", "dev", "etc", "home", "lib", "media", "mnt", "opt", "proc", "root", "run",
    "sbin", "srv", "sys", "tmp", "usr", "var"].map fun name => [name])
    ++ [["dev", "shm"], ["usr", "bin"], ["usr", "lib"], ["usr", "local"], ["usr", "local", "bin"],
      ["usr", "local", "lib"], ["usr", "sbin"], ["usr", "share"], ["var", "lib"], ["var", "log"],
      ["var", "tmp"]]

/-- The files outside that are known, with how their contents start. -/
def knownFiles : List (List String × Bytes) :=
  [(["dev", "null"], []), (["etc", "passwd"], Bytes.ofAscii "root:x:0:0:root:/root:/bin/bash\n"),
   (["etc", "group"], Bytes.ofAscii "root:x:0:\n"),
   (["etc", "hosts"], Bytes.ofAscii "127.0.0.1\tlocalhost\n")]

/-- One directory up; the root lies in itself. -/
def Spot.up : Spot → Spot
  | .home => .outer surroundings
  | .outer steps => .outer steps.dropLast

/-- What is found under a name in a directory. -/
inductive Entry
  | directory (spot : Spot)
  | file (content : Bytes)
  | nothing

def lookUp (d : Directory) (spot : Spot) (name : String) : Entry :=
  match spot with
  | .home =>
    match List.lookup name d with
    | some content => .file content
    | none => .nothing
  | .outer steps =>
    let there := steps ++ [name]
    if knownDirectories.contains there then .directory (.outer there)
    else
      match List.lookup there knownFiles with
      | some content => .file content
      | none => .nothing

/-- Where the steps of a path lead: to a directory, to a file, or to a name in a directory that has
no file of that name. -/
inductive Place
  | directory
  | file (spot : Spot) (name : String) (content : Bytes)
  | vacant (spot : Spot) (name : String)

/-- Follows steps from a directory. -/
def follow (d : Directory) : Spot → List String → Except Failure Place
  | _, [] => .ok .directory
  | spot, step :: rest =>
    if step == ".." then follow d spot.up rest
    else if Path.maxStepSize < Path.byteSize step then .error .nameTooLong
    else
      match lookUp d spot step with
      | .directory there => follow d there rest
      | .file content => if rest.isEmpty then .ok (.file spot step content) else .error .notDirectory
      | .nothing => if rest.isEmpty then .ok (.vacant spot step) else .error .fileNotFound

/-- The directory that a path starts in. -/
def startOf (p : Path) : Spot := if p.absolute then .outer [] else .home

/-- Refuses a path that holds a null character or is too long, with some bytes before it. -/
def checkPath (before : Nat) (path : String) : Except Failure Unit := do
  if path.toList.contains (Char.ofNat 0) then throw (.badValue .embeddedNull)
  if Path.maxSize < before + Path.byteSize path then throw .nameTooLong

def read (d : Directory) (path : String) : Except Failure Bytes := do
  checkPath 0 path
  if path.isEmpty then throw .fileNotFound
  let p := Path.ofString path
  match ← follow d (startOf p) p.steps with
  | .directory => throw .isDirectory
  | .file _ _ content => if p.wantsDirectory then throw .notDirectory else return content
  | .vacant _ _ => throw .fileNotFound

/-- The steps of a path, last one first, without those that cancel, and the directory that they
start in: a step up takes back the step before it, or leads to the directory above the start. -/
def simplify : Spot → (kept : List String) → List String → Spot × List String
  | spot, kept, [] => (spot, kept)
  | spot, kept, step :: rest =>
    if step == ".." then
      match kept with
      | _ :: before => simplify spot before rest
      | [] => simplify spot.up [] rest
    else simplify spot (step :: kept) rest

def find? (d : Directory) (name : String) : Option Bytes :=
  List.lookup name d

/-- The directory with a file's content replaced, or with a new file. -/
def put (d : Directory) (name : String) (content : Bytes) : Directory :=
  match d with
  | [] => [(name, content)]
  | (n, old) :: rest => if n == name then (n, content) :: rest else (n, old) :: put rest name content

/-- The directory with bytes added to the end of a file, which is made if it is missing. -/
def append (d : Directory) (name : String) (more : Bytes) : Directory :=
  d.put name ((d.find? name).getD [] ++ more)

/-- The directory with a file's content replaced; files elsewhere are not kept. -/
def putAt (d : Directory) (spot : Spot) (name : String) (content : Bytes) : Directory :=
  if spot = .home then d.put name content else d

/-- Replaces or makes the file that a path leads to. -/
def write (path : String) (content : Bytes) : Attempt Directory Unit := do
  .ofExcept (checkPath 0 path)
  if path.isEmpty then throw .fileNotFound
  let p := Path.ofString path
  match ← .ofExcept (follow (← get) (startOf p) p.steps) with
  | .directory => throw .isDirectory
  | .file spot name _ | .vacant spot name =>
    if p.wantsDirectory then throw .isDirectory
    modify fun d => d.putAt spot name content

/-- A file that was opened: its name, and whether it is in the directory at hand. -/
structure OpenFile where
  name : String
  here : Bool
  deriving DecidableEq, Repr

/-- Opens the file that a path leads to for writing at its end, and makes it if it is missing. -/
def openFile (path : String) : Attempt Directory OpenFile := do
  let p := Path.ofString path
  let (spot, kept) := simplify (startOf p) [] p.steps
  let steps := kept.reverse
  .ofExcept (checkPath (if spot = .home then homeSize + 1 else 0) ("/".intercalate steps))
  match ← .ofExcept (follow (← get) spot steps) with
  | .directory => throw .isDirectory
  | .file spot name _ => return ⟨name, spot = .home⟩
  | .vacant spot name =>
    modify fun d => d.putAt spot name []
    return ⟨name, spot = .home⟩

end Directory

end AmountProofs
