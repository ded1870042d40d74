import AmountProofs.Log.Record
import AmountProofs.Log.Reference
import AmountProofs.Text.Alphanumeric

/-!
Layouts of log records.

A layout is a text with references to the fields of a record. A layout without any reference to a
named field is refused (`Layout.hasReference`); one that names a field no record has, or writes a
field in a way it cannot be written, writes nothing (`Layout.render`).
-/

namespace AmountProofs.Log

/-- The layout of a blank format: the message alone. -/
def Layout.ofMessage : Text := Text.ofString "%(message)s"

namespace Layout

open CodePoint (isChar isDecimal isAlphanumeric)

/-- Whether a code point may stand in the name of a field. -/
def isWord (c : CodePoint) : Bool := isAlphanumeric c || isChar c '_'

/-- The letters that tell how a field is written, in both cases. -/
def letters : Text := Text.ofString "diouxefgcrsaDIOUXEFGCRSA%İıſ"

/-- The text behind a star or digits. -/
def skipCount (t : Text) : Text :=
  match t with
  | c :: rest => if isChar c '*' then rest else t.dropWhile isDecimal
  | [] => []

def skipPrecision (t : Text) : Text :=
  match t with
  | c :: rest => if isChar c '.' then skipCount rest else t
  | [] => []

/-- Whether a precision is well-formed: a point needs a star or a digit behind it. -/
def goodPrecision (t : Text) : Bool :=
  match t with
  | c :: d :: _ => !isChar c '.' || isChar d '*' || isDecimal d
  | [c] => !isChar c '.'
  | [] => true

/-- Whether a text starts with a reference to a named field. -/
def startsReference : Text → Bool
  | c :: d :: rest =>
    let afterName := rest.dropWhile isWord
    let afterCount := skipCount ((afterName.drop 1).dropWhile Reference.isFlag)
    isChar c '%' && isChar d '(' && (rest.head?.any isWord) && (afterName.head?.any (isChar · ')'))
      && goodPrecision afterCount && ((skipPrecision afterCount).head?.any letters.contains)
  | _ => false

/-- Whether a reference to a named field stands somewhere in a text. -/
def hasReference : Text → Bool
  | [] => false
  | c :: rest => startsReference (c :: rest) || hasReference rest

/-- The fields whose value depends on the place and the time of a record. -/
def placeAndTime : List String :=
  ["pathname", "filename", "module", "lineno", "funcName", "created", "msecs", "relativeCreated",
   "thread", "process", "asctime"]

/-- The fields that hold nothing in the records of the library. -/
def absent : List String := ["exc_info", "exc_text", "stack_info"]

def field? (r : Record) (name : Text) : Option Field :=
  let known : List (String × Field) :=
    [("name", .text (Text.ofString r.logger)), ("msg", .text r.message),
     ("args", .other (Text.ofString "()")), ("levelname", .text (Text.ofString (levelName r.level))),
     ("levelno", .number r.level), ("message", .text r.message),
     ("threadName", .text (Text.ofString "MainThread")),
     ("processName", .text (Text.ofString "MainProcess"))]
      ++ absent.map (fun n => (n, .other (Text.ofString "None")))
      ++ placeAndTime.map (fun n => (n, .opening []))
  (known.find? fun (n, _) => Text.ofString n == name).map (·.2)

/-- All fields of a record at once, as far as they come before the place of the record. -/
def allFields (r : Record) : Field :=
  .opening (Text.ofString "\x7b'name': " ++ Json.Display.quoted (Text.ofString r.logger)
    ++ Text.ofString ", 'msg': " ++ Json.Display.quoted r.message
    ++ Text.ofString ", 'args': (), 'levelname': "
    ++ Json.Display.quoted (Text.ofString (levelName r.level))
    ++ Text.ofString s!", 'levelno': {r.level}, 'pathname': '")

/-- A piece of a layout. -/
inductive Piece
  | plain (c : CodePoint)
  | reference (r : Reference)
  deriving DecidableEq, Repr

namespace Piece

def reference? : Piece → Option Reference
  | .plain _ => none
  | .reference r => some r

def write (record : Record) : Piece → Option Text
  | .plain c => some [c]
  | .reference r =>
    match r.name with
    | some name => (field? record name).bind r.write
    | none => r.write (allFields record)

end Piece

/-- The pieces of a layout, if all its references can be read; `fuel` bounds the characters that are
read. Two per cent signs stand for one. -/
def piecesFrom : (fuel : Nat) → Text → Option (List Piece)
  | 0, _ => none
  | _ + 1, [] => some []
  | fuel + 1, c :: rest =>
    if isChar c '%' then
      if rest.head?.any (isChar · '%') then (piecesFrom fuel (rest.drop 1)).map (.plain c :: ·)
      else do
        let (r, rest) ← Reference.read? rest
        let pieces ← piecesFrom fuel rest
        return .reference r :: pieces
    else (piecesFrom fuel rest).map (.plain c :: ·)

def pieces? (layout : Text) : Option (List Piece) := piecesFrom (layout.length + 1) layout

/-- Whether only the first reference names no field. -/
def namesFields (pieces : List Piece) : Bool :=
  ((pieces.filterMap Piece.reference?).drop 1).all fun r => r.name.isSome

def render (layout : Text) (record : Record) : Option Text := do
  let pieces ← pieces? layout
  if namesFields pieces then
    let parts ← pieces.mapM (Piece.write record)
    return parts.flatten
  else none

end Layout

end AmountProofs.Log
