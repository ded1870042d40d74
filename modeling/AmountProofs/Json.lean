import AmountProofs.Text
import AmountProofs.Number.Binary64
import AmountProofs.Number.Decimal

/-!
JSON values.

Integers of any size are kept apart from floating point numbers, the members of an object keep
their order, and a name occurs once in an object: writing a present name replaces its value in
place. Settings files, details of errors and values of unchecked settings are such values.
-/

namespace AmountProofs

inductive Json
  | null
  | bool (b : Bool)
  | int (n : Int)
  | float (x : Binary64)
  | text (t : Text)
  | list (items : List Json)
  | object (members : List (Text × Json))
  deriving Inhabited

namespace Json

def string (s : String) : Json := .text (Text.ofString s)

def record (members : List (String × Json)) : Json :=
  .object (members.map fun (name, value) => (Text.ofString name, value))

/-- Puts a member into an object: a present name keeps its place and takes the new value. -/
def setMember (name : Text) (value : Json) : List (Text × Json) → List (Text × Json)
  | [] => [(name, value)]
  | (key, old) :: rest =>
    if key = name then (key, value) :: rest else (key, old) :: setMember name value rest

def member? (name : Text) : List (Text × Json) → Option Json
  | [] => none
  | (key, value) :: rest => if key = name then some value else member? name rest

/-- The member of an object with the given name; `none` also if the value is no object. -/
def get? (v : Json) (name : String) : Option Json :=
  match v with
  | .object members => member? (Text.ofString name) members
  | _ => none

/-- The integer a value counts as: an integer, or a Boolean as one or zero. -/
def asInt? : Json → Option Int
  | .int n => some n
  | .bool b => some (if b then 1 else 0)
  | _ => none

/-- Whether a value counts as absent where a text is optional: null, false, zero or empty. -/
def isBlank : Json → Bool
  | .null => true
  | .bool b => !b
  | .int n => n == 0
  | .float x => x.sameInt 0
  | .text t => t.isEmpty
  | .list items => items.isEmpty
  | .object members => members.isEmpty

mutual

/-- Equality of values as data: Booleans and numbers are compared by value, and the order of an
object's members does not matter. -/
def same : Json → Json → Bool
  | .null, .null => true
  | .text s, .text t => s == t
  | .list xs, .list ys => sameItems xs ys
  | .object ms, .object ns => ms.length == ns.length && sameMembers ms ns
  | .float x, .float y => x.same y
  | .float x, .int n => x.sameInt n
  | .float x, .bool b => x.sameInt (if b then 1 else 0)
  | .int n, .float y => y.sameInt n
  | .bool b, .float y => y.sameInt (if b then 1 else 0)
  | .int n, .int k => n == k
  | .int n, .bool b => n == if b then 1 else 0
  | .bool b, .int n => n == if b then 1 else 0
  | .bool b, .bool c => b == c
  | _, _ => false

def sameItems : List Json → List Json → Bool
  | [], [] => true
  | x :: xs, y :: ys => same x y && sameItems xs ys
  | _, _ => false

/-- Whether every member has an equal one of the same name among `others`. -/
def sameMembers : List (Text × Json) → List (Text × Json) → Bool
  | [], _ => true
  | (name, value) :: rest, others =>
    (match member? name others with
      | some other => same value other
      | none => false) && sameMembers rest others

end

/-- How many calls may be nested in one another. What a caller leaves of them bounds how deep a value
may be that is read or copied. -/
def callLimit : Nat := 1000

mutual

/-- How deep the steps go in which a value is copied: three for a value without parts, and two more
than the deepest part for a list or an object. The names of members are parts, too. -/
def copyDepth : Json → Nat
  | .list items => 2 + copyDepthItems items
  | .object members => 2 + copyDepthMembers members
  | _ => 3

def copyDepthItems : List Json → Nat
  | [] => 0
  | x :: xs => max (copyDepth x) (copyDepthItems xs)

def copyDepthMembers : List (Text × Json) → Nat
  | [] => 0
  | (_, value) :: rest => max 3 (max (copyDepth value) (copyDepthMembers rest))

end

mutual

/-- Whether a value can be shown and written: no integer in it has too many digits. -/
def isShown : Json → Bool
  | .int n => Decimal.isShort n
  | .list items => isShownItems items
  | .object members => isShownMembers members
  | _ => true

def isShownItems : List Json → Bool
  | [] => true
  | x :: xs => isShown x && isShownItems xs

def isShownMembers : List (Text × Json) → Bool
  | [] => true
  | (_, value) :: rest => isShown value && isShownMembers rest

end

end Json

end AmountProofs
