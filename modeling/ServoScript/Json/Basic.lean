import ServoScript.Number.Shortest
import ServoScript.Text.Quoted

/-!
# Values of the data format

The documents that configuration files, stores and requests hold. Integers have any size and are
kept apart from floating-point numbers, and an object keeps its members in the order in which they
first came.
-/

namespace ServoScript

inductive Json where
  | null
  | bool (b : Bool)
  | int (n : Int)
  | float (x : Binary64)
  | text (t : Text)
  | list (items : List Json)
  | object (members : List (Text × Json))
  deriving Inhabited

namespace Json

inductive Kind where
  | null
  | bool
  | int
  | float
  | text
  | list
  | object
  deriving DecidableEq

def kind : Json → Kind
  | .null => .null
  | .bool _ => .bool
  | .int _ => .int
  | .float _ => .float
  | .text _ => .text
  | .list _ => .list
  | .object _ => .object

def Kind.label : Kind → Text
  | .null => "NoneType"
  | .bool => "bool"
  | .int => "int"
  | .float => "float"
  | .text => "str"
  | .list => "list"
  | .object => "dict"

/-- The members of an object: keys with their values. -/
abbrev Members := List (Text × Json)

def member? (key : Text) (members : Members) : Option Json :=
  members.lookup key

/-- The members with `value` under `key`: in its old place, or at the end if the key is new. -/
def put (key : Text) (value : Json) : Members → Members
  | [] => [(key, value)]
  | (k, v) :: rest => if k = key then (k, value) :: rest else (k, v) :: put key value rest

/-- Whether a value counts as given: null, false, zero and what is empty do not. -/
def isGiven : Json → Bool
  | .null => false
  | .bool b => b
  | .int n => n ≠ 0
  | .float x => !x.isZero
  | .text t => !t.isEmpty
  | .list items => !items.isEmpty
  | .object members => !members.isEmpty

mutual

def shown : Json → Text
  | .null => "None"
  | .bool true => "True"
  | .bool false => "False"
  | .int n => Text.ofInt n
  | .float x => x.text
  | .text t => Text.quoted t
  | .list items =>
    CodePoint.char '[' :: List.intercalate (", " : Text) (shownItems items) ++ [CodePoint.char ']']
  | .object members =>
    CodePoint.char '\x7b' :: List.intercalate (", " : Text) (shownMembers members) ++
      [CodePoint.char '\x7d']

def shownItems : List Json → List Text
  | [] => []
  | item :: rest => shown item :: shownItems rest

def shownMembers : Members → List Text
  | [] => []
  | (key, value) :: rest => (Text.quoted key ++ ": " ++ shown value) :: shownMembers rest

end

/-- The text that a value stands for: a text is itself, other values are as shown. -/
def toText : Json → Text
  | .text t => t
  | v => v.shown

end Json

end ServoScript
