import ServoScript.Fault

/-!
# Values as integers and lists

Callers hand in values of any kind where an integer or a list is meant. These are the readings of a
value as one, and the faults of those that have none.
-/

namespace ServoScript.Json

/-- The integer that a numeral stands for; a message shows a text that is none as `shown`. -/
def intOfText (shown t : Text) : Except Fault Int :=
  match Numeral.read t with
  | .ok n => .ok n
  | .error .malformed => .error (.malformedNumeral shown)
  | .error (.tooLong digits) => .error (.tooManyDigits digits)

/-- The integer that a value stands for. A truth value counts as one or zero, and a floating-point
number loses its fraction. -/
def toInt : Json → Except Fault Int
  | .bool b => .ok (if b then 1 else 0)
  | .int n => .ok n
  | .float (.finite negative significand scale) =>
    .ok (Binary64.signed negative (Binary64.wholePart significand scale).1)
  | .float (.infinite _) => .error .infiniteNumber
  | .float .undefined => .error .undefinedNumber
  | .text t => intOfText (Text.quoted t) t
  | v => .error (.notInteger v.kind)

/-- What a value is made of: the items of a list, the characters of a text, the keys of an object. -/
def items : Json → Except Fault (List Json)
  | .list items => .ok items
  | .text t => .ok (t.map fun c => .text [c])
  | .object members => .ok (members.map fun (key, _) => .text key)
  | v => .error (.notIterable v.kind)

def length : Json → Except Fault Nat
  | .list items => .ok items.length
  | .text t => .ok t.length
  | .object members => .ok members.length
  | v => .error (.unsized v.kind)

/-- The items of a value as integers, from the first on. -/
def toInts (v : Json) : Except Fault (List Int) :=
  match v.items with
  | .ok items => items.mapM toInt
  | .error fault => .error fault

def toMembers (operation : Text) : Json → Except Fault (Members)
  | .object members => .ok members
  | v => .error (.unsupported v.kind operation)

/-- The text that a value is, for an operation that only texts offer. -/
def expectText (operation : Text) : Json → Except Fault Text
  | .text t => .ok t
  | v => .error (.unsupported v.kind operation)

def optionalText (operation : Text) (v : Json) : Except Fault Text :=
  if v.isGiven then v.expectText operation else .ok []

def ofInts (ns : List Int) : Json :=
  .list (ns.map .int)

def ofTexts (ts : List Text) : Json :=
  .list (ts.map .text)

end ServoScript.Json
