import ServoScript.Fault

/-!
# The order of values

Which values are equal, and which of two comes first. Numbers of all kinds compare by their values,
texts by their code points and lists by the first items that differ. Other values have no order.
-/

namespace ServoScript

/-- Where a number lies: at a multiple of the least positive floating-point number, or beyond all of
them. -/
inductive Position where
  | lowest
  | point (n : Int)
  | highest
  deriving DecidableEq

def Position.compare : Position → Position → Ordering
  | .point m, .point n => Ord.compare m n
  | .lowest, .lowest => .eq
  | .highest, .highest => .eq
  | .lowest, _ => .lt
  | _, .highest => .lt
  | _, _ => .gt

/-- The position of a floating-point number. An undefined one has none. -/
def Binary64.position? : Binary64 → Option Position
  | .finite negative significand scale =>
    some (.point (signed negative (significand * Nat.pow 2 scale)))
  | .infinite true => some .lowest
  | .infinite false => some .highest
  | .undefined => none

namespace Json

def isNumber : Json → Bool
  | .bool _ => true
  | .int _ => true
  | .float _ => true
  | _ => false

/-- The position of a number. A truth value counts as one or zero. -/
def position? : Json → Option Position
  | .bool b => some (.point (if b then Binary64.unit else 0))
  | .int n => some (.point (n * Binary64.unit))
  | .float x => x.position?
  | _ => none

/-- The order of two numbers, unless one of them is undefined. -/
def compareNumbers (a b : Json) : Option Ordering :=
  match a.position?, b.position? with
  | some p, some q => some (p.compare q)
  | _, _ => none

def compareTexts : Text → Text → Ordering
  | [], [] => .eq
  | [], _ :: _ => .lt
  | _ :: _, [] => .gt
  | a :: as, b :: bs => if a = b then compareTexts as bs else Ord.compare a.toNat b.toNat

mutual

/-- Whether two values are equal. Members of objects may come in any order. -/
def same : Json → Json → Bool
  | .null, .null => true
  | .text s, .text t => s = t
  | .list as, .list bs => sameItems as bs
  | .object as, .object bs => as.length = bs.length && sameMembers as bs
  | a, b => a.isNumber && b.isNumber && compareNumbers a b = some .eq

def sameItems : List Json → List Json → Bool
  | [], [] => true
  | a :: as, b :: bs => same a b && sameItems as bs
  | _, _ => false

def sameMembers : Members → Members → Bool
  | [], _ => true
  | (key, a) :: as, bs =>
    (match member? key bs with
      | some b => same a b
      | none => false) && sameMembers as bs

end

inductive Relation where
  | less
  | atMost
  | greater
  deriving DecidableEq

namespace Relation

def sign : Relation → Text
  | .less => "<"
  | .atMost => "<="
  | .greater => ">"

def admits : Relation → Ordering → Bool
  | .less, o => o = .lt
  | .atMost, o => o ≠ .gt
  | .greater, o => o = .gt

mutual

/-- Whether a relation holds between two values. Nothing holds of an undefined number. -/
def holds (r : Relation) : Json → Json → Except Fault Bool
  | .int m, .int n => .ok (r.admits (Ord.compare m n))
  | .text s, .text t => .ok (r.admits (compareTexts s t))
  | .list as, .list bs => holdsOfItems r as bs
  | a, b =>
    if a.isNumber && b.isNumber then .ok ((compareNumbers a b).any r.admits)
    else .error (.incomparable r.sign a.kind b.kind)

/-- Whether a relation holds between two lists: the first items that differ decide, and then the
lengths. -/
def holdsOfItems (r : Relation) : List Json → List Json → Except Fault Bool
  | [], [] => .ok (r.admits .eq)
  | [], _ :: _ => .ok (r.admits .lt)
  | _ :: _, [] => .ok (r.admits .gt)
  | a :: as, b :: bs => if same a b then holdsOfItems r as bs else holds r a b

end

end Relation

def clamp (v low high : Json) : Except Fault Json := do
  let v := if ← Relation.less.holds v high then v else high
  .ok (if ← Relation.greater.holds v low then v else low)

def wordBound : Int := Nat.pow 2 63

/-- The place in a list of some length that an integer points to. Negative ones count from the end. -/
def placeOfInt (length : Nat) (n : Int) : Except Fault Nat :=
  if n < -wordBound || wordBound ≤ n then .error .hugePosition
  else
    let place := if n < 0 then n + length else n
    if 0 ≤ place && place < length then .ok place.toNat else .error .outsideList

def placeIn (length : Nat) : Json → Except Fault Nat
  | .int n => placeOfInt length n
  | .bool b => placeOfInt length (if b then 1 else 0)
  | v => .error (.notPosition "list" v.kind)

/-- Whether a value lies in `0, …, length - 1` and between. -/
def isWithin (length : Nat) (v : Json) : Except Fault Bool := do
  if ← Relation.atMost.holds (.int 0) v then Relation.less.holds v (.int length) else .ok false

def successor : Json → Except Fault Json
  | .int n => .ok (.int (n + 1))
  | .bool b => .ok (.int (if b then 2 else 1))
  | .float x => .ok (.float x.successor)
  | v => .error (.noSuccessor v.kind)

end Json

end ServoScript
