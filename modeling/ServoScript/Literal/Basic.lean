import ServoScript.Json.Order
import ServoScript.Number.Width
import ServoScript.Text.Codes
import ServoScript.Text.Quoted

/-!
# Literals

The values that the notation of array files can write: numbers, texts, octets and truth values, and
tuples, lists, sets and dictionaries of them.
-/

namespace ServoScript

inductive Literal where
  | none
  | ellipsis
  | bool (b : Bool)
  | int (n : Int)
  | float (x : Binary64)
  | complex (re im : Binary64)
  | text (codes : Codes)
  | octets (values : List UInt8)
  | tuple (items : List Literal)
  | list (items : List Literal)
  | set (items : List Literal)
  | dictionary (entries : List (Literal × Literal))
  deriving Inhabited

namespace Literal

def kind : Literal → Text
  | .none => "NoneType"
  | .ellipsis => "ellipsis"
  | .bool _ => "bool"
  | .int _ => "int"
  | .float _ => "float"
  | .complex _ _ => "complex"
  | .text _ => "str"
  | .octets _ => "bytes"
  | .tuple _ => "tuple"
  | .list _ => "list"
  | .set _ => "set"
  | .dictionary _ => "dict"

/-! ## Writing -/

mutual

def shown : Literal → Text
  | .none => "None"
  | .ellipsis => "Ellipsis"
  | .bool true => "True"
  | .bool false => "False"
  | .int n => Text.ofInt n
  | .float x => x.text
  | .complex re im => Width.double.complexText re im
  | .text codes => codes.quoted
  | .octets values => Octets.shown values
  | .tuple [item] => CodePoint.char '(' :: shown item ++ ",)"
  | .tuple items =>
    CodePoint.char '(' :: List.intercalate (", " : Text) (shownItems items) ++ [CodePoint.char ')']
  | .list items =>
    CodePoint.char '[' :: List.intercalate (", " : Text) (shownItems items) ++ [CodePoint.char ']']
  | .set [] => "set()"
  | .set items =>
    CodePoint.char '\x7b' :: List.intercalate (", " : Text) (shownItems items) ++
      [CodePoint.char '\x7d']
  | .dictionary entries =>
    CodePoint.char '\x7b' :: List.intercalate (", " : Text) (shownEntries entries) ++ [CodePoint.char '\x7d']

def shownItems : List Literal → List Text
  | [] => []
  | item :: rest => shown item :: shownItems rest

def shownEntries : List (Literal × Literal) → List Text
  | [] => []
  | (key, value) :: rest => (shown key ++ ": " ++ shown value) :: shownEntries rest

end

mutual

def isWritable : Literal → Bool
  | .int n => Numeral.isShort n
  | .tuple items => areWritable items
  | .list items => areWritable items
  | .set items => areWritable items
  | .dictionary entries => areWritableEntries entries
  | _ => true

def areWritable : List Literal → Bool
  | [] => true
  | item :: rest => isWritable item && areWritable rest

def areWritableEntries : List (Literal × Literal) → Bool
  | [] => true
  | (key, value) :: rest => isWritable key && isWritable value && areWritableEntries rest

end

/-! ## Equality and order -/

def position? : Literal → Option Position
  | .bool b => some (.point (if b then Binary64.unit else 0))
  | .int n => some (.point (n * Binary64.unit))
  | .float x => x.position?
  | _ => Option.none

def positions? : Literal → Option (Position × Position)
  | .complex re im =>
    match re.position?, im.position? with
    | some p, some q => some (p, q)
    | _, _ => Option.none
  | v => v.position?.map fun p => (p, .point 0)

mutual

/-- Whether two literals are equal. Numbers of all kinds are equal if their values are. -/
def same : Literal → Literal → Bool
  | .none, .none => true
  | .ellipsis, .ellipsis => true
  | .text s, .text t => s = t
  | .octets s, .octets t => s = t
  | .tuple as, .tuple bs => sameItems as bs
  | .list as, .list bs => sameItems as bs
  | a, b =>
    match a.positions?, b.positions? with
    | some p, some q => p = q
    | _, _ => false

def sameItems : List Literal → List Literal → Bool
  | [], [] => true
  | a :: as, b :: bs => same a b && sameItems as bs
  | _, _ => false

end

structure Incomparable where
  left : Text
  right : Text

def isBelow : List Nat → List Nat → Bool
  | [], [] => false
  | [], _ :: _ => true
  | _ :: _, [] => false
  | a :: as, b :: bs => if a = b then isBelow as bs else a < b

mutual

def before : Literal → Literal → Except Incomparable Bool
  | .text s, .text t => .ok (isBelow s t)
  | .octets s, .octets t => .ok (isBelow (s.map UInt8.toNat) (t.map UInt8.toNat))
  | .tuple as, .tuple bs => beforeItems as bs
  | a, b =>
    match a.position?, b.position? with
    | some p, some q => .ok (p.compare q = .lt)
    | _, _ => .error ⟨a.kind, b.kind⟩

/-- Whether items come before others: the first ones that differ decide, and then the lengths. -/
def beforeItems : List Literal → List Literal → Except Incomparable Bool
  | [], [] => .ok false
  | [], _ :: _ => .ok true
  | _ :: _, [] => .ok false
  | a :: as, b :: bs => if same a b then beforeItems as bs else before a b

end

/-! ## Sorting

Literals are sorted by their first run and binary insertion, which fixes the first two of them that
have no order. -/

def runFrom (descending : Bool) (last : Literal) : List Literal →
    Except Incomparable (List Literal × List Literal)
  | [] => .ok ([], [])
  | a :: rest => do
    if (← before a last) = descending then
      let (run, others) ← runFrom descending a rest
      .ok (a :: run, others)
    else .ok ([], a :: rest)

/-- The place of a literal among sorted ones between `low` and `high`. -/
def placeOf (sorted : List Literal) (entry : Literal) : (fuel low high : Nat) →
    Except Incomparable Nat
  | 0, low, _ => .ok low
  | fuel + 1, low, high => do
    if low < high then
      let middle := low + (high - low) / 2
      if ← before entry (sorted.getD middle .none) then placeOf sorted entry fuel low middle
      else placeOf sorted entry fuel (middle + 1) high
    else .ok low

def insertAll (sorted : List Literal) : List Literal → Except Incomparable (List Literal)
  | [] => .ok sorted
  | entry :: rest => do
    let n ← placeOf sorted entry sorted.length 0 sorted.length
    insertAll (sorted.take n ++ entry :: sorted.drop n) rest

def sort : List Literal → Except Incomparable (List Literal)
  | a :: b :: rest => do
    let descending ← before b a
    let (run, others) ← runFrom descending b rest
    let run := a :: b :: run
    insertAll (if descending then run.reverse else run) others
  | few => .ok few

end Literal

end ServoScript
