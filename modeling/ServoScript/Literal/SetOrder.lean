import ServoScript.Literal.Basic

/-!
# The order of the items of a set

A set keeps its items in a table by a number for each, and shows them in the order of the table. The
numbers of numbers are fixed: they are residues, so that equal numbers of different kinds have the
same one. The numbers of texts are not, so the order of a set with several texts is not fixed either;
here they stay in the order in which they came.
-/

namespace ServoScript.Literal

def modulus : Nat := Nat.pow 2 61 - 1

/-- The word of 64 bits for a signed residue. The number -1 is taken. -/
def wordOf (n : Int) : Nat :=
  ((if n = -1 then -2 else n) % (Nat.pow 2 64 : Int)).toNat

def residueOf (n : Int) : Int :=
  Binary64.signed (n < 0) (n.natAbs % modulus)

/-- The residue of a floating-point number, with its sign. Halving is multiplication by a power of
two, since `2 ^ 61` leaves one. -/
def residueOfFloat : Binary64 → Int
  | .finite negative significand scale =>
    let power := (scale + (61 * 18 - 1074)) % 61
    Binary64.signed negative (significand * Nat.pow 2 power % modulus)
  | .infinite negative => Binary64.signed negative 314159
  | .undefined => 0

def rotate (count n : Nat) : Nat :=
  n * Nat.pow 2 count % Nat.pow 2 64 + n / Nat.pow 2 (64 - count)

mutual

/-- The number of an item, if it is fixed. -/
def number? : Literal → Option Nat
  | .bool b => some (if b then 1 else 0)
  | .int n => some (wordOf (residueOf n))
  | .float x => some (wordOf (residueOfFloat x))
  | .complex re im =>
    let n := (wordOf (residueOfFloat re) + 1000003 * wordOf (residueOfFloat im)) % Nat.pow 2 64
    some (if n = Nat.pow 2 64 - 1 then Nat.pow 2 64 - 2 else n)
  | .tuple items =>
    (numbersFrom 2870177450012600261 items).map fun n =>
      let n := (n + (items.length ^^^ (2870177450012600261 ^^^ 3527539))) % Nat.pow 2 64
      if n = Nat.pow 2 64 - 1 then 1546275796 else n
  | _ => Option.none

def numbersFrom (sum : Nat) : List Literal → Option Nat
  | [] => some sum
  | item :: rest =>
    match number? item with
    | some n =>
      let sum := (sum + n * 14029467366897019727) % Nat.pow 2 64
      numbersFrom (rotate 31 sum * 11400714785074694791 % Nat.pow 2 64) rest
    | Option.none => Option.none

end

abbrev Slot := Option (Nat × Literal)

def rowLength : Nat := 10

/-- The places that are tried for a number: a row, if it fits, and then another one further on. -/
def places (mask : Nat) : (fuel place rest : Nat) → List Nat
  | 0, _, _ => []
  | fuel + 1, place, rest =>
    let row := if place + (rowLength - 1) ≤ mask then
      (List.range rowLength).map (place + ·) else [place]
    let rest := rest / 32
    row ++ places mask fuel ((place * 5 + 1 + rest) % (mask + 1)) rest

/-- The number of rows that are tried at most. -/
def maxRows (mask : Nat) : Nat :=
  mask + 16

/-- The table with one more item, if that is new, and whether it is. -/
def put (table : List Slot) (n : Nat) (item : Literal) : List Slot × Bool :=
  let mask := table.length - 1
  let isEnd (place : Nat) : Bool :=
    match table.getD place Option.none with
    | Option.none => true
    | some (m, other) => m = n && same other item
  match (places mask (maxRows mask) (n % (mask + 1)) n).find? isEnd with
  | some place =>
    if (table.getD place Option.none).isNone then (table.set place (some (n, item)), true)
    else (table, false)
  | Option.none => (table, false)

/-- The least power of two above a number, from `size` on. -/
def sizeAbove (n : Nat) : (fuel size : Nat) → Nat
  | 0, size => size
  | fuel + 1, size => if size ≤ n then sizeAbove n fuel (2 * size) else size

def rebuild (size : Nat) (table : List Slot) : List Slot :=
  (table.filterMap id).foldl (fun table (n, item) => (put table n item).1)
    (List.replicate size Option.none)

/-- The table with one more item. It grows when three fifths of it are full. -/
def add (table : List Slot) (n : Nat) (item : Literal) : List Slot :=
  let (table, isNew) := put table n item
  let used := (table.filterMap id).length
  if isNew && 3 * (table.length - 1) ≤ 5 * used then
    rebuild (sizeAbove (4 * used) (4 * used) 8) table
  else table

/-- Items without the later ones of equal ones. -/
def distinct : List Literal → List Literal → List Literal
  | done, [] => done
  | done, item :: rest => distinct (if done.any (same item) then done else done ++ [item]) rest

def setOrder (items : List Literal) : List Literal :=
  match items.mapM fun item => (number? item).map fun n => (n, item) with
  | some numbered =>
    let table := numbered.foldl (fun table (n, item) => add table n item)
      (List.replicate 8 Option.none)
    table.filterMap fun slot => slot.map Prod.snd
  | Option.none => distinct [] items

end ServoScript.Literal
