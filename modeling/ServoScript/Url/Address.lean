import ServoScript.Text.Decimal

/-!
# Numeric addresses of hosts

The two forms of a numeric address: four decimal octets between points, and eight hexadecimal groups
between colons, a run of which may be left out once.
-/

namespace ServoScript.Address

def isOctet (t : Text) : Bool :=
  !t.isEmpty && t.all Text.isDigit && t.length ≤ 3 && (t.length = 1 || t.head? != some (CodePoint.char '0')) &&
    Text.natOfDigits t ≤ 255

def isFour (t : Text) : Bool :=
  let octets := Text.split '.' t
  octets.length = 4 && octets.all isOctet

def isHexDigit (c : CodePoint) : Bool :=
  (Text.hexValue? c).isSome

def isGroup (t : Text) : Bool :=
  !t.isEmpty && t.length ≤ 4 && t.all isHexDigit

/-- The groups of an address. Four octets at its end stand for two groups. -/
def groupsOf (t : Text) : Option (List Text) :=
  let groups := Text.split ':' t
  let last := groups.getLastD []
  if groups.length < 3 then none
  else if !last.contains '.' then some groups
  else if isFour last then some (groups.dropLast ++ [("0" : Text), "0"])
  else none

/-- Whether groups are right before the place where some are left out, or behind it in reverse. An
empty group is right only where the address starts or ends with the gap. -/
def isSide (groups : List Text) : Bool :=
  groups = [[]] || groups.all isGroup

def sideLength (groups : List Text) : Nat :=
  if groups = [[]] then 0 else groups.length

def areSix (groups : List Text) : Bool :=
  if 9 < groups.length then false
  else
    let inner := (groups.drop 1).dropLast
    let gaps := inner.countP List.isEmpty
    if gaps = 0 then groups.length = 8 && groups.all isGroup
    else if gaps = 1 then
      let before := groups.take ((inner.takeWhile fun g => !g.isEmpty).length + 1)
      let behind := groups.drop (before.length + 1)
      isSide before && isSide behind && sideLength before + sideLength behind < 8
    else false

/-- An address and the zone behind its percent sign, which may not be empty and has no further
one. -/
def withoutZone (t : Text) : Option Text :=
  match Text.split '%' t with
  | [address] => some address
  | [address, zone] => if zone.isEmpty then none else some address
  | _ => none

def isSix (t : Text) : Bool :=
  match (withoutZone t).bind groupsOf with
  | some groups => areSix groups
  | none => false

/-- Whether a text is an address of a form to come: a version and anything behind a point. -/
def isFuture : Text → Bool
  | 'v' :: rest =>
    let version := rest.takeWhile isHexDigit
    match rest.drop version.length with
    | '.' :: tail => !version.isEmpty && !tail.isEmpty && !tail.contains '\n'
    | _ => false
  | _ => false

end ServoScript.Address
