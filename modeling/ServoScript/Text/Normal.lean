import ServoScript.Text.Codes
import ServoScript.Text.Normal.Table

/-!
# The normal form of texts

Texts that look or mean the same have the same normal form. Characters are taken apart into those that
they stand for, marks are put into the order of their classes, and then characters are put together
with the marks behind them as far as possible.
-/

namespace ServoScript.Text

/-! ## Syllables

The syllables of one script are put together from letters by arithmetic: a leading consonant, a vowel,
and perhaps a trailing consonant. -/

def syllableStart : Nat := 0xAC00

def leadStart : Nat := 0x1100

def vowelStart : Nat := 0x1161

def trailStart : Nat := 0x11A7

def leadCount : Nat := 19

def vowelCount : Nat := 21

def trailCount : Nat := 28

def syllablePlace? (n : Nat) : Option Nat :=
  if syllableStart ≤ n && n < syllableStart + leadCount * vowelCount * trailCount then
    some (n - syllableStart)
  else none

def syllableLetters (place : Nat) : Codes :=
  let lead := leadStart + place / (vowelCount * trailCount)
  let vowel := vowelStart + place / trailCount % vowelCount
  if place % trailCount = 0 then [lead, vowel] else [lead, vowel, trailStart + place % trailCount]

def joinLetters? (a b : Nat) : Option Nat :=
  if leadStart ≤ a && a < leadStart + leadCount && vowelStart ≤ b && b < vowelStart + vowelCount then
    some (syllableStart + ((a - leadStart) * vowelCount + (b - vowelStart)) * trailCount)
  else match syllablePlace? a with
    | some place =>
      if place % trailCount = 0 && trailStart < b && b < trailStart + trailCount then
        some (a + (b - trailStart))
      else none
    | none => none

/-! ## Taking apart and putting together -/

/-- The tables of characters that are taken apart. -/
def separable : List Run :=
  compatible.filter (·.mark != '<')

/-- The characters that are put together, with the pairs that they are made of. -/
def joined : List Run :=
  compatible.filter (·.mark != '~')

def maxSeparations : Nat := 8

def separate : (fuel : Nat) → Nat → Codes
  | 0, n => [n]
  | fuel + 1, n =>
    match syllablePlace? n with
    | some place => syllableLetters place
    | none =>
      match Run.find? separable n with
      | some parts => parts.flatMap (separate fuel)
      | none => [n]

/-- Puts a character behind others, given in reverse. A mark goes before marks of a higher class. -/
def insertMark (n : Nat) : Codes → Codes
  | [] => [n]
  | last :: rest =>
    if markClass n ≠ 0 && markClass n < markClass last then last :: insertMark n rest
    else n :: last :: rest

def orderMarks (codes : Codes) : Codes :=
  (codes.foldl (fun done n => insertMark n done) []).reverse

def join? (a b : Nat) : Option Nat :=
  match joinLetters? a b with
  | some n => some n
  | none => (joined.find? (·.targets == [a, b])).map (·.start)

/-- Puts characters together with the last one that is no mark, `base`. Behind it are `marks` that
stay, in reverse, the last of which is of class `last`. A mark reaches the base only over marks of
lower classes, and another character only if nothing stands between them. -/
def joinFrom (base : Nat) (marks : Codes) (last : Nat) : Codes → Codes
  | [] => base :: marks.reverse
  | n :: rest =>
    let reaches := marks.isEmpty || (last ≠ 0 && last < markClass n)
    match if reaches then join? base n else none with
    | some whole => joinFrom whole marks last rest
    | none =>
      if markClass n = 0 then base :: marks.reverse ++ joinFrom n [] 0 rest
      else joinFrom base (n :: marks) (markClass n) rest

/-- The characters put together. Marks at the start stay. -/
def joinMarks : Codes → Codes
  | [] => []
  | n :: rest => if markClass n = 0 then joinFrom n [] 0 rest else n :: joinMarks rest

def normal (codes : Codes) : Codes :=
  joinMarks (orderMarks (codes.flatMap (separate maxSeparations)))

end ServoScript.Text
