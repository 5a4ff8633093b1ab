import ServoScript.Text.CharacterName.From0000
import ServoScript.Text.CharacterName.From1132
import ServoScript.Text.CharacterName.From12185
import ServoScript.Text.CharacterName.From1B1A4
import ServoScript.Text.CharacterName.From1F3B0
import ServoScript.Text.CharacterName.From22E6
import ServoScript.Text.CharacterName.From2E21
import ServoScript.Text.CharacterName.FromFD4F
import ServoScript.Text.Decimal

/-!
# Names of characters

The character that a name stands for. Most names are in a table, where a name gives only the words
that it does not share with the name before it. The syllables of Hangul are named by the letters in
them, and ideographs by their numbers.
-/

namespace ServoScript.CharacterName

/-! ## The table -/

/-- An entry of the table: the distance to the character before it, how many words its name shares
with the name before it, and the rest of its name. -/
structure Entry where
  distance : Nat
  shared : Nat
  rest : Text

/-- The entry with a given notation, `distance.shared:rest`. A distance that is left out is one. -/
def Entry.ofText (t : Text) : Entry :=
  let distance := t.takeWhile (· != CodePoint.char '.')
  let others := t.drop (distance.length + 1)
  let shared := others.takeWhile (· != CodePoint.char ':')
  ⟨if distance.isEmpty then 1 else Text.natOfHex distance, Text.natOfHex shared,
    others.drop (shared.length + 1)⟩

/-- The character with a name among entries, behind the character `last` and the words of its
name. -/
def findAmong (words : List Text) : (last : Nat) → (before : List Text) → List Text → Option Nat
  | _, _, [] => none
  | last, before, t :: rest =>
    let entry := Entry.ofText t
    let place := last + entry.distance
    let name := before.take entry.shared ++ (Text.split ' ' entry.rest).filter (!·.isEmpty)
    if name = words then some place else findAmong words place name rest

def entriesOf (part : String) : List Text :=
  (Text.split ',' ((part : Text).filter (· != CodePoint.char '\n'))).filter (!·.isEmpty)

def parts : List String :=
  [from0000, from1132, from22E6, from2E21, fromFD4F, from12185, from1B1A4, from1F3B0]

def inTable? (name : Text) : Option Nat :=
  let words := Text.split ' ' name
  parts.findSome? fun part => findAmong words 0 [] (entriesOf part)

/-! ## Ideographs -/

def unified : List (Nat × Nat) :=
  [(0x3400, 0x4DBF), (0x4E00, 0x9FFF), (0x20000, 0x2A6DF), (0x2A700, 0x2B738), (0x2B740, 0x2B81D),
   (0x2B820, 0x2CEA1), (0x2CEB0, 0x2EBE0), (0x30000, 0x3134A)]

def compatible : List (Nat × Nat) :=
  [(0xF900, 0xFA6D), (0xFA70, 0xFAD9), (0x2F800, 0x2FA1D)]

def isWithin (ranges : List (Nat × Nat)) (n : Nat) : Bool :=
  ranges.any fun (first, last) => first ≤ n && n ≤ last

def isCapitalDigit (c : CodePoint) : Bool :=
  ('0' ≤ c && c ≤ '9') || ('A' ≤ c && c ≤ 'F')

def numbered? (ranges : List (Nat × Nat)) (digits : Text) : Option Nat :=
  if (digits.length = 4 || digits.length = 5) && digits.all isCapitalDigit then
    let n := Text.natOfHex digits
    if isWithin ranges n then some n else none
  else none

/-! ## Syllables -/

def leads : List String :=
  ["G", "GG", "N", "D", "DD", "R", "M", "B", "BB", "S", "SS", "", "J", "JJ", "C", "K", "T", "P",
    "H"]

def vowels : List String :=
  ["A", "AE", "YA", "YAE", "EO", "E", "YEO", "YE", "O", "WA", "WAE", "OE", "YO", "U", "WEO", "WE",
    "WI", "YU", "EU", "YI", "I"]

/-- The names of the trailing letters of syllables. The first one is none at all. -/
def trails : List String :=
  ["", "G", "GG", "GS", "N", "NJ", "NH", "D", "L", "LG", "LM", "LB", "LS", "LT", "LP", "LH", "M",
    "B", "BS", "S", "SS", "NG", "J", "C", "K", "T", "P", "H"]

def longest? (letters : List String) (t : Text) : Option (Nat × Text) :=
  let fitting := letters.zipIdx.filter fun (letter, _) => (letter : Text).isPrefixOf t
  let best := fitting.foldl
    (fun (best : Option (String × Nat)) one =>
      match best with
      | some b => if b.1.length < one.1.length then some one else best
      | none => some one) none
  best.map fun (letter, place) => (place, t.drop letter.length)

/-- The syllable with a name: a leading letter, a vowel and a trailing letter. -/
def syllable? (t : Text) : Option Nat := do
  let (lead, t) ← longest? leads t
  let (vowel, t) ← longest? vowels t
  let (trail, t) ← longest? trails t
  if t.isEmpty then some (0xAC00 + (lead * 21 + vowel) * 28 + trail) else none

/-! ## All names -/

def syllableLabel : Text := "HANGUL SYLLABLE "

def unifiedLabel : Text := "CJK UNIFIED IDEOGRAPH-"

def compatibleLabel : Text := "CJK COMPATIBILITY IDEOGRAPH-"

/-- The character with a name. Letters may be small ones, other than in the names of syllables and
of unified ideographs. -/
def find? (name : Text) : Option Nat :=
  if syllableLabel.isPrefixOf name then syllable? (name.drop syllableLabel.length)
  else if unifiedLabel.isPrefixOf name then numbered? unified (name.drop unifiedLabel.length)
  else
    let capital := name.map CodePoint.toUpper
    if compatibleLabel.isPrefixOf capital then
      let digits := capital.drop compatibleLabel.length
      if digits.head? = some (CodePoint.char '0') then none else numbered? compatible digits
    else inTable? capital

end ServoScript.CharacterName
