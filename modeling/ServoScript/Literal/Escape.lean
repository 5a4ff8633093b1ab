import ServoScript.Text.CharacterName
import ServoScript.Text.Codes

/-!
# Escapes in literals

A text or octets between quotes. A backslash starts an escape, or stands for itself before a character
that needs none.
-/

namespace ServoScript.Literal

/-- The quote around a text: a character, once or three times. -/
structure Quote where
  mark : CodePoint
  isTriple : Bool
  deriving DecidableEq

def quote? : Text → Option (Quote × Text)
  | a :: rest =>
    if a == '\'' || a == '"' then
      if [a, a].isPrefixOf rest then some (⟨a, true⟩, rest.drop 2) else some (⟨a, false⟩, rest)
    else none
  | [] => none

/-- The body of a text up to its quote, behind the reverse of `done`, and what follows the quote. A
backslash protects the character behind it. Only a triple quote stands around several lines. -/
def body (q : Quote) (done : Text) : Text → Option (Text × Text)
  | [] => none
  | '\\' :: c :: rest => body q (c :: '\\' :: done) rest
  | c :: rest =>
    if c == q.mark then
      if !q.isTriple then some (done.reverse, rest)
      else if [c, c].isPrefixOf rest then some (done.reverse, rest.drop 2)
      else body q (c :: done) rest
    else if c == '\n' && !q.isTriple then none
    else body q (c :: done) rest

def hexAt? (count : Nat) (t : Text) : Option Nat :=
  let digits := t.take count
  if digits.length = count && digits.all fun c => (Text.hexValue? c).isSome then
    some (Text.natOfHex digits)
  else none

def isOctal (c : CodePoint) : Bool :=
  '0' ≤ c && c ≤ '7'

def letterEscape? : CodePoint → Option Nat
  | '\\' => some 0x5C
  | '\'' => some 0x27
  | '"' => some 0x22
  | 'a' => some 0x07
  | 'b' => some 0x08
  | 'f' => some 0x0C
  | 'n' => some 0x0A
  | 'r' => some 0x0D
  | 't' => some 0x09
  | 'v' => some 0x0B
  | _ => none

def named? : Text → Option (Nat × Text)
  | '\x7b' :: rest =>
    match rest.dropWhile (· != CodePoint.char '\x7d') with
    | _ :: after => (CharacterName.find? (rest.takeWhile (· != CodePoint.char '\x7d'))).map fun n => (n, after)
    | [] => none
  | _ => none

def numbered? (count bound : Nat) (t : Text) : Option (Nat × Text) :=
  (hexAt? count t).bind fun n => if n ≤ bound then some (n, t.drop count) else none

/-- What an escape stands for, by what follows its backslash, and what follows the escape. Escapes
for characters that are no octets are known in texts only. -/
def escape? (inText : Bool) (t : Text) : Option (Codes × Text) :=
  match t with
  | [] => none
  | '\n' :: rest => some ([], rest)
  | 'x' :: rest => (numbered? 2 0xFF rest).map fun (n, rest) => ([n], rest)
  | c :: rest =>
    match letterEscape? c with
    | some n => some ([n], rest)
    | none =>
      if isOctal c then
        let digits := (c :: rest.take 2).takeWhile isOctal
        some ([digits.foldl (fun n c => 8 * n + (c.toNat - '0'.toNat)) 0],
          (c :: rest).drop digits.length)
      else if !inText then some ([0x5C, c.toNat], rest)
      else if c == 'u' then (numbered? 4 0xFFFF rest).map fun (n, rest) => ([n], rest)
      else if c == 'U' then (numbered? 8 0x10FFFF rest).map fun (n, rest) => ([n], rest)
      else if c == 'N' then (named? rest).map fun (n, rest) => ([n], rest)
      else some ([0x5C, c.toNat], rest)

def resolve (inText : Bool) : (fuel : Nat) → Text → Option Codes
  | 0, _ => some []
  | _, [] => some []
  | fuel + 1, '\\' :: rest =>
    match escape? inText rest with
    | none => none
    | some (codes, rest) => (resolve inText fuel rest).map (codes ++ ·)
  | fuel + 1, c :: rest => (resolve inText fuel rest).map (c.toNat :: ·)

def textBody (isRaw : Bool) (t : Text) : Option Codes :=
  if isRaw then some (Codes.ofText t) else resolve true t.length t

/-- The octets of a body. Its characters are basic ones, and of a larger number the lowest octet
counts. -/
def octetBody (isRaw : Bool) (t : Text) : Option (List UInt8) :=
  if !t.all fun c => c.toNat < 0x80 then none
  else if isRaw then some (t.map fun c => UInt8.ofNat c.toNat)
  else (resolve false t.length t).map fun codes => codes.map UInt8.ofNat

end ServoScript.Literal
