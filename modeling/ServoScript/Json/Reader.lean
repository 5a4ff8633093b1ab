import ServoScript.Json.Basic
import ServoScript.Text.Numeral

/-!
# Reading documents

A reader by recursive descent. What is left of the text is passed along, and a flaw carries what was
left where it was found, from which its line and column follow.
-/

namespace ServoScript.Json

inductive Lack where
  | value
  | name
  | colon
  | comma
  | closingQuote
  | plainCharacter
  | escape
  | hexEscape
  | ending
  | noMark
  deriving DecidableEq

/-- A flaw of a document: a lack where `rest` is left, or an integer with too many digits. -/
inductive Flaw where
  | lack (what : Lack) (rest : Text)
  | tooManyDigits (digits : Nat)

abbrev Reading (α : Type) := Except Flaw (α × Text)

def isSpace (c : CodePoint) : Bool :=
  c == ' ' || c == '\t' || c == '\n' || c == '\r'

def skipSpace (t : Text) : Text :=
  t.dropWhile isSpace

def hexValue4? (a b c d : CodePoint) : Option Nat :=
  match Text.hexValue? a, Text.hexValue? b, Text.hexValue? c, Text.hexValue? d with
  | some a, some b, some c, some d => some (((a * 16 + b) * 16 + c) * 16 + d)
  | _, _, _, _ => none

def shortEscape? (c : CodePoint) : Option CodePoint :=
  if c == '"' || c == '\\' || c == '/' then some c
  else if c == 'b' then some '\x08'
  else if c == 'f' then some '\x0c'
  else if c == 'n' then some '\n'
  else if c == 'r' then some '\r'
  else if c == 't' then some '\t'
  else none

/-- A part of a written text: a code point as it stands, or a number behind an escape. -/
inductive TextUnit where
  | plain (c : CodePoint)
  | number (n : Nat)

/-- Reads the rest of a text behind its opening quote. The parts so far are the reverse of `done`;
`opening` is what was left at the opening quote. The four digits of an escape are never the end of a
document. -/
def readUnits (opening : Text) (done : List TextUnit) : Text → Reading (List TextUnit)
  | [] => .error (.lack .closingQuote opening)
  | c :: rest =>
    if c == '"' then .ok (done.reverse, rest)
    else if c == '\\' then
      match rest with
      | [] => .error (.lack .closingQuote opening)
      | e :: after =>
        if e == 'u' then
          match after with
          | h₁ :: h₂ :: h₃ :: h₄ :: more =>
            match hexValue4? h₁ h₂ h₃ h₄ with
            | some n =>
              if more.isEmpty then .error (.lack .hexEscape (e :: after))
              else readUnits opening (.number n :: done) more
            | none => .error (.lack .hexEscape (e :: after))
          | _ => .error (.lack .hexEscape (e :: after))
        else match shortEscape? e with
          | some d => readUnits opening (.plain d :: done) after
          | none => .error (.lack .escape (c :: rest))
    else if c.toNat < 0x20 then .error (.lack .plainCharacter (c :: rest))
    else readUnits opening (.plain c :: done) rest

/-- The text of its parts. Two escapes in a row may be the halves of one character; a half without its
other half stays what it is. -/
def textOfUnits : List TextUnit → Text
  | [] => []
  | .plain c :: rest => c :: textOfUnits rest
  | .number n :: .number m :: rest =>
    if CodePoint.isHigh n && CodePoint.isLow m then CodePoint.join n m :: textOfUnits rest
    else CodePoint.ofNat n :: textOfUnits (.number m :: rest)
  | .number n :: rest => CodePoint.ofNat n :: textOfUnits rest

def readText (opening rest : Text) : Reading Text :=
  (readUnits opening [] rest).map fun (units, rest) => (textOfUnits units, rest)

def spanDigits (t : Text) : Text × Text :=
  (t.takeWhile Text.isDigit, t.dropWhile Text.isDigit)

/-- The whole part of a number: a zero alone, or digits that start with another one. -/
def spanWhole : Text → Option (Text × Text)
  | [] => none
  | c :: rest =>
    if c == '0' then some ([c], rest)
    else if Text.isDigit c then some (spanDigits (c :: rest))
    else none

/-- The digits behind a point, if there is a point with a digit behind it. -/
def spanFraction (t : Text) : Text × Text :=
  match t with
  | '.' :: rest =>
    match spanDigits rest with
    | ([], _) => ([], t)
    | found => found
  | _ => ([], t)

/-- The exponent behind its mark, if there is a mark with a digit behind it and its sign. -/
def spanExponent (t : Text) : Option Int × Text :=
  match t with
  | [] => (none, t)
  | mark :: rest =>
    if mark == 'e' || mark == 'E' then
      let negative := rest.head? = some (CodePoint.char '-')
      let signed := negative || rest.head? = some (CodePoint.char '+')
      match spanDigits (if signed then rest.drop 1 else rest) with
      | ([], _) => (none, t)
      | (digits, after) => (some (Binary64.signed negative (Text.natOfDigits digits)), after)
    else (none, t)

/-- Reads a number from its first digit on. It is an integer if it has neither a fraction nor an
exponent. `start` is what was left at its sign. -/
def readMagnitude (start : Text) (negative : Bool) (t : Text) : Reading Json :=
  match spanWhole t with
  | none => .error (.lack .value start)
  | some (whole, afterWhole) =>
    let (fraction, afterFraction) := spanFraction afterWhole
    let (exponent, rest) := spanExponent afterFraction
    if fraction.isEmpty && exponent.isNone then
      if Numeral.maxDigits < whole.length then .error (.tooManyDigits whole.length)
      else .ok (.int (Binary64.signed negative (Text.natOfDigits whole)), rest)
    else
      let shift : Int := exponent.getD 0 - fraction.length
      .ok (.float (Binary64.ofDecimal negative (Text.natOfDigits (whole ++ fraction)) shift), rest)

def words : Members := [
  ("null", .null), ("true", .bool true), ("false", .bool false), ("NaN", .float .undefined),
  ("Infinity", .float (.infinite false)), ("-Infinity", .float (.infinite true))]

def readScalar (t : Text) : Reading Json :=
  match words.find? fun (word, _) => word.isPrefixOf t with
  | some (word, value) => .ok (value, t.drop word.length)
  | none =>
    match t with
    | '-' :: rest => readMagnitude t true rest
    | _ => readMagnitude t false t

mutual

/-- Reads a value. Each step into a value and to the next item spends one unit of fuel. -/
def readValue : (fuel : Nat) → Text → Reading Json
  | 0, t => .error (.lack .value t)
  | fuel + 1, t =>
    match t with
    | '"' :: rest => (readText t rest).map fun (read, rest) => (.text read, rest)
    | '[' :: rest =>
      match skipSpace rest with
      | ']' :: rest => .ok (.list [], rest)
      | rest => readItems fuel [] rest
    | '\x7b' :: rest =>
      match skipSpace rest with
      | '\x7d' :: rest => .ok (.object [], rest)
      | rest => readMembers fuel [] rest
    | _ => readScalar t

/-- Reads the items of a list from the next one on, behind the reverse of `done`. -/
def readItems : (fuel : Nat) → List Json → Text → Reading Json
  | 0, _, t => .error (.lack .value t)
  | fuel + 1, done, t =>
    match readValue fuel t with
    | .error flaw => .error flaw
    | .ok (item, rest) =>
      match skipSpace rest with
      | ']' :: rest => .ok (.list (item :: done).reverse, rest)
      | ',' :: rest => readItems fuel (item :: done) (skipSpace rest)
      | rest => .error (.lack .comma rest)

/-- Reads the members of an object from the next one on, behind the members `done`. A key that comes
again keeps its place and takes the new value. -/
def readMembers : (fuel : Nat) → Members → Text → Reading Json
  | 0, _, t => .error (.lack .name t)
  | fuel + 1, done, t =>
    match t with
    | '"' :: rest =>
      match readText t rest with
      | .error flaw => .error flaw
      | .ok (key, rest) =>
        match skipSpace rest with
        | ':' :: rest =>
          match readValue fuel (skipSpace rest) with
          | .error flaw => .error flaw
          | .ok (value, rest) =>
            match skipSpace rest with
            | '\x7d' :: rest => .ok (.object (put key value done), rest)
            | ',' :: rest => readMembers fuel (put key value done) (skipSpace rest)
            | rest => .error (.lack .comma rest)
        | rest => .error (.lack .colon rest)
    | _ => .error (.lack .name t)

end

/-- The document that a text holds. Reading a value spends at most one unit of fuel more than its
text has characters. -/
def read (t : Text) : Except Flaw Json :=
  if t.head? = some (CodePoint.char '\ufeff') then .error (.lack .noMark t)
  else match readValue (t.length + 1) (skipSpace t) with
    | .error flaw => .error flaw
    | .ok (value, rest) =>
      match skipSpace rest with
      | [] => .ok value
      | rest => .error (.lack .ending rest)

def Lack.message : Lack → Text
  | .value => "Expecting value"
  | .name => "Expecting property name enclosed in double quotes"
  | .colon => "Expecting ':' delimiter"
  | .comma => "Expecting ',' delimiter"
  | .closingQuote => "Unterminated string starting at"
  | .plainCharacter => "Invalid control character at"
  | .escape => "Invalid \\escape"
  | .hexEscape => "Invalid \\uXXXX escape"
  | .ending => "Extra data"
  | .noMark => "Unexpected UTF-8 BOM (decode using utf-8-sig)"

/-- The place behind the text `before`: line, column and offset. Lines and columns count from one. -/
def place (before : Text) : Text :=
  let line := before.count (CodePoint.char '\n') + 1
  let column := (before.reverse.takeWhile (· != CodePoint.char '\n')).length + 1
  "line " ++ Text.ofNat line ++ " column " ++ Text.ofNat column ++
    " (char " ++ Text.ofNat before.length ++ ")"

/-- The message about a flaw of the document `t`. -/
def Flaw.message (t : Text) : Flaw → Text
  | .lack what rest => what.message ++ ": " ++ place (t.take (t.length - rest.length))
  | .tooManyDigits digits => Numeral.tooLongMessage digits

end ServoScript.Json
