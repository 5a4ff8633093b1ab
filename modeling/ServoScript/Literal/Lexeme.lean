import ServoScript.Literal.Escape
import ServoScript.Literal.Numeral
import ServoScript.Text.Basic

/-!
# Lexemes

The parts of a text in the notation of literals, with their places. Unlike reading, this takes every
text apart: what is no part of the notation is a lexeme of a single character.
-/

namespace ServoScript.Literal

/-- A place in a text: the line, from one, and the column, from zero. -/
structure Place where
  row : Nat
  column : Nat

inductive Lexeme.Role where
  | number
  | name
  | lineEnd
  /-- The margin of a line that is larger than the one before. -/
  | indent
  | dedent
  | other
  deriving DecidableEq

structure Lexeme where
  role : Lexeme.Role
  text : Text
  start : Place
  stop : Place

namespace Lexeme

inductive Flaw where
  | openText (start : Place)
  | openBracket (row : Nat)
  | unindent (row : Nat)
  /-- A lexeme starts before the end of the one before it. -/
  | overlap (start stop : Place)

def Flaw.message : Flaw → Text
  | .openText start =>
    "('EOF in multi-line string', (" ++ Text.ofNat start.row ++ ", " ++ Text.ofNat start.column ++
      "))"
  | .openBracket row => "('EOF in multi-line statement', (" ++ Text.ofNat row ++ ", 0))"
  | .unindent row =>
    "unindent does not match any outer indentation level (<tokenize>, line " ++ Text.ofNat row ++ ")"
  | .overlap start stop =>
    "start (" ++ Text.ofNat start.row ++ "," ++ Text.ofNat start.column ++
      ") precedes previous end (" ++ Text.ofNat stop.row ++ "," ++ Text.ofNat stop.column ++ ")"

/-! ## Lengths

How many characters the lexeme of a role has at the start of a text; none, if there is no such
lexeme. -/

def runLength (isDigit : CodePoint → Bool) (count : Nat) : Text → Nat
  | [] => count
  | c :: rest =>
    if isDigit c then runLength isDigit (count + 1) rest
    else if c == '_' && 0 < count && rest.head?.any isDigit then runLength isDigit (count + 1) rest
    else count

def exponentLength (t : Text) : Nat :=
  match t with
  | e :: rest =>
    if e == 'e' || e == 'E' then
      let sign := if rest.head?.any (fun (c : CodePoint) => c == '+' || c == '-') then 1 else 0
      let digits := runLength Text.isDigit 0 (rest.drop sign)
      if digits = 0 then 0 else 1 + sign + digits
    else 0
  | [] => 0

def floatLength (t : Text) : Nat :=
  let whole := runLength Text.isDigit 0 t
  let rest := t.drop whole
  if rest.head? = some (CodePoint.char '.') then
    let fraction := runLength Text.isDigit 0 (rest.drop 1)
    if whole = 0 && fraction = 0 then 0
    else whole + 1 + fraction + exponentLength (rest.drop (1 + fraction))
  else if whole = 0 then 0
  else
    let exponent := exponentLength rest
    if exponent = 0 then 0 else whole + exponent

/-- The length of an integer. A zero in base ten has zeros behind it only. -/
def intLength (t : Text) : Nat :=
  match t with
  | '0' :: rest =>
    let zeros := runLength (· == CodePoint.char '0') 0 t
    match rest.head?.bind base? with
    | some base =>
      let digits := rest.drop 1
      let mark := if digits.head? = some (CodePoint.char '_') then 1 else 0
      let count := runLength (isDigitIn base) 0 (digits.drop mark)
      if count = 0 then zeros else 2 + mark + count
    | Option.none => zeros
  | t => runLength Text.isDigit 0 t

def isImaginary (t : Text) (length : Nat) : Bool :=
  0 < length && (t.drop length).head?.any fun (c : CodePoint) => c == 'j' || c == 'J'

def numberLength (t : Text) : Nat :=
  let whole := runLength Text.isDigit 0 t
  let float := floatLength t
  if isImaginary t whole then whole + 1
  else if isImaginary t float then float + 1
  else if 0 < float then float
  else intLength t

def signs : List String :=
  ["**=", "//=", ">>=", "<<=", "...", "!=", "%=", "&=", "**", "*=", "+=", "-=", "->", "//", "/=",
    ":=", "<<", "<=", "==", ">=", ">>", "@=", "^=", "|=", "%", "&", "(", ")", "*", "+", ",", "-",
    ".", "/", ":", ";", "<", "=", ">", "@", "[", "]", "^", "\x7b", "|", "\x7d", "~"]

def signLength (t : Text) : Nat :=
  ((signs.find? fun (s : String) => (s : Text).isPrefixOf t).map String.length).getD 0

def lineEndLength : Text → Nat
  | '\n' :: _ => 1
  | '\r' :: '\n' :: _ => 2
  | _ => 0

def joinLength : Text → Nat
  | '\\' :: rest => if lineEndLength rest = 0 then 0 else 1 + lineEndLength rest
  | _ => 0

def isWordChar (c : CodePoint) : Bool :=
  let n := c.toNat
  c.isAlpha || Text.isDigit c || c == '_' || [0xAA, 0xB2, 0xB3, 0xB5, 0xB9, 0xBA].contains n ||
    (0xBC ≤ n && n ≤ 0xBE) || (0xC0 ≤ n && n != 0xD7 && n != 0xF7)

def isNameStart (c : CodePoint) : Bool :=
  let n := c.toNat
  c.isAlpha || c == '_' || n = 0xAA || n = 0xB5 || n = 0xBA ||
    (0xC0 ≤ n && n != 0xD7 && n != 0xF7)

def opening? (t : Text) : Option (Nat × Quote) :=
  let letters := t.takeWhile CodePoint.isAlpha
  let small := letters.map CodePoint.toLower
  if ["", "b", "r", "u", "f", "br", "rb", "fr", "rf"].any fun (s : String) => (s : Text) = small then
    (quote? (t.drop letters.length)).map fun (q, _) => (letters.length, q)
  else Option.none

def closes (q : Quote) (t : Text) : Bool :=
  (if q.isTriple then [q.mark, q.mark, q.mark] else [q.mark]).isPrefixOf t

def quoteLength (q : Quote) : Nat :=
  if q.isTriple then 3 else 1

/-- The length up to and with the closing quote, behind `count` characters. The character behind a
backslash belongs to it, but not the end of a line. -/
def closingLength (q : Quote) (count : Nat) : Text → Nat
  | [] => 0
  | '\\' :: c :: rest => if c == '\n' then 0 else closingLength q (count + 2) rest
  | c :: rest =>
    if closes q (c :: rest) then count + quoteLength q
    else if c == '\\' then 0
    else closingLength q (count + 1) rest

/-- The length of a text on one line, behind `count` characters: up to its quote, or up to the end of
the line behind a backslash. -/
def lineTextLength (mark : CodePoint) (count : Nat) : Text → Nat
  | [] => 0
  | c :: rest =>
    if c == mark then count + 1
    else if c == '\n' then 0
    else if c == '\\' then
      if 0 < lineEndLength rest then count + 1 + lineEndLength rest
      else match rest with
        | _ :: rest => lineTextLength mark (count + 2) rest
        | [] => 0
    else lineTextLength mark (count + 1) rest

/-! ## Lines -/

structure Unfinished where
  quote : Quote
  start : Place
  text : Text

structure Scan where
  /-- How many brackets are open, less those that are closed without being open. -/
  depth : Int := 0
  /-- Whether the line before ends with a backslash. -/
  isJoined : Bool := false
  unfinished : Option Unfinished := Option.none
  /-- Whether a line that does not go on ends an unfinished text. -/
  isStrict : Bool := false
  /-- The margins, the largest first. -/
  margins : List Nat := [0]
  /-- The lexemes, the last one first. -/
  done : List Lexeme := []

def Scan.add (s : Scan) (role : Role) (text : Text) (start stop : Place) : Scan :=
  { s with done := ⟨role, text, start, stop⟩ :: s.done }

def Scan.put (s : Scan) (role : Role) (text : Text) (row column : Nat) : Scan :=
  s.add role text ⟨row, column⟩ ⟨row, column + text.length⟩

def Scan.sign (s : Scan) (text : Text) (row column : Nat) : Scan :=
  let change : Int := match text with
    | [c] => if ("([\x7b" : Text).contains c then 1 else if (")]\x7d" : Text).contains c then -1 else 0
    | _ => 0
  { s.put .other text row column with depth := s.depth + change }

def isLineBlank (c : CodePoint) : Bool :=
  c == ' ' || c == '\t' || c == '\x0c'

def scanLine (row : Nat) : (fuel column : Nat) → Text → Scan → Scan
  | 0, _, _, s => s
  | fuel + 1, column, t, s =>
    let t' := t.dropWhile isLineBlank
    let start := column + (t.length - t'.length)
    let go (length : Nat) (s : Scan) : Scan :=
      scanLine row fuel (start + length) (t'.drop length) s
    let put (role : Role) (length : Nat) : Scan :=
      go length (s.put role (t'.take length) row start)
    match t' with
    | [] => s
    | c :: _ =>
      if 0 < joinLength t' then go (joinLength t') { s with isJoined := true }
      else if c == '#' then put .other (t'.takeWhile fun (c : CodePoint) => c != '\r' && c != '\n').length
      else if 0 < numberLength t' then put .number (numberLength t')
      else if 0 < lineEndLength t' then put .lineEnd (lineEndLength t')
      else if 0 < signLength t' then
        go (signLength t') (s.sign (t'.take (signLength t')) row start)
      else
        match opening? t' with
        | some (letters, q) =>
          let inner := letters + quoteLength q
          if q.isTriple then
            let length := closingLength q inner (t'.drop inner)
            if 0 < length then put .other length
            else { s with unfinished := some ⟨q, ⟨row, start⟩, t'⟩ }
          else
            let length := lineTextLength q.mark inner (t'.drop inner)
            if 0 < length then
              if (t'.take length).getLast? = some (CodePoint.char '\n') then
                { s with unfinished := some ⟨q, ⟨row, start⟩, t'⟩, isStrict := true }
              else put .other length
            else word t' column (t.take (start - column)) c s go
        | Option.none => word t' column (t.take (start - column)) c s go
where
  /-- A name, or a single character. Blanks before a character that starts no lexeme are lexemes
  too. -/
  word (t' : Text) (column : Nat) (blanks : Text) (c : CodePoint) (s : Scan) (go : Nat → Scan → Scan) :
      Scan :=
    let length := (t'.takeWhile isWordChar).length
    if 0 < length then
      go length (s.put (if isNameStart c then .name else .other) (t'.take length) row
        (column + blanks.length))
    else
      go 1 ((blanks ++ [c]).zipIdx.foldl (fun s (c, n) => s.put .other [c] row (column + n)) s)

/-- The width of a margin, behind `width` columns. A tab goes to the next multiple of eight, and a form
feed starts anew. -/
def marginWidth (width : Nat) : Text → Nat
  | [] => width
  | c :: rest =>
    if c == ' ' then marginWidth (width + 1) rest
    else if c == '\t' then marginWidth ((width / 8 + 1) * 8) rest
    else if c == '\x0c' then marginWidth 0 rest
    else width

/-- The state behind the larger or smaller margin of a line. A smaller one is one of those before. -/
def Scan.withMargin (s : Scan) (row width : Nat) (margin : Text) : Except Flaw Scan :=
  let top := s.margins.headD 0
  if top < width then
    .ok { s.put .indent margin row 0 with margins := width :: s.margins }
  else if width < top && !s.margins.contains width then .error (.unindent row)
  else
    let closed := s.margins.takeWhile (width < ·)
    let place : Place := ⟨row, margin.length⟩
    .ok { closed.foldl (fun s _ => s.add .dedent [] place place) s with
      margins := s.margins.drop closed.length }

/-- The state behind a line without content: a comment, if there is one, and its end. -/
def Scan.withoutContent (s : Scan) (row column : Nat) (t : Text) : Scan :=
  let comment := if t.head? = some (CodePoint.char '#') then
      (t.reverse.dropWhile fun (c : CodePoint) => c == '\r' || c == '\n').reverse else []
  let s := if comment.isEmpty then s else s.put .other comment row column
  s.put .lineEnd (t.drop comment.length) row (column + comment.length)

def goesOn (line : Text) : Bool :=
  ("\\\n" : Text).isSuffixOf line || ("\\\r\n" : Text).isSuffixOf line

def Scan.withText (s : Scan) (u : Unfinished) (row : Nat) (line : Text) : Scan :=
  let length := closingLength u.quote 0 line
  if 0 < length then
    let s := { s.add .other (u.text ++ line.take length) u.start ⟨row, length⟩ with
      unfinished := Option.none, isStrict := false }
    scanLine row (line.length + 1) length (line.drop length) s
  else if s.isStrict && !goesOn line then
    { s.add .other (u.text ++ line) u.start ⟨row, line.length⟩ with unfinished := Option.none }
  else { s with unfinished := some { u with text := u.text ++ line } }

/-- The state behind all lines, with the number of the line behind them and the last one. A last line
of blanks only does not count. -/
def scanLines : (row : Nat) → (last : Text) → List Text → Scan → Except Flaw (Nat × Text × Scan)
  | row, last, [], s =>
    match s.unfinished with
    | some u => .error (.openText u.start)
    | Option.none =>
      if s.depth = 0 && !s.isJoined then .ok (row, last, s) else .error (.openBracket row)
  | row, last, line :: rest, s =>
    match s.unfinished with
    | some u => scanLines (row + 1) line rest (s.withText u row line)
    | Option.none =>
      if s.depth = 0 && !s.isJoined then
        let margin := line.takeWhile isLineBlank
        let content := line.drop margin.length
        match content with
        | [] => .ok (row, last, s)
        | c :: _ =>
          if c == '#' || c == '\r' || c == '\n' then
            scanLines (row + 1) line rest (s.withoutContent row margin.length content)
          else
            match s.withMargin row (marginWidth 0 margin) margin with
            | .error flaw => .error flaw
            | .ok s =>
              scanLines (row + 1) line rest
                (scanLine row (line.length + 1) margin.length content s)
      else
        scanLines (row + 1) line rest
          (scanLine row (line.length + 1) 0 line { s with isJoined := false })

def linesOf (t : Text) : List Text :=
  let lines := Text.split '\n' t
  (lines.dropLast.map (· ++ [CodePoint.char '\n'])) ++ (lines.getLast?.toList.filter (!·.isEmpty))

def lacksEnd (last : Text) : Bool :=
  last.getLast?.any (fun (c : CodePoint) => c != '\r' && c != '\n') &&
    (Text.trim last).head? != some (CodePoint.char '#')

def scan (t : Text) : Except Flaw (List Lexeme) := do
  let (row, last, s) ← scanLines 1 [] (linesOf t) {}
  let s := if lacksEnd last then
      s.add .lineEnd [] ⟨row - 1, last.length⟩ ⟨row - 1, last.length + 1⟩ else s
  return s.done.reverse

end Lexeme

end ServoScript.Literal
