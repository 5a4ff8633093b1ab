import ServoScript.Literal.Lexeme

/-!
# The notation of old files

Old files have a letter behind long integers. A text is taken apart and put together again without
these letters. Blanks between two parts become spaces, and lines between them joined ones.
-/

namespace ServoScript.Literal

namespace Lexeme

/-- The lexemes without the letters behind numbers. -/
def withoutLetters (behindNumber : Bool) : List Lexeme → List Lexeme
  | [] => []
  | lexeme :: rest =>
    if behindNumber && lexeme.role = .name && lexeme.text = ("L" : Text) then withoutLetters true rest
    else lexeme :: withoutLetters (lexeme.role = .number) rest

/-- The state of writing lexemes: the place behind the last one, the margins, the largest first, and
whether a line starts. -/
structure Writing where
  row : Nat := 1
  column : Nat := 0
  margins : List Text := []
  isLineStart : Bool := false

def gap (w : Writing) (place : Place) : Except Flaw Text :=
  if place.row < w.row || (place.row = w.row && place.column < w.column) then
    .error (.overlap place ⟨w.row, w.column⟩)
  else
    let rows := place.row - w.row
    let column := if rows = 0 then w.column else 0
    .ok ((List.replicate rows ("\\\n" : Text)).flatten ++
      List.replicate (place.column - column) (CodePoint.char ' '))

def lineMargin (w : Writing) (lexeme : Lexeme) : Text × Writing :=
  match w.isLineStart, w.margins with
  | true, margin :: _ =>
    let w := { w with isLineStart := false }
    if margin.length ≤ lexeme.start.column then (margin, { w with column := margin.length })
    else ([], w)
  | _, _ => ([], w)

def write (w : Writing) : List Lexeme → Except Flaw Text
  | [] => .ok []
  | lexeme :: rest =>
    match lexeme.role with
    | .indent => write { w with margins := lexeme.text :: w.margins } rest
    | .dedent =>
      write { w with
        margins := w.margins.drop 1, row := lexeme.stop.row, column := lexeme.stop.column } rest
    | .lineEnd => do
      let blanks ← gap w lexeme.start
      let others ←
        write { w with row := lexeme.stop.row + 1, column := 0, isLineStart := true } rest
      return blanks ++ lexeme.text ++ others
    | _ => do
      let (margin, w) := lineMargin w lexeme
      let blanks ← gap w lexeme.start
      let others ← write { w with row := lexeme.stop.row, column := lexeme.stop.column } rest
      return margin ++ blanks ++ lexeme.text ++ others

end Lexeme

/-- A text without the letters that old files have behind numbers. -/
def withoutLetters (t : Text) : Except Lexeme.Flaw Text := do
  Lexeme.write {} (Lexeme.withoutLetters false (← Lexeme.scan t))

end ServoScript.Literal
