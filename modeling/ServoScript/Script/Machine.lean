import ServoScript.Update

/-!
# The machine that runs scripts

A device with a stack of integers and a target for every channel. It reads a script line by line,
without comments, word by word. `Code.ofTokens` reads a script into
a loop and subroutines; `Machine.exec` runs instructions, one `Machine.step` for each. Every write to
a channel is recorded, and every delay with the targets that hold during it.
-/

namespace ServoScript

namespace Script

def withoutComment (line : Text) : Text :=
  line.takeWhile (· != CodePoint.char '#')

def lineTokens (line : Text) : List Text :=
  Text.words (withoutComment line)

def tokens (script : Text) : List Text :=
  (Text.split '\n' script).flatMap lineTokens

end Script

inductive Instruction where
  | push (n : Int)
  /-- Takes a channel and then a target from the stack, and sets the channel. -/
  | set
  /-- Takes a duration from the stack, and waits. -/
  | delay
  | call (name : Text)
  deriving DecidableEq

namespace Instruction

/-- The integer that a token is a literal of: ASCII digits with an optional minus sign. -/
def literal? (token : Text) : Option Int :=
  let (negative, digits) := match token with
    | '-' :: rest => (true, rest)
    | token => (false, token)
  if digits.isEmpty || !digits.all Text.isDigit then none
  else some (if negative then -(Text.natOfDigits digits : Int) else Text.natOfDigits digits)

def ofToken (token : Text) : Instruction :=
  match literal? token with
  | some n => .push n
  | none =>
    if token = "servo" then .set
    else if token = "delay" then .delay
    else .call token

end Instruction

/-- A script that has been read. -/
structure Code where
  /-- What stands outside of all blocks. It runs before the loop. -/
  entry : List Instruction
  /-- The body of the first loop; a second one is never reached. -/
  loop : Option (List Instruction)
  /-- The subroutines in order. -/
  subroutines : List (Text × List Instruction)
  deriving DecidableEq

namespace Code

/-- What the reader is in the middle of. -/
inductive Scope where
  | outside
  | loop
  | header
  | subroutine (name : Text)

/-- Reads tokens within a scope; `body` is what it holds so far, from its last instruction to its
first. -/
def readFrom (code : Code) (scope : Scope) (body : List Instruction) : List Text → Code
  | [] => code
  | token :: rest =>
    match scope with
    | .header => readFrom code (.subroutine token) [] rest
    | .outside =>
      if token = "begin" then readFrom code .loop [] rest
      else if token = "sub" then readFrom code .header [] rest
      else
        readFrom ⟨code.entry ++ [Instruction.ofToken token], code.loop, code.subroutines⟩ .outside []
          rest
    | .loop =>
      if token = "repeat" then
        readFrom ⟨code.entry, code.loop <|> some body.reverse, code.subroutines⟩ .outside [] rest
      else readFrom code .loop (Instruction.ofToken token :: body) rest
    | .subroutine name =>
      if token = "return" then
        readFrom ⟨code.entry, code.loop, code.subroutines ++ [(name, body.reverse)]⟩ .outside [] rest
      else readFrom code (.subroutine name) (Instruction.ofToken token :: body) rest

def ofTokens (tokens : List Text) : Code :=
  readFrom ⟨[], none, []⟩ .outside [] tokens

def ofScript (script : Text) : Code :=
  ofTokens (Script.tokens script)

def subroutine? (code : Code) (name : Text) : Option (List Instruction) :=
  code.subroutines.lookup name

end Code

/-- A delay: its duration, and the targets that hold during it. -/
structure Pause where
  duration : Int
  targets : Int → Int

/-- The state of a device. The pauses and the writes are in the order in which they came. -/
structure Machine where
  stack : List Int
  targets : Int → Int
  pauses : List Pause
  writes : Update

namespace Machine

inductive Stop where
  | underflow
  | undefined (name : Text)
  | tooDeep
  | noLoop
  deriving DecidableEq

def setTarget (targets : Int → Int) (channel value : Int) : Int → Int :=
  fun c => if c = channel then value else targets c

def set (m : Machine) : Except Stop Machine :=
  match m.stack with
  | channel :: value :: stack =>
    .ok ⟨stack, setTarget m.targets channel value, m.pauses, m.writes ++ [(channel, value)]⟩
  | _ => .error .underflow

def delay (m : Machine) : Except Stop Machine :=
  match m.stack with
  | duration :: stack => .ok ⟨stack, m.targets, m.pauses ++ [⟨duration, m.targets⟩], m.writes⟩
  | _ => .error .underflow

/-- Runs one instruction; `call` runs a subroutine. -/
def step (call : Text → Machine → Except Stop Machine) (m : Machine) :
    Instruction → Except Stop Machine
  | .push n => .ok ⟨n :: m.stack, m.targets, m.pauses, m.writes⟩
  | .set => m.set
  | .delay => m.delay
  | .call name => call name m

/-- Runs a subroutine, with calls at most `depth` deep, its own included. -/
def call (code : Code) : (depth : Nat) → Text → Machine → Except Stop Machine
  | 0, _, _ => .error .tooDeep
  | depth + 1, name, m =>
    match code.subroutine? name with
    | none => .error (.undefined name)
    | some body => body.foldlM (step (call code depth)) m

/-- Runs instructions, with calls at most `depth` deep. -/
def exec (code : Code) (depth : Nat) (instructions : List Instruction) (m : Machine) :
    Except Stop Machine :=
  instructions.foldlM (step (call code depth)) m

def runLoop (code : Code) (depth : Nat) : (passes : Nat) → Machine → Except Stop Machine
  | 0, m => .ok m
  | passes + 1, m =>
    match code.loop with
    | none => .error .noLoop
    | some body => do runLoop code depth passes (← exec code depth body m)

def run (code : Code) (depth passes : Nat) (m : Machine) : Except Stop Machine := do
  runLoop code depth passes (← exec code depth code.entry m)

end Machine

end ServoScript
