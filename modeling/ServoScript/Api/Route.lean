import ServoScript.Api
import ServoScript.Text.Case

/-!
# Routes

The paths of the request interface, and the methods that each of them answers.
-/

namespace ServoScript

/-- The paths of the interface. An index is kept as it is written. -/
inductive Route where
  | status
  | loadConfig
  | loadSequences
  | saveSequences
  | sequences
  | sequence (index : Text)
  | frames (index : Text)
  | clipboard (index : Text)
  | script (index : Text)
  | subroutines
  /-- A file beside the interface. There are none. -/
  | asset

inductive Method where
  | get
  | post
  | delete
  | head
  | options
  | other
  deriving DecidableEq

namespace Method

def ofText (t : Text) : Method :=
  let name := Text.capitals t
  if name = "GET" then .get
  else if name = "POST" then .post
  else if name = "DELETE" then .delete
  else if name = "HEAD" then .head
  else if name = "OPTIONS" then .options
  else .other

/-- Whether a request with a method is answered where `answered` is. All tell their methods, and who
answers GET answers HEAD too. -/
def fits (answered method : Method) : Bool :=
  method = answered || method = .options || (method = .head && answered = .get)

end Method

namespace Route

def isIndex (part : Text) : Bool :=
  !part.isEmpty && part.all fun c => (Text.digitValue? c).isSome

def isPart (part : Text) (name : String) : Bool :=
  part == (name : Text)

/-- Whether the parts of a path behind a folder name a file in it: they do not start with a slash, and
all is on one line but perhaps the first character. -/
def isFileName (parts : List Text) : Bool :=
  match List.intercalate [CodePoint.char '/'] parts with
  | [] => false
  | c :: rest => c != '/' && !rest.contains '\n'

def ofParts : List Text → Option Route
  | a :: rest =>
    if isPart a "static" then (if isFileName rest then some .asset else none)
    else if !isPart a "api" then none
    else match rest with
      | [b] =>
        if isPart b "status" then some .status
        else if isPart b "load_config" then some .loadConfig
        else if isPart b "load_sequences" then some .loadSequences
        else if isPart b "save_sequences" then some .saveSequences
        else if isPart b "sequences" then some .sequences
        else none
      | [b, c] =>
        if isPart b "sequences" && isIndex c then some (.sequence c)
        else if isPart b "script" && isPart c "subroutines" then some .subroutines
        else none
      | [b, c, d] =>
        if !isPart b "sequences" || !isIndex c then none
        else if isPart d "frames" then some (.frames c)
        else if isPart d "clipboard" then some (.clipboard c)
        else if isPart d "script" then some (.script c)
        else none
      | _ => none
  | [] => none

def methods : Route → List Method
  | .status => [.get]
  | .loadConfig => [.post]
  | .loadSequences => [.post]
  | .saveSequences => [.post]
  | .sequences => [.get, .post]
  | .sequence _ => [.get, .delete]
  | .frames _ => [.post]
  | .clipboard _ => [.get, .post]
  | .script _ => [.get]
  | .subroutines => [.get]
  | .asset => [.get]

/-- The index that a part of a path gives a handler. One with too many digits is not read. -/
def indexOf (part : Text) : Except Nat Int :=
  match Numeral.readUnsigned part with
  | .ok n => .ok n
  | .error _ => .error 500

def handler (method : Method) : Route → Except Nat Handler
  | .status => .ok .status
  | .loadConfig => .ok .loadConfig
  | .loadSequences => .ok .loadSequences
  | .saveSequences => .ok .saveSequences
  | .sequences => .ok (if method = .get then .listSequences else .addSequence)
  | .sequence index =>
    (indexOf index).map fun n => if method = .get then .getSequence n else .deleteSequence n
  | .frames index => (indexOf index).map .appendFrame
  | .clipboard index =>
    (indexOf index).map fun n => if method = .get then .exportClipboard n else .importClipboard n
  | .script index => (indexOf index).map .loopedScript
  | .subroutines => .ok .subroutineListing
  | .asset => .error 404

end Route

end ServoScript
