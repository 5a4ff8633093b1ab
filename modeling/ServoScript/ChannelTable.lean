import ServoScript.Text.Case
import ServoScript.Word

/-!
# Channel tables

Which channels a device has, what they are called and what they are used for. A table is read from a
configuration of any shape; whatever is missing or makes no sense has a default.
-/

namespace ServoScript

inductive Mode where
  | servo
  | servoMultiplied
  | output
  | input
  deriving DecidableEq, Inhabited

namespace Mode

def all : List Mode := [.servo, .servoMultiplied, .output, .input]

def label : Mode → Text
  | .servo => "servo"
  | .servoMultiplied => "servo_multiplied"
  | .output => "output"
  | .input => "input"

def isServo : Mode → Bool
  | .servo => true
  | .servoMultiplied => true
  | _ => false

/-- A text as it is compared with the names of modes. -/
def normalize (t : Text) : Text :=
  Text.replace ' ' '_' (Text.lower (Text.trim t))

/-- The mode that a text names; an unknown one is a servo. -/
def ofText (t : Text) : Mode :=
  (all.find? fun mode => mode.label == normalize t).getD .servo

def ofEntry (entry : Json.Members) : Mode :=
  match Json.member? "mode" entry with
  | none => .servo
  | some v => ofText v.toText

end Mode

structure Channel where
  name : Text
  mode : Mode
  deriving DecidableEq, Inhabited

/-- The channels of a device, by number from zero on. -/
structure ChannelTable where
  channels : List Channel
  deriving DecidableEq, Inhabited

namespace ChannelTable

def defaultSize : Int := 6

def maxSize : Int := 24

def sizeOf (config : Json.Members) : Nat :=
  let asked := match (Json.member? "servo_count" config).map Json.toInt with
    | some (.ok n) => n
    | _ => defaultSize
  (Word.clamp 1 maxSize asked).toNat

/-- The entry of a channel; empty, if the list has no object there. -/
def entryAt (items : List Json) (channel : Nat) : Json.Members :=
  match items[channel]? with
  | some (.object entry) => entry
  | _ => []

def channelOf (number : Nat) (entry : Json.Members) : Channel :=
  let name := match Json.member? "name" entry with
    | some v => if v.isGiven then v.toText else "Channel " ++ Text.ofNat number
    | none => "Channel " ++ Text.ofNat number
  ⟨name, Mode.ofEntry entry⟩

def entriesOf (config : Json.Members) : List Json :=
  match Json.member? "channels" config with
  | some (.list items) => items
  | _ => []

def ofConfig (config : Json.Members) : ChannelTable :=
  let entries := entriesOf config
  ⟨(List.range (sizeOf config)).map fun number => channelOf number (entryAt entries number)⟩

def ofJson (v : Json) : Except Fault ChannelTable :=
  (v.toMembers "get").map ofConfig

def size (t : ChannelTable) : Nat :=
  t.channels.length

def channel? (t : ChannelTable) : Int → Option Channel
  | .ofNat number => t.channels[number]?
  | .negSucc _ => none

def name? (t : ChannelTable) (number : Int) : Option Text :=
  (t.channel? number).map Channel.name

def mode? (t : ChannelTable) (number : Int) : Option Mode :=
  (t.channel? number).map Channel.mode

def drives (t : ChannelTable) (number : Nat) : Bool :=
  (t.mode? number).any Mode.isServo

def enabled (t : ChannelTable) : List Int :=
  ((List.range t.size).filter t.drives).map Int.ofNat

end ChannelTable

end ServoScript
