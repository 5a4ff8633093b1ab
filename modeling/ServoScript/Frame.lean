import ServoScript.Json.Order
import ServoScript.Word

/-!
# Frames and sequences

A frame is a named posture: a target for each of the first channels, held for a duration. A sequence
is a named list of frames. Channels that a frame does not mention have the target zero.
-/

namespace ServoScript

/-- What the machine has room for. A list always has room for the targets of a device, and never for
as many items as a word can count. -/
class Memory where
  /-- The number of items from which on there is no room for a list. -/
  items : Int
  /-- The number of octets from which on there is no room for an array. -/
  octets : Nat
  items_gt : 24 < items
  items_le : items ≤ Json.wordBound

abbrev Memory.least : Memory where
  items := 25
  octets := 0
  items_gt := by decide
  items_le := by decide

/-- The target of a channel; zero before the first and behind the last. -/
def targetAt (targets : List Int) : Int → Int
  | .ofNat channel => targets.getD channel 0
  | .negSucc _ => 0

/-- A named posture, held for a duration in milliseconds. -/
structure Frame where
  name : Text
  duration : Int
  targets : List Int
  deriving DecidableEq, Inhabited

structure Sequence where
  name : Text
  frames : List Frame
  deriving DecidableEq, Inhabited

namespace Frame

def maxNameLength : Nat := 80

def target (f : Frame) (channel : Int) : Int :=
  targetAt f.targets channel

def targetsText (targets : List Int) : Text :=
  List.intercalate [CodePoint.char ' '] (targets.map Text.ofInt)

/-- Exactly `count` targets from a text of words: the first words, zero for those that are no 16-bit
word, and zeros up to the count. -/
def targetsOfText (count : Nat) (t : Text) : List Int :=
  let values := ((Text.words t).take count).map fun word => (Word.parseD word 0 : Int)
  values ++ List.replicate (count - values.length) 0

/-- The number of targets that a count asks for: none, if it is negative. -/
def targetCount [Memory] (count : Int) : Except Fault Nat :=
  if Json.wordBound ≤ count then .error .hugeCount
  else if Memory.items ≤ count then .error .noRoom
  else .ok count.toNat

end Frame

namespace Sequence

def duration (s : Sequence) : Int :=
  (s.frames.map Frame.duration).foldr (· + ·) 0

end Sequence

end ServoScript
