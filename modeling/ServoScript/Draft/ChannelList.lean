import ServoScript.Script.Program

/-!
# Drafts of channel lists

Channel lists of any kind of value. Channels are read one by one, and only as far as an answer
needs them.
-/

namespace ServoScript

namespace ChannelList

def name (channels : Json) : Except Fault Text := do
  let count ← channels.length
  if count = 0 then .error .noChannels
  subroutineName (← channels.toInts)

/-- The subroutine of a channel list. An object is not read by position. -/
def subroutine (channels : Json) : Except Fault Text := do
  let _ ← name channels
  let channels ← match channels with
    | .object members => .error (.absentKey (members.length - 1))
    | v => v.toInts
  .ok (Script.text (← Script.channelSubroutine channels))

def sameItems : List Json → List Json → Except Fault Bool
  | a :: as, b :: bs => do
    let m ← a.toInt
    let n ← b.toInt
    if m = n then sameItems as bs else .ok false
  | _, _ => .ok true

/-- Whether two channel lists are the same. Lists of different lengths are told apart unread. -/
def same (a b : Json) : Except Fault Bool := do
  let m ← a.length
  let n ← b.length
  if m = n then sameItems (← a.items) (← b.items) else .ok false

def readable (items : List Json) : List Int :=
  (items.takeWhile fun v => v.toInt.isOk).filterMap fun v => v.toInt.toOption

end ChannelList

namespace Registry

/-- The place of a channel list. A channel that cannot be read counts only if a list of the same
length starts with those before it. -/
def findDraft? (r : Registry) (channels : Json) : Except Fault (Option Nat) :=
  if r.lists.isEmpty then .ok none
  else do
    let count ← channels.length
    match channels.toInts with
    | .ok channels => .ok (r.find? channels)
    | .error fault =>
      let start := ChannelList.readable (← channels.items)
      if r.lists.any fun list => list.length == count && start.isPrefixOf list then .error fault
      else .ok none

def containsDraft (r : Registry) (channels : Json) : Except Fault Bool :=
  match channels with
  | .list _ => (r.findDraft? channels).map Option.isSome
  | _ => .ok false

/-- Takes in a channel list and tells whether it is new. Its length is read only if there are lists to
compare it with. -/
def registerDraft (r : Registry) (channels : Json) : Except Fault Bool × Registry :=
  let read := do
    if !r.lists.isEmpty then
      let _ ← channels.length
    channels.toInts
  match read with
  | .error fault => (.error fault, r)
  | .ok channels => r.register channels

/-- The registry of a value's channel lists; of none, if none are given. -/
def ofDraft (lists : Json) : Except Fault Registry := do
  let lists ← if lists.isGiven then lists.items else .ok []
  lists.foldlM (fun r channels =>
    let (isNew, r) := r.registerDraft channels
    isNew.map fun _ => r) .empty

end Registry

end ServoScript
