import ServoScript.Text.Decimal

/-!
# UTF-8

Octets as text. The decoder stops at the first octet that rules a well-formed text out and says
which octets form the broken sequence.
-/

namespace ServoScript.Utf8

inductive Reason where
  | start
  | continuation
  | truncated

/-- The octets `first..last` of the input, the first of which is `octet`, are no character. -/
structure Flaw where
  reason : Reason
  octet : Nat
  first : Nat
  last : Nat

/-- A character under way: it started at `first` with the octet `lead`, its bits so far are
`value`, `owed` octets are missing, and the next one lies in `low..high`. -/
structure Pending where
  first : Nat
  lead : Nat
  value : Nat
  owed : Nat
  low : Nat
  high : Nat

/-- The character that an octet starts, if it needs more than that octet. The bounds on the second
octet leave out overlong forms, surrogates and what lies beyond U+10FFFF. -/
def Pending.ofLead? (first lead : Nat) : Option Pending :=
  if 0xC2 ≤ lead && lead ≤ 0xDF then some ⟨first, lead, lead - 0xC0, 1, 0x80, 0xBF⟩
  else if lead == 0xE0 then some ⟨first, lead, 0, 2, 0xA0, 0xBF⟩
  else if lead == 0xED then some ⟨first, lead, 0xD, 2, 0x80, 0x9F⟩
  else if 0xE1 ≤ lead && lead ≤ 0xEF then some ⟨first, lead, lead - 0xE0, 2, 0x80, 0xBF⟩
  else if lead == 0xF0 then some ⟨first, lead, 0, 3, 0x90, 0xBF⟩
  else if 0xF1 ≤ lead && lead ≤ 0xF3 then some ⟨first, lead, lead - 0xF0, 3, 0x80, 0xBF⟩
  else if lead == 0xF4 then some ⟨first, lead, 4, 3, 0x80, 0x8F⟩
  else none

def replacement : CodePoint := '\ufffd'

/-- Decodes the octets from `position` on, behind the reverse of `done` and the character `pending`. -/
def decodeFrom (position : Nat) (pending : Option Pending) (done : Text) :
    List UInt8 → Except Flaw Text
  | [] =>
    match pending with
    | none => .ok done.reverse
    | some p => .error ⟨.truncated, p.lead, p.first, position - 1⟩
  | octet :: rest =>
    match pending with
    | none =>
      if octet.toNat < 0x80 then
        decodeFrom (position + 1) none (Char.ofNat octet.toNat :: done) rest
      else match Pending.ofLead? position octet.toNat with
        | none => .error ⟨.start, octet.toNat, position, position⟩
        | some p => decodeFrom (position + 1) (some p) done rest
    | some p =>
      if p.low ≤ octet.toNat && octet.toNat ≤ p.high then
        let value := 64 * p.value + (octet.toNat - 0x80)
        if p.owed ≤ 1 then decodeFrom (position + 1) none (Char.ofNat value :: done) rest
        else
          let next : Pending := ⟨p.first, p.lead, value, p.owed - 1, 0x80, 0xBF⟩
          decodeFrom (position + 1) (some next) done rest
      else .error ⟨.continuation, p.lead, p.first, position - 1⟩

def decode (octets : List UInt8) : Except Flaw Text :=
  decodeFrom 0 none [] octets

/-- Decodes octets behind the character `pending` with a replacement character for every sequence
that is no character. The octet that breaks a sequence off is looked at again. -/
def decodeLossyFrom (pending : Option Pending) : List UInt8 → Text
  | [] => if pending.isSome then [replacement] else []
  | octet :: rest =>
    let fresh (_ : Unit) : Text × Option Pending :=
      if octet.toNat < 0x80 then ([Char.ofNat octet.toNat], none)
      else match Pending.ofLead? 0 octet.toNat with
        | none => ([replacement], none)
        | some p => ([], some p)
    let (done, pending) : Text × Option Pending := match pending with
      | none => fresh ()
      | some p =>
        if p.low ≤ octet.toNat && octet.toNat ≤ p.high then
          let value := 64 * p.value + (octet.toNat - 0x80)
          if p.owed ≤ 1 then ([Char.ofNat value], none)
          else ([], some ⟨p.first, p.lead, value, p.owed - 1, 0x80, 0xBF⟩)
        else
          let (done, next) := fresh ()
          (replacement :: done, next)
    done ++ decodeLossyFrom pending rest

def decodeLossy (octets : List UInt8) : Text :=
  decodeLossyFrom none octets

/-- The octets of a code point. A half is no character, but has the octets that its number would give. -/
def octetsOf : CodePoint → List UInt8
  | .char c => String.utf8EncodeChar c
  | .half n => [0xED, UInt8.ofNat (0xA0 + n / 0x40), UInt8.ofNat (0x80 + n % 0x40)]

def encode (t : Text) : List UInt8 :=
  t.flatMap octetsOf

def Reason.message : Reason → Text
  | .start => "invalid start byte"
  | .continuation => "invalid continuation byte"
  | .truncated => "unexpected end of data"

def Flaw.message (f : Flaw) : Text :=
  let place : Text :=
    if f.first = f.last then
      "byte 0x" ++ Text.hex 2 f.octet ++ " in position " ++ Text.ofNat f.first
    else "bytes in position " ++ Text.ofNat f.first ++ "-" ++ Text.ofNat f.last
  "'utf-8' codec can't decode " ++ place ++ ": " ++ f.reason.message

end ServoScript.Utf8
