import ServoScript.Text.Quoted

/-!
# Unpacking

Packed octets are a row of blocks. A block is a copy of octets, or codes for octets and for the
repetition of octets further back. The codes have different lengths, which are fixed or told at the
start of the block.
-/

namespace ServoScript.Archive.Inflate

inductive Flaw where
  | blockKind
  | copyLength
  | manySymbols
  | lengthCodes
  | lengthRepeat
  | noBlockEnd
  | symbolCodes
  | distanceCodes
  | symbol
  | distance
  | farDistance
  deriving DecidableEq

def Flaw.message (flaw : Flaw) : Text :=
  let reason : Text := match flaw with
    | .blockKind => "invalid block type"
    | .copyLength => "invalid stored block lengths"
    | .manySymbols => "too many length or distance symbols"
    | .lengthCodes => "invalid code lengths set"
    | .lengthRepeat => "invalid bit length repeat"
    | .noBlockEnd => "invalid code -- missing end-of-block"
    | .symbolCodes => "invalid literal/lengths set"
    | .distanceCodes => "invalid distances set"
    | .symbol => "invalid literal/length code"
    | .distance => "invalid distance code"
    | .farDistance => "invalid distance too far back"
  "Error -3 while decompressing data: " ++ reason

/-! ## Bits -/

def bitsOf (octets : List UInt8) : List Bool :=
  octets.flatMap fun octet => (List.range 8).map fun n => octet.toNat.testBit n

def numberOf (bits : List Bool) : Nat :=
  bits.foldr (fun bit n => bit.toNat + 2 * n) 0

def takeNumber (count : Nat) (bits : List Bool) : Option (Nat × List Bool) :=
  let taken := bits.take count
  if taken.length < count then none else some (numberOf taken, bits.drop count)

/-! ## Codes -/

/-- The codes of one length: the first code, and the symbols of the codes from it on. -/
structure Level where
  first : Nat
  symbols : List Nat

def maxLength : Nat := 15

def symbolsOf (lengths : List Nat) (length : Nat) : List Nat :=
  lengths.zipIdx.filterMap fun (l, symbol) => if l = length then some symbol else none

/-- The levels from a length on, behind the code `next`. Shorter codes come first, and codes of one
length are in the order of their symbols. -/
def levelsFrom (lengths : List Nat) : (fuel length next : Nat) → List Level
  | 0, _, _ => []
  | fuel + 1, length, next =>
    let symbols := symbolsOf lengths length
    ⟨next, symbols⟩ :: levelsFrom lengths fuel (length + 1) (2 * (next + symbols.length))

/-- The levels of codes with given lengths. A length of zero stands for no code. -/
def levels (lengths : List Nat) : List Level :=
  levelsFrom lengths maxLength 1 0

def taken (lengths : List Nat) : Nat :=
  (lengths.map fun l => if l = 0 then 0 else Nat.pow 2 (maxLength - l)).foldl (· + ·) 0

def isComplete (lengths : List Nat) : Bool :=
  taken lengths = Nat.pow 2 maxLength

/-- Whether codes are complete, or there is at most one, which is of one bit. -/
def isUsable (lengths : List Nat) : Bool :=
  isComplete lengths || (taken lengths < Nat.pow 2 maxLength && lengths.all (· ≤ 1))

/-- Takes a symbol: by level, one more bit each; nothing, if the bits end. The inner value is none if
no code fits. -/
def takeSymbol : (code : Nat) → List Level → List Bool → Option (Option Nat × List Bool)
  | _, [], bits => some (none, bits)
  | _, _ :: _, [] => none
  | code, level :: rest, bit :: bits =>
    let code := 2 * code + bit.toNat
    match if level.first ≤ code then level.symbols[code - level.first]? else none with
    | some symbol => some (some symbol, bits)
    | none => takeSymbol code rest bits

/-! ## Lengths and distances -/

/-- The lengths of repetitions by symbol: the least one, and the number of bits that add to it. -/
def repeatLengths : List (Nat × Nat) :=
  [(3, 0), (4, 0), (5, 0), (6, 0), (7, 0), (8, 0), (9, 0), (10, 0), (11, 1), (13, 1), (15, 1),
    (17, 1), (19, 2), (23, 2), (27, 2), (31, 2), (35, 3), (43, 3), (51, 3), (59, 3), (67, 4),
    (83, 4), (99, 4), (115, 4), (131, 5), (163, 5), (195, 5), (227, 5), (258, 0)]

/-- The distances by symbol: the least one, and the number of bits that add to it. -/
def distances : List (Nat × Nat) :=
  [(1, 0), (2, 0), (3, 0), (4, 0), (5, 1), (7, 1), (9, 2), (13, 2), (17, 3), (25, 3), (33, 4),
    (49, 4), (65, 5), (97, 5), (129, 6), (193, 6), (257, 7), (385, 7), (513, 8), (769, 8),
    (1025, 9), (1537, 9), (2049, 10), (3073, 10), (4097, 11), (6145, 11), (8193, 12), (12289, 12),
    (16385, 13), (24577, 13)]

/-- The output with `length` octets from `distance` back, one after the other. -/
def copyBack (distance : Nat) : (length : Nat) → Array UInt8 → Array UInt8
  | 0, out => out
  | length + 1, out => copyBack distance length (out.push (out.getD (out.size - distance) 0))

/-! ## Blocks -/

/-- The outcome of a part: where the bits end early, the output so far is all there is. -/
inductive Outcome where
  | more (out : Array UInt8) (bits : List Bool)
  | ended (out : Array UInt8)

def blockEnd : Nat := 256

def codes (symbols places : List Level) : (fuel : Nat) → Array UInt8 → List Bool →
    Except Flaw Outcome
  | 0, out, _ => .ok (.ended out)
  | fuel + 1, out, bits =>
    match takeSymbol 0 symbols bits with
    | none => .ok (.ended out)
    | some (none, _) => .error .symbol
    | some (some symbol, bits) =>
      if symbol < blockEnd then codes symbols places fuel (out.push (UInt8.ofNat symbol)) bits
      else if symbol = blockEnd then .ok (.more out bits)
      else match repeatLengths[symbol - blockEnd - 1]? with
        | none => .error .symbol
        | some (least, extra) =>
          match takeNumber extra bits with
          | none => .ok (.ended out)
          | some (more, bits) =>
            let length := least + more
            match takeSymbol 0 places bits with
            | none => .ok (.ended out)
            | some (none, _) => .error .distance
            | some (some symbol, bits) =>
              match distances[symbol]? with
              | none => .error .distance
              | some (least, extra) =>
                match takeNumber extra bits with
                | none => .ok (.ended out)
                | some (more, bits) =>
                  let distance := least + more
                  if out.size < distance then .error .farDistance
                  else codes symbols places fuel (copyBack distance length out) bits

def fixedLengths : List Nat :=
  List.replicate 144 8 ++ List.replicate 112 9 ++ List.replicate 24 7 ++ List.replicate 8 8

def fixedDistances : List Nat :=
  List.replicate 32 5

def lengthOrder : List Nat :=
  [16, 17, 18, 0, 8, 7, 9, 6, 10, 5, 11, 4, 12, 3, 13, 2, 14, 1, 15]

def takeTriples : (count : Nat) → List Bool → Option (List Nat × List Bool)
  | 0, bits => some ([], bits)
  | count + 1, bits => do
    let (n, bits) ← takeNumber 3 bits
    let (rest, bits) ← takeTriples count bits
    return (n :: rest, bits)

/-- Takes lengths of codes up to `count` of them, behind the reverse of `done`; nothing, if the bits
end. -/
def takeLengths (count : Nat) (coding : List Level) : (fuel : Nat) → (done : List Nat) →
    List Bool → Except Flaw (Option (List Nat × List Bool))
  | 0, _, _ => .ok none
  | fuel + 1, done, bits =>
    if count ≤ done.length then .ok (some (done.reverse, bits))
    else match takeSymbol 0 coding bits with
      | none => .ok none
      | some (none, _) => .error .lengthCodes
      | some (some symbol, bits) =>
        if symbol < 16 then takeLengths count coding fuel (symbol :: done) bits
        else
          let (extra, least) := if symbol = 16 then (2, 3) else if symbol = 17 then (3, 3) else (7, 11)
          match takeNumber extra bits with
          | none => .ok none
          | some (more, bits) =>
            let times := least + more
            if (symbol = 16 && done.isEmpty) || count < done.length + times then
              .error .lengthRepeat
            else
              let length := if symbol = 16 then done.headD 0 else 0
              takeLengths count coding fuel (List.replicate times length ++ done) bits

/-- The codes that a block tells at its start; nothing, if the bits end. -/
def toldCodes (bits : List Bool) : Except Flaw (Option (List Level × List Level × List Bool)) :=
  match takeNumber 5 bits with
  | none => .ok none
  | some (a, bits) => match takeNumber 5 bits with
    | none => .ok none
    | some (b, bits) => match takeNumber 4 bits with
      | none => .ok none
      | some (c, bits) =>
        let symbolCount := a + 257
        let distanceCount := b + 1
        if 286 < symbolCount || 30 < distanceCount then .error .manySymbols
        else match takeTriples (c + 4) bits with
          | none => .ok none
          | some (triples, bits) =>
            let lengthOf (symbol : Nat) : Nat :=
              ((lengthOrder.zip triples).lookup symbol).getD 0
            let lengths := (List.range 19).map lengthOf
            if !isComplete lengths then .error .lengthCodes
            else do
              let total := symbolCount + distanceCount
              match ← takeLengths total (levels lengths) (total + 1) [] bits with
              | none => .ok none
              | some (all, bits) =>
                let symbols := all.take symbolCount
                let places := all.drop symbolCount
                if symbols.getD blockEnd 0 = 0 then .error .noBlockEnd
                else if !isUsable symbols then .error .symbolCodes
                else if !isUsable places then .error .distanceCodes
                else .ok (some (levels symbols, levels places, bits))

/-- Unpacks a copy of octets, which starts with a whole octet. -/
def copied (out : Array UInt8) (bits : List Bool) : Except Flaw Outcome :=
  let bits := bits.drop (bits.length % 8)
  match takeNumber 16 bits with
  | none => .ok (.ended out)
  | some (length, bits) => match takeNumber 16 bits with
    | none => .ok (.ended out)
    | some (check, bits) =>
      if length + check ≠ 0xFFFF then .error .copyLength
      else
        let available := min length (bits.length / 8)
        let out := (List.range available).foldl
          (fun (state : Array UInt8 × List Bool) _ =>
            (state.1.push (UInt8.ofNat (numberOf (state.2.take 8))), state.2.drop 8)) (out, bits)
        if available < length then .ok (.ended out.1) else .ok (.more out.1 out.2)

def block (kind : Nat) (out : Array UInt8) (bits : List Bool) : Except Flaw Outcome := do
  match kind with
  | 0 => copied out bits
  | 1 => codes (levels fixedLengths) (levels fixedDistances) (bits.length + 1) out bits
  | 2 =>
    match ← toldCodes bits with
    | none => .ok (.ended out)
    | some (symbols, places, bits) => codes symbols places (bits.length + 1) out bits
  | _ => .error .blockKind

def blocks : (fuel : Nat) → Array UInt8 → List Bool → Except Flaw (Array UInt8)
  | 0, out, _ => .ok out
  | fuel + 1, out, bits =>
    match takeNumber 1 bits with
    | none => .ok out
    | some (last, bits) => match takeNumber 2 bits with
      | none => .ok out
      | some (kind, bits) => do
        match ← block kind out bits with
        | .ended out => .ok out
        | .more out bits => if last = 1 then .ok out else blocks fuel out bits

def unpack (octets : List UInt8) : Except Flaw (List UInt8) :=
  (blocks (8 * octets.length + 1) #[] (bitsOf octets)).map Array.toList

end ServoScript.Archive.Inflate
