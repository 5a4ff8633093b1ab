import ServoScript.Text.Normal
import ServoScript.Url.Host.Table
import ServoScript.Url.Punycode

/-!
# Names of hosts

The name of a host has labels with points between them. Inside the network it has basic characters
only: a label with others is brought into its normal form and then written by a code behind a mark.
-/

namespace ServoScript.Host

inductive Flaw where
  /-- A label that is empty or too long. -/
  | label
  /-- The last label of a basic name is too long. -/
  | lastLabel
  /-- A character may not stand in a name. -/
  | prohibited (n : Nat)
  /-- A label is written in both directions. -/
  | mixed
  /-- A label that is written from right to left does not start or end with a letter. -/
  | unframed
  /-- A label has the mark of a code, but is none. -/
  | marked
  /-- A code stands for no label. -/
  | code (flaw : Punycode.Flaw)
  /-- The label of a code has another code. -/
  | changed (given back : Text)

def Flaw.octets (t : Text) : Text :=
  'b' :: Text.quoted t

def Flaw.message (activity : Text) : Flaw → Text
  | .label => wrap "label empty or too long"
  | .lastLabel => wrap "label too long"
  | .prohibited n => wrap ("Invalid character " ++ Codes.quoted [n])
  | .mixed => wrap "Violation of BIDI requirement 2"
  | .unframed => wrap "Violation of BIDI requirement 3"
  | .marked => wrap "Label starts with ACE prefix"
  | .code flaw =>
    wrap ("decoding with 'punycode' codec failed (UnicodeError: " ++ flaw.message ++ ")")
  | .changed given back =>
    "('IDNA does not round-trip', " ++ octets given ++ ", " ++ octets back ++ ")"
where
  wrap (reason : Text) : Text :=
    activity ++ " with 'idna' codec failed (UnicodeError: " ++ reason ++ ")"

def codeMark : Text := "xn--"

def isPoint (c : CodePoint) : Bool :=
  c == '.' || c == '\u3002' || c == '\uff0e' || c == '\uff61'

def labelBound : Nat := 64

def isBasic (t : Text) : Bool :=
  t.all fun c => c.toNat < 0x80

def checkLength (label : Text) : Except Flaw Text :=
  if 0 < label.length && label.length < labelBound then .ok label else .error .label

def isProhibited (n : Nat) : Bool :=
  Text.inRanges n prohibitedRanges

/-- Checks the direction of a label: one with letters that are written from right to left starts and
ends with such letters, and has none for the other direction. -/
def checkDirection (label : Codes) : Except Flaw Unit :=
  let isLeftward (n : Nat) : Bool := Text.inRanges n leftwardRanges
  if !label.any isLeftward then .ok ()
  else if label.any fun n => Text.inRanges n rightwardRanges then .error .mixed
  else if label.head?.any isLeftward && label.getLast?.any isLeftward then .ok ()
  else .error .unframed

/-- The prepared form of a label: characters that count as others are replaced. -/
def prepare (label : Codes) : Except Flaw Codes := do
  let label := Text.normal (label.flatMap fun n => (Run.find? folding n).getD [n])
  match label.find? isProhibited with
  | some n => .error (.prohibited n)
  | none =>
    checkDirection label
    .ok label

def basicText (codes : Codes) : Text :=
  codes.map CodePoint.ofNat

def encodeLabel (label : Codes) : Except Flaw Text := do
  if label.isBasic then checkLength (basicText label)
  else
    let label ← prepare label
    if label.isBasic then checkLength (basicText label)
    else if (Codes.ofText codeMark).isPrefixOf label then .error .marked
    else checkLength (codeMark ++ basicText (Punycode.encode label))

/-- A name in basic characters. One that has no others stays as it is, and its last label may be
empty. -/
def encode (host : Text) : Except Flaw Text := do
  let labels := Text.splitWhere isPoint host
  let last := labels.getLastD []
  if isBasic host then
    let _ ← labels.dropLast.mapM checkLength
    if last.length < labelBound then .ok host else .error .lastLabel
  else
    let labels ← (if last.isEmpty then labels.dropLast else labels).mapM fun label =>
      encodeLabel (Codes.ofText label)
    .ok (List.intercalate ("." : Text) labels ++ (if last.isEmpty then ("." : Text) else []))

def decodeLabel (label : Text) : Except Flaw Codes :=
  if !codeMark.isPrefixOf label then .ok (Codes.ofText label)
  else match Punycode.decode (label.drop codeMark.length) with
    | .error flaw => .error (.code flaw)
    | .ok result => do
      let back ← encodeLabel result
      if label.map CodePoint.toLower = back then .ok result else .error (.changed label back)

/-- The small form of a letter, if that is basic. Other letters become small when a label is
prepared. -/
def small (c : CodePoint) : CodePoint :=
  if c == '\u212a' then 'k' else c.toLower

def contains (part : Text) : Text → Bool
  | [] => part.isEmpty
  | c :: rest => part.isPrefixOf (c :: rest) || contains part rest

def decode (host : Text) : Except Flaw Codes := do
  if !contains codeMark host then .ok (Codes.ofText host)
  else
    let labels := Text.split '.' host
    let isClosed := (labels.getLastD []).isEmpty
    let labels ← (if isClosed then labels.dropLast else labels).mapM decodeLabel
    .ok (List.intercalate ['.'.toNat] labels ++ (if isClosed then ['.'.toNat] else []))

end ServoScript.Host
