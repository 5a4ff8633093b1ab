import ServoScript.Text.Numeral
import ServoScript.Url.Address
import ServoScript.Url.Host

/-!
# Addresses of resources

An address has a scheme, an authority, a path, a query and a fragment. It is taken apart by its marks
alone, but a host in brackets has to be a numeric address. The canonical form has its host in basic
characters and its port checked, and the readable form has the host that those stand for.
-/

namespace ServoScript

/-- The parts of an address. A missing part is empty. -/
structure Url where
  scheme : Text
  authority : Text
  path : Text
  query : Text
  fragment : Text
  deriving DecidableEq

namespace Url

inductive Flaw where
  /-- A bracket without the other one, or something between a bracket and the host's ends. -/
  | bracket
  /-- An address of a form to come that has no version. -/
  | future
  /-- Four octets in brackets. -/
  | bracketedFour
  /-- No numeric address in brackets. -/
  | notNumeric (t : Text)
  /-- A character that stands for one of the marks of an address. -/
  | hiddenMark (authority : Text)
  /-- A host that has no form in basic characters. -/
  | unencodable (flaw : Host.Flaw)
  /-- A host whose basic characters stand for nothing. -/
  | undecodable (flaw : Host.Flaw)
  /-- A port that is no number. -/
  | port (t : Text)
  /-- A port with too many digits. -/
  | longPort (digits : Nat)
  /-- A port that is too large. -/
  | hugePort

def Flaw.message : Flaw → Text
  | .bracket => "Invalid IPv6 URL"
  | .future => "IPvFuture address is invalid"
  | .bracketedFour => "An IPv4 address cannot be in brackets"
  | .notNumeric t => Text.quoted t ++ " does not appear to be an IPv4 or IPv6 address"
  | .hiddenMark authority =>
    "netloc '" ++ authority ++ "' contains invalid characters under NFKC normalization"
  | .unencodable flaw => flaw.message "encoding"
  | .undecodable flaw => flaw.message "decoding"
  | .port t => "Port could not be cast to integer value as " ++ Text.quoted t
  | .longPort digits => Numeral.tooLongMessage digits
  | .hugePort => "Port out of range 0-65535"

def cut (mark : CodePoint) (t : Text) : Text × Option Text :=
  match t.dropWhile (· != mark) with
  | [] => (t, none)
  | _ :: rest => (t.takeWhile (· != mark), some rest)

/-- The text before the last `mark`, if there is one, and the text behind it. -/
def cutLast (mark : CodePoint) (t : Text) : Option Text × Text :=
  let (behind, before) := cut mark t.reverse
  (before.map List.reverse, behind.reverse)

def isSchemeChar (c : CodePoint) : Bool :=
  c.isAlpha || Text.isDigit c || c == '+' || c == '-' || c == '.'

def splitScheme (t : Text) : Text × Text :=
  match cut ':' t with
  | (scheme, some rest) =>
    if (scheme.head?.any CodePoint.isAlpha) && scheme.all isSchemeChar then
      (scheme.map CodePoint.toLower, rest)
    else ([], t)
  | _ => ([], t)

def splitAuthority : Text → Text × Text
  | '/' :: '/' :: rest =>
    let isEnd (c : CodePoint) : Bool := c == '/' || c == '?' || c == '#'
    (rest.takeWhile (!isEnd ·), rest.dropWhile (!isEnd ·))
  | t => ([], t)

def checkBracketed (host : Text) : Except Flaw Unit :=
  if host.head? = some (CodePoint.char 'v') then
    if Address.isFuture host then .ok () else .error .future
  else if Address.isFour host then .error .bracketedFour
  else if Address.isSix host then .ok ()
  else .error (.notNumeric host)

/-- Checks the host of an authority with brackets: the brackets stand around it, and only a port may
follow them. -/
def checkServer (server : Text) : Except Flaw Unit :=
  match cut '[' server with
  | ([], some bracketed) =>
    let (host, rest) := cut ']' bracketed
    match rest.getD [] with
    | [] => checkBracketed host
    | ':' :: _ => checkBracketed host
    | _ => .error .bracket
  | (_, some _) => .error .bracket
  | (_, none) => checkBracketed (cut ':' server).1

def checkBrackets (authority : Text) : Except Flaw Unit :=
  match authority.contains '[', authority.contains ']' with
  | true, true => checkServer (cutLast '@' authority).2
  | false, false => .ok ()
  | _, _ => .error .bracket

def hiddenMarks : List Nat := [
  0x2047, 0x2048, 0x2049, 0x2100, 0x2101, 0x2105, 0x2106, 0x2A74, 0xFE13, 0xFE16, 0xFE55, 0xFE56,
  0xFE5F, 0xFE6B, 0xFF03, 0xFF0F, 0xFF1A, 0xFF1F, 0xFF20
]

def checkMarks (authority : Text) : Except Flaw Unit :=
  if authority.any fun c => hiddenMarks.contains c.toNat then .error (.hiddenMark authority)
  else .ok ()

def isLayout (c : CodePoint) : Bool :=
  c == '\t' || c == '\n' || c == '\r'

/-- The parts of an address. Controls and blanks before it do not count. -/
def split (t : Text) : Except Flaw Url := do
  let t := (t.dropWhile fun c => c.toNat ≤ 0x20).filter (!isLayout ·)
  let (scheme, t) := splitScheme t
  let (authority, t) := splitAuthority t
  checkBrackets authority
  let (t, fragment) := cut '#' t
  let (path, query) := cut '?' t
  checkMarks authority
  .ok ⟨scheme, authority, path, query.getD [], fragment.getD []⟩

/-- The schemes whose addresses have an authority, even if it is empty. -/
def hostedSchemes : List Text :=
  [("ftp" : Text), ("http" : Text), ("gopher" : Text), ("nntp" : Text), ("telnet" : Text), ("imap" : Text),
    ("wais" : Text), ("file" : Text), ("mms" : Text), ("https" : Text), ("shttp" : Text), ("snews" : Text),
    ("prospero" : Text), ("rtsp" : Text), ("rtsps" : Text), ("rtspu" : Text), ("rsync" : Text), ("svn" : Text),
    ("svn+ssh" : Text), ("sftp" : Text), ("nfs" : Text), ("git" : Text), ("git+ssh" : Text), ("ws" : Text),
    ("wss" : Text)]

def marked (mark : CodePoint) (part : Text) : Text :=
  if part.isEmpty then [] else mark :: part

def hierarchy (u : Url) : Text :=
  if !u.authority.isEmpty || hostedSchemes.contains u.scheme || u.path.take 2 = ("//" : Text) then
    let path :=
      if u.path.isEmpty || u.path.head? = some (CodePoint.char '/') then u.path
      else CodePoint.char '/' :: u.path
    "//" ++ u.authority ++ path
  else u.path

def text (u : Url) : Text :=
  let scheme := if u.scheme.isEmpty then [] else u.scheme ++ [CodePoint.char ':']
  scheme ++ u.hierarchy ++ marked '?' u.query ++ marked '#' u.fragment

def hostOf (authority : Text) : Text × Text :=
  let (_, server) := cutLast '@' authority
  match cut '[' server with
  | (_, some bracketed) =>
    let (host, rest) := cut ']' bracketed
    (host, ((cut ':' (rest.getD [])).2).getD [])
  | (_, none) =>
    let (host, port) := cut ':' server
    (host, port.getD [])

def portOf (t : Text) : Except Flaw Nat :=
  if t.isEmpty then .ok 0
  else if !t.all Text.isDigit then .error (.port t)
  else if Numeral.maxDigits < t.length then .error (.longPort t.length)
  else if 65535 < Text.natOfDigits t then .error .hugePort
  else .ok (Text.natOfDigits t)

/-- The user of an authority behind whom an at sign stands; the user's secret counts only with a
name. -/
def userOf (authority : Text) : Text :=
  match (cutLast '@' authority).1 with
  | none => []
  | some user =>
    match cut ':' user with
    | ([], _) => []
    | (name, some secret) => name ++ marked ':' secret ++ [CodePoint.char '@']
    | (name, none) => name ++ [CodePoint.char '@']

/-- A host in small letters, but for the zone behind a percent sign. -/
def lowered (host : Text) : Text :=
  (host.takeWhile (· != CodePoint.char '%')).map Host.small ++ host.dropWhile (· != CodePoint.char '%')

/-- The authority of a host and a port. A host with colons is put into brackets, and a port of zero
is no port. -/
def serverText (host : Text) (port : Nat) : Text :=
  (if host.contains ':' then "[" ++ host ++ "]" else host) ++
    (if port = 0 then [] else CodePoint.char ':' :: Text.ofNat port)

def canonical (u : Url) : Except Flaw Url := do
  let (host, port) := hostOf u.authority
  match Host.encode (lowered host) with
  | .error flaw => .error (.unencodable flaw)
  | .ok host =>
    let port ← portOf port
    .ok ⟨u.scheme, userOf u.authority ++ serverText host port, u.path, u.query, u.fragment⟩

def readable (u : Url) : Except Flaw Url := do
  let (host, port) := hostOf u.authority
  match Host.decode (lowered host) with
  | .error flaw => .error (.undecodable flaw)
  | .ok host =>
    let host := host.toText?.getD []
    let port ← portOf port
    .ok ⟨u.scheme, userOf u.authority ++ serverText host port, u.path, u.query, u.fragment⟩

end Url

end ServoScript
