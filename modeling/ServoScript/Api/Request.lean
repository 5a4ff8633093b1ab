import ServoScript.Api.Route
import ServoScript.Text.Encoding
import ServoScript.Url

/-!
# Requests

A request has a method, an address and a body. The address leads to a host and a path there, and the
path to a route. What is proved about answers is proved for every framework; the one here is the
framework that runs, and the modules on addresses, hosts and encodings serve it alone.
-/

namespace ServoScript

structure Request where
  methodName : Text
  path : Text
  body : List UInt8

namespace Request

def method (r : Request) : Method :=
  Method.ofText r.methodName

/-- Where a request goes: the scheme, the host with its user and port, and the path there. -/
structure Destination where
  scheme : Text
  host : Text
  path : Text

def serverOf (u : Url) : Text :=
  let scheme := if u.scheme.isEmpty then ("http" : Text) else u.scheme
  let authority := if u.authority.isEmpty then ("localhost" : Text) else u.authority
  scheme ++ "://" ++ authority ++ "/"

/-- Where an address leads to. What is left of it without the server is an address again, and so is
its path. The server's address has to have a readable form, and that has to be an address. -/
def Destination.ofText (t : Text) : Except Url.Flaw Destination := do
  let outer ← Url.split t
  let inner ← Url.split (outer.path ++ Url.marked '?' outer.query)
  let path ← (← Url.split inner.path).canonical
  let server ← (← Url.split (serverOf outer)).canonical
  let server ← Url.split server.text
  let readable ← server.readable
  let _ ← Url.split readable.text
  .ok ⟨server.scheme, server.authority, path.text⟩

def unescapePart : Text → List UInt8
  | a :: b :: rest =>
    match Text.hexValue? a, Text.hexValue? b with
    | some high, some low => UInt8.ofNat (16 * high + low) :: Utf8.encode rest
    | _, _ => Utf8.encode ('%' :: a :: b :: rest)
  | part => Utf8.encode ('%' :: part)

def unescape (path : Text) : List UInt8 :=
  match Text.split '%' path with
  | [] => []
  | first :: parts => Utf8.encode first ++ parts.flatMap unescapePart

def mergeSlashes : Text → Text
  | '/' :: '/' :: rest => mergeSlashes ('/' :: rest)
  | c :: rest => c :: mergeSlashes rest
  | [] => []

def routeOf (path : Text) : Option Route :=
  Route.ofParts (Text.split '/' (path.dropWhile (· == CodePoint.char '/')))

inductive Target where
  | found (route : Route)
  | elsewhere
  | notAllowed
  | unknown
  | badHost
  /-- A request for a lasting connection, which no route offers. -/
  | badScheme

def Destination.plainPath (d : Destination) : Text :=
  '/' :: (Utf8.decodeLossy (unescape d.path)).dropWhile (· == CodePoint.char '/')

/-- Where a request with a method goes at a path. One that only lacks the merging of slashes is
redirected. A request for a lasting connection is taken nowhere. -/
def targetAt (lasting : Bool) (method : Method) (path : Text) : Target :=
  let takes (route : Route) : Bool := !lasting && route.methods.any (·.fits method)
  let plain := routeOf path
  let merged := routeOf (mergeSlashes path)
  match plain.filter takes with
  | some route => .found route
  | none =>
    if merged.any takes then .elsewhere
    else
      let methods := (plain.map Route.methods).getD [] ++ (merged.map Route.methods).getD []
      if methods.isEmpty then .unknown
      else if methods.all (·.fits method) then .badScheme
      else .notAllowed

def lastingSchemes : List Text :=
  [("ws" : Text), ("wss" : Text)]

/-- Whether the host of a destination can be asked: what stands between the user and the first colon
is a name. -/
def Destination.hasHost (d : Destination) : Bool :=
  (Host.encode ((Url.cutLast '@' d.host).2.takeWhile (· != CodePoint.char ':'))).isOk

def target (r : Request) : Except Url.Flaw Target := do
  let destination ← Destination.ofText r.path
  let lasting := lastingSchemes.contains destination.scheme
  .ok (if destination.hasHost then targetAt lasting r.method destination.plainPath else .badHost)

def document (r : Request) : Option Json :=
  (Encoding.decode r.body).bind fun t => (Json.read t).toOption

/-- What a request asks for. HEAD asks for the same as GET. -/
def asksFor (r : Request) : Method :=
  if r.method = .head then .get else r.method

/-- Whether a request wants no document. The name of its method has to be written in capitals. -/
def isBare (r : Request) : Bool :=
  r.methodName = ("HEAD" : Text)

/-- The handler for a request with a target. A question for the methods of a route gets an answer without
one, but the index in the path is read all the same. -/
def handler (r : Request) : Target → Except Nat Handler
  | .unknown => .error 404
  | .notAllowed => .error 405
  | .elsewhere => .error 308
  | .badHost => .error 400
  | .badScheme => .error 400
  | .found route =>
    match route.handler r.asksFor with
    | .error 500 => .error 500
    | handler => if r.method = .options then .error 200 else handler

def framework : Framework (Request × Target) where
  route := fun (r, target) => r.handler target
  document := fun (r, _) =>
    match r.document with
    | some document => .ok document
    | none => .error 400

end Request

end ServoScript
