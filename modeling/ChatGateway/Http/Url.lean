import ChatGateway.Http.Host
import ChatGateway.Text.Split

/-!
URLs of web servers: absolute addresses with the scheme `http` or `https`. `Url.parse?` reads them as leniently as
browsers do, and `Url.text` writes them in one form.
-/

namespace ChatGateway.Http

inductive Scheme where
  | http
  | https
deriving DecidableEq, Repr

def Scheme.name : Scheme → String
  | .http => "http"
  | .https => "https"

def Scheme.portNumber : Scheme → Nat
  | .http => 80
  | .https => 443

structure Url where
  scheme : Scheme
  user : List UInt8
  password : Option (List UInt8)
  host : Host
  portNumber : Option Nat
  path : List (List Char)
  query : Option (List Char)
deriving DecidableEq, Repr

namespace Url

def before (set : Char → Bool) (s : List Char) : List Char × List Char := s.span fun c => !set c

def cleaned (s : List Char) : List Char :=
  let outer (c : Char) : Bool := c.toNat ≤ 0x20
  ((s.dropWhile outer).reverse.dropWhile outer).reverse.filter fun c =>
    c != '\t' && c != '\n' && c != '\r'

def scheme? (s : List Char) : Option (Scheme × List Char) :=
  match before (· == ':') s with
  | (name, ':' :: rest) =>
    [Scheme.http, .https].findSome? fun scheme =>
      if name.map Char.toLower = scheme.name.toList then some (scheme, rest) else none
  | _ => none

def isSlash (c : Char) : Bool := c == '/' || c == '\\'

def splitUser (authority : List Char) : Option (List Char) × List Char :=
  match before (· == '@') authority.reverse with
  | (rest, '@' :: user) => (some user.reverse, rest.reverse)
  | _ => (none, authority)

def splitPort (bracketed : Bool) : List Char → List Char × Option (List Char)
  | [] => ([], none)
  | c :: s =>
    if c == ':' && !bracketed then ([], some s)
    else
      let (host, number) := splitPort (if c == '[' then true else if c == ']' then false else bracketed) s
      (c :: host, number)

def portNumber? (scheme : Scheme) : Option (List Char) → Option (Option Nat)
  | none | some [] => some none
  | some s => do
    let n ← Host.number? 10 s
    if 65535 < n then none else return if n = scheme.portNumber then none else some n

def pathSet (c : Char) : Bool := " \"#<>?^`\x7b\x7d".toList.contains c

def querySet (c : Char) : Bool := " \"#<>\x27".toList.contains c

def dots : List Char → List Char
  | '%' :: '2' :: 'e' :: s | '%' :: '2' :: 'E' :: s => '.' :: dots s
  | c :: s => c :: dots s
  | [] => []

/-- A path with one more segment, both with the last segment first; segments of dots lead up or nowhere, and leave
an empty one at the end of a path. -/
def descend (path : List (List Char)) (segment : List Char) (last : Bool) : List (List Char) :=
  let here := if last then [[]] else []
  if dots segment = ['.', '.'] then here ++ path.tail
  else if dots segment = ['.'] then here ++ path
  else Percent.encode pathSet segment :: path

def resolve (path : List (List Char)) : List (List Char) → List (List Char)
  | [] => path.reverse
  | segment :: segments => resolve (descend path segment segments.isEmpty) segments

def parsePath : List Char → List (List Char)
  | c :: s => resolve [] (Text.split isSlash (if isSlash c then s else c :: s))
  | [] => [[]]

def parse? (s : List Char) : Option Url := do
  let (scheme, s) ← scheme? (cleaned s)
  let (authority, s) := before (fun c => isSlash c || c == '?' || c == '#') (s.dropWhile isSlash)
  let (user, s') := splitUser authority
  let (host, number) := splitPort false s'
  let host ← Host.parse? host
  let portNumber ← portNumber? scheme number
  let (user, password) := before (· == ':') (user.getD [])
  let (path, s) := before (fun c => c == '?' || c == '#') s
  let query :=
    match s with
    | '?' :: s => some (Percent.encode querySet (before (· == '#') s).1)
    | _ => none
  return {
    scheme, host, portNumber, query
    user := Percent.decode user
    password := if password.length ≤ 1 then none else some (Percent.decode (password.drop 1))
    path := parsePath path }

/-- The address that a request is sent to; it holds neither name nor password. -/
def text (u : Url) : List Char :=
  u.scheme.name.toList ++ "://".toList ++ u.host.text ++
    ((u.portNumber.map fun n => ':' :: Host.decimal n).getD []) ++
    u.path.flatMap ('/' :: ·) ++ ((u.query.map ('?' :: ·)).getD [])

def isUnsendable (c : Char) : Bool := "\"`\x7b\x7d".toList.contains c

def greatestLength : Nat := 65534

def sendable (u : Url) : Bool :=
  !u.host.text.any isUnsendable && u.text.length ≤ greatestLength

end Url

end ChatGateway.Http
