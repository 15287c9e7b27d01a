import Telemetry.Url.Basic
import Telemetry.Url.Domain
import Telemetry.Url.Percent

namespace Telemetry.Url

inductive Kind where
  | special
  | file
  | plain
  deriving DecidableEq

def Kind.ofScheme (scheme : List Char) : Kind :=
  if (defaultPort? scheme).isSome then .special
  else if scheme = "file".toList then .file
  else .plain

/-- Whether a character separates path segments; only plain schemes keep backslashes apart. -/
def Kind.isSlash (k : Kind) (c : Char) : Bool := c == '/' || (c == '\\' && k != .plain)

def Kind.endsAuthority (k : Kind) (c : Char) : Bool := c == '?' || c == '#' || k.isSlash c

def isEdge (c : Char) : Bool := c.toNat ≤ 0x20

def clean (cs : List Char) : List Char :=
  ((cs.dropWhile isEdge).reverse.dropWhile isEdge).reverse.filter fun c ↦
    !(c == '\t' || c == '\n' || c == '\r')

def isSchemeChar (c : Char) : Bool :=
  c.isAlphanum || c == '+' || c == '-' || c == '.'

def scheme? (cs : List Char) : Option (List Char × List Char) :=
  match cs.takeWhile isSchemeChar, cs.dropWhile isSchemeChar with
  | c :: scheme, ':' :: rest =>
    if c.isAlpha then some ((c :: scheme).map Char.toLower, rest) else none
  | _, _ => none

def splitHost (k : Kind) : Bool → List Char → List Char × List Char
  | _, [] => ([], [])
  | bracketed, c :: cs =>
    if (c == ':' && !bracketed) || k.endsAuthority c then ([], c :: cs)
    else
      let (host, rest) := splitHost k ((bracketed || c == '[') && c != ']') cs
      (c :: host, rest)

def bracketed? (cs : List Char) : Option (Except Fault Host) :=
  match cs with
  | '[' :: inner => some <|
    match inner.reverse with
    | ']' :: address => match Ipv6.parse? address.reverse with
      | some words => .ok (.ipv6 words)
      | none => .error .invalidIpv6
    | _ => .error .invalidIpv6
  | _ => none

def parseHost (cs : List Char) : Except Fault Host :=
  (bracketed? cs).getD <|
    match Domain.toAscii? (Percent.decode cs) with
    | none => .error .invalidDomain
    | some [] => .error .emptyHost
    | some name =>
      if Ipv4.endsInNumber name then
        match Ipv4.parse? name with
        | some address => .ok (.ipv4 address)
        | none => .error .invalidIpv4
      else .ok (.domain name)

def parseOpaqueHost (cs : List Char) : Except Fault Host :=
  (bracketed? cs).getD <|
    if cs.any fun c ↦ ['\x00', '\t', '\n', '\r', ' ', '#', '/', ':', '<', '>', '?', '@', '[',
        '\\', ']', '^', '|'].contains c then .error .forbiddenHostCharacter
    else .ok (.domain (Percent.encode [] cs))

def parsePort (cs : List Char) : Except Fault (Option Nat × List Char) :=
  let digits := cs.takeWhile Digits.isDigit
  let rest := cs.dropWhile Digits.isDigit
  let ends := match rest with
    | [] => true
    | c :: _ => ['/', '\\', '?', '#'].contains c
  if !ends || 65536 ≤ Digits.value digits then .error .invalidPort
  else .ok (if digits.isEmpty then none else some (Digits.value digits), rest)

def splitAtSign (cs : List Char) : Option (List Char × List Char) :=
  match cs.reverse.dropWhile (· != '@') with
  | [] => none
  | _ :: front => some (front.reverse, (cs.reverse.takeWhile (· != '@')).reverse)

def credentials (cs : List Char) : List Char × Option (List Char) :=
  let encode := Percent.encode Percent.userinfoSet
  let name := cs.takeWhile (· != ':')
  match cs.dropWhile (· != ':') with
  | _ :: c :: word => (encode name, some (encode (c :: word)))
  | _ => (encode name, none)

structure Authority where
  username : List Char := []
  password : Option (List Char) := none
  host : Option Host
  port : Option Nat := none

def parseAuthority (k : Kind) (scheme cs : List Char) : Except Fault (Authority × List Char) := do
  let region := cs.takeWhile fun c ↦ !k.endsAuthority c
  let after := cs.dropWhile fun c ↦ !k.endsAuthority c
  let (user, place) := match splitAtSign region with
    | none => (none, cs)
    | some (user, place) => (some user, place ++ after)
  if user = some [] && !after.isEmpty && place.length == after.length then
    throw .emptyHost
  let (username, password) := credentials (user.getD [])
  let (hostText, rest) := splitHost k false place
  let colon := rest.head? == some ':'
  if hostText.isEmpty then
    if k = .special || colon || !username.isEmpty || password.isSome then throw .emptyHost
    return ({ host := none }, rest)
  let host ← if k = .special then parseHost hostText else parseOpaqueHost hostText
  let (port, rest) ← if colon then parsePort (rest.drop 1) else .ok (none, rest)
  return ({ username, password, host := some host,
            port := port.filter fun p ↦ defaultPort? scheme != some p }, rest)

def splitPath (k : Kind) : List Char → List (List Char)
  | [] => [[]]
  | c :: cs =>
    if k.isSlash c then [] :: splitPath k cs
    else match splitPath k cs with
      | part :: parts => (c :: part) :: parts
      | [] => [[c]]

def plainDots : List Char → List Char
  | '%' :: '2' :: 'e' :: cs => '.' :: plainDots cs
  | '%' :: '2' :: 'E' :: cs => '.' :: plainDots cs
  | c :: cs => c :: plainDots cs
  | [] => []

def isSingleDot (segment : List Char) : Bool := plainDots segment == ['.']
def isDoubleDot (segment : List Char) : Bool := plainDots segment == ['.', '.']

/-- A letter and a colon, which a double dot does not remove. -/
def isDriveLetter : List Char → Bool
  | [c, d] => c.isAlpha && (d == ':' || d == '|')
  | _ => false

def parent : List (List Char) → List (List Char)
  | [] => []
  | s :: ss => if isDriveLetter s then s :: ss else ss

/-- The segments of a path, last one first, after those in `before`, with dot segments resolved. -/
def resolve (before : List (List Char)) : List (List Char) → List (List Char)
  | [] => before
  | [s] =>
    if isDoubleDot s then [] :: parent before
    else if isSingleDot s then [] :: before
    else s :: before
  | s :: ss =>
    if isDoubleDot s then resolve (parent before) ss
    else if isSingleDot s then resolve before ss
    else resolve (s :: before) ss

def normalPath (k : Kind) (cs : List Char) : List Char :=
  let segments := (splitPath k cs).map (Percent.encode Percent.pathSet)
  (resolve [] segments).reverse.flatMap ('/' :: ·)

def withRest (k : Kind) (u : Url) (cs : List Char) : Url :=
  let text := cs.takeWhile fun c ↦ !(c == '?' || c == '#')
  let path := match text with
    | [] => if k = .plain then [] else ['/']
    | c :: rest => normalPath k (if k.isSlash c then rest else text)
  let (query, rest) := match cs.dropWhile fun c ↦ !(c == '?' || c == '#') with
    | '?' :: more => (some (more.takeWhile (· != '#')), more.dropWhile (· != '#'))
    | rest => (none, rest)
  let set := if k = .plain then Percent.querySet else Percent.specialQuerySet
  { u with
    path
    query := query.map (Percent.encode set)
    fragment := match rest with
      | _ :: f => some (Percent.encode Percent.fragmentSet f)
      | [] => none }

def parseFile (scheme cs : List Char) : Except Fault Url := do
  let bare (cs : List Char) : Url := withRest .file { scheme, path := [] } cs
  match cs with
  | a :: b :: rest =>
    if Kind.file.isSlash a && Kind.file.isSlash b then
      let text := rest.takeWhile fun c ↦ !Kind.file.endsAuthority c
      let after := rest.dropWhile fun c ↦ !Kind.file.endsAuthority c
      if text.isEmpty || isDriveLetter text then return bare rest
      let host ← parseHost text
      let url := bare after
      let first := (url.path.drop 1).takeWhile (· != '/')
      let dropped := host == .domain "localhost".toList || isDriveLetter first
      return { url with host := if dropped then none else some host }
    else return bare cs
  | _ => return bare cs

def parse (s : String) : Except Fault Url := do
  let some (scheme, rest) := scheme? (clean s.toList) | throw .relativeWithoutBase
  let k := Kind.ofScheme scheme
  let withAuthority (cs : List Char) : Except Fault Url := do
    let (a, after) ← parseAuthority k scheme cs
    return withRest k { scheme, username := a.username, password := a.password, host := a.host,
                        port := a.port, path := [] } after
  match k, rest with
  | .special, _ => withAuthority (rest.dropWhile k.isSlash)
  | .file, _ => parseFile scheme rest
  | .plain, '/' :: '/' :: more => withAuthority more
  | .plain, _ => return withRest k { scheme, path := [] } rest

end Telemetry.Url
