/-!
# Addresses

The part of an address that says whom to ask, and the part that says for what. An address is cleaned
on the way, as the standard for addresses has it: dots in its path are followed, what cannot be sent
as it is is escaped, and the fragment stays at home.
-/

namespace MarkupQuery.Http

/-- The one to ask: a host, and one of its numbered sockets. -/
structure Origin where
  secure : Bool
  host : String
  socket : Nat
  deriving DecidableEq, Repr

/-- An address: whom to ask, and for what path and query. -/
structure Uri where
  origin : Origin
  target : String
  deriving DecidableEq, Repr

/-! ## Escapes -/

def hexDigit (n : Nat) : Char := if n < 10 then Char.ofNat (48 + n) else Char.ofNat (55 + n)

/-- Writes a character by its bytes. -/
def escapeChar (c : Char) : List Char :=
  c.toString.toUTF8.toList.flatMap fun b => ['%', hexDigit (b.toNat / 16), hexDigit (b.toNat % 16)]

def needsEscape (c : Char) : Bool :=
  c.toNat ≤ 0x20 || 0x7F ≤ c.toNat || c == '"' || c == '<' || c == '>'

def escapePath (cs : List Char) : List Char :=
  cs.flatMap fun c =>
    if needsEscape c || c == '\x60' || c == '\x7b' || c == '\x7d' then escapeChar c else [c]

def escapeQuery (cs : List Char) : List Char :=
  cs.flatMap fun c => if needsEscape c || c == '\'' then escapeChar c else [c]

/-! ## Paths -/

def isSlash (c : Char) : Bool := c == '/' || c == '\\'

/-- The steps of a path, which are what stands between its slashes. -/
def steps (path : List Char) : List (List Char) :=
  path.foldr (fun c steps =>
    if isSlash c then [] :: steps
    else match steps with
      | [] => [[c]]
      | step :: rest => (c :: step) :: rest) [[]]

/-- Reads escaped dots as dots. -/
def plainDots : List Char → List Char
  | '%' :: '2' :: e :: rest =>
    if e.toLower == 'e' then '.' :: plainDots rest else '%' :: plainDots ('2' :: e :: rest)
  | c :: rest => c :: plainDots rest
  | [] => []

def staysHere (step : List Char) : Bool := plainDots step == ['.']

def goesBack (step : List Char) : Bool := plainDots step == ['.', '.']

/-- Takes a step. The steps so far have the last one first. -/
def takeStep (passed : List (List Char)) (step : List Char) : List (List Char) :=
  if staysHere step then passed else if goesBack step then passed.tail else step :: passed

/-- Follows the dots among the steps of a path. A path that ends in dots ends in a slash. -/
def followDots (steps : List (List Char)) : List (List Char) :=
  let walked := (steps.foldl takeStep []).reverse
  if steps.getLast?.any fun step => staysHere step || goesBack step then walked ++ [[]] else walked

def joinSteps (steps : List (List Char)) : List Char :=
  steps.flatMap ('/' :: ·)

def targetOf (rest : List Char) : String :=
  let sent := rest.takeWhile (· != '#')
  let path := sent.takeWhile (· != '?')
  let query := sent.dropWhile (· != '?')
  let path := match path with
    | c :: cs => if isSlash c then cs else path
    | [] => []
  String.ofList (escapePath (joinSteps (followDots (steps path))) ++ escapeQuery query)

/-! ## Origins -/

def isForbiddenInHost (c : Char) : Bool :=
  c.toNat ≤ 0x20 || c.toNat == 0x7F || ['<', '>', '[', ']', '^', '|', ':'].contains c

/-- The number of a socket. Without digits it is the usual one. -/
def socketOf? (usual : Nat) (digits : List Char) : Option Nat :=
  if digits.isEmpty then some usual
  else if digits.all Char.isDigit then
    let n := digits.foldl (fun n c => 10 * n + (c.toNat - 48)) 0
    if n < 65536 then some n else none
  else none

/-- The host and the socket of an address, without the name of a user before them. A host in
brackets may hold colons. -/
def originOf? (secure : Bool) (authority : List Char) : Option Origin :=
  let place := (authority.reverse.takeWhile (· != '@')).reverse
  let (host, rest) := match place with
    | '[' :: _ => (place.takeWhile (· != ']') ++ [']'], (place.dropWhile (· != ']')).drop 1)
    | _ => (place.takeWhile (· != ':'), place.dropWhile (· != ':'))
  let inner := if host.head? == some '[' then [] else host
  if host.isEmpty || inner.any isForbiddenInHost then none
  else
    let usual := if secure then 443 else 80
    let socket? := match rest with
      | [] => some usual
      | ':' :: digits => socketOf? usual digits
      | _ => none
    socket?.map (⟨secure, String.ofList (host.map Char.toLower), ·⟩)

def Uri.schemes : List (Bool × List Char) := [(false, "http://".toList), (true, "https://".toList)]

def Uri.scheme? (address : List Char) : Option (Bool × List Char) :=
  Uri.schemes.findSome? fun (secure, start) =>
    if start.isPrefixOf address then some (secure, address.drop start.length) else none

/-- Reads an address. There is none without a known scheme or without a host. -/
def Uri.parse? (address : String) : Option Uri := do
  let (secure, rest) ← Uri.scheme? address.toList
  let rest := (rest.reverse.dropWhile (·.toNat ≤ 0x20)).reverse
  let rest := rest.filter fun c => !(['\t', '\n', '\r'].contains c)
  let rest := rest.dropWhile isSlash
  let inAuthority (c : Char) : Bool := !isSlash c && c != '?' && c != '#'
  let origin ← originOf? secure (rest.takeWhile inAuthority)
  return ⟨origin, targetOf (rest.dropWhile inAuthority)⟩

end MarkupQuery.Http
