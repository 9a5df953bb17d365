import MarkupQuery.Shell.Token

/-!
# Scripts

Commands, chained by what follows what, and by choices. The grammar is read from the tokens; the
fuel of its functions is the number of tokens, and every call takes at least one or gives up its
place to a call of a lower function.
-/

namespace MarkupQuery.Shell

/-- How two scripts follow each other. -/
inductive Link where
  /-- The second one in any case. -/
  | always
  /-- The second one if the first one succeeds. -/
  | success
  /-- The second one if the first one fails. -/
  | failure
  deriving DecidableEq, Repr

inductive Script where
  | nothing
  | command (words : List Word)
  | chain (first : Script) (link : Link) (second : Script)
  /-- Succeeds where the script fails. -/
  | negated (s : Script)
  | choice (condition yes no : Script)
  /-- A script on its own: what it changes is not changed outside. -/
  | nested (s : Script)
  deriving Repr

namespace Script

/-- A word without quotes and values, as text. -/
def bareText? (w : Word) : Option String :=
  let bare? : Piece → Option Char
    | .char c false => some c
    | _ => none
  (w.mapM bare?).map String.ofList

def keyword? : List Token → Option String
  | .word w :: _ => bareText? w
  | _ => none

def expect? (keyword : String) : List Token → Option (List Token)
  | .word w :: rest => if bareText? w = some keyword then some rest else none
  | _ => none

def skipNext (ts : List Token) : List Token := ts.dropWhile (· == .operator .next)

def enders : List String := ["then", "elif", "else", "fi", "\x7d"]

def isEnd (ts : List Token) : Bool :=
  match ts with
  | [] => true
  | .operator .closing :: _ => true
  | _ => (keyword? ts).any enders.contains

def words : List Token → List Word × List Token
  | .word w :: rest =>
    let (ws, rest) := words rest
    (w :: ws, rest)
  | rest => ([], rest)

mutual
def ofList? : Nat → List Token → Option (Script × List Token)
  | 0, _ => none
  | fuel + 1, ts => do
    let ts := skipNext ts
    if isEnd ts then return (.nothing, ts)
    let (first, ts) ← ofLinked? fuel ts
    match ts with
    | .operator .next :: rest =>
      let (second, rest) ← ofList? fuel rest
      return (match second with
        | .nothing => first
        | _ => .chain first .always second, rest)
    | _ => return (first, ts)

/-- Reads commands that follow each other if they succeed or fail. -/
def ofLinked? : Nat → List Token → Option (Script × List Token)
  | 0, _ => none
  | fuel + 1, ts => do
    let (first, ts) ← ofUnit? fuel ts
    ofLinks? fuel first ts

def ofLinks? : Nat → Script → List Token → Option (Script × List Token)
  | 0, _, _ => none
  | fuel + 1, first, ts =>
    match ts with
    | .operator .andThen :: rest => do
      let (second, rest) ← ofUnit? fuel (skipNext rest)
      ofLinks? fuel (.chain first .success second) rest
    | .operator .orElse :: rest => do
      let (second, rest) ← ofUnit? fuel (skipNext rest)
      ofLinks? fuel (.chain first .failure second) rest
    | _ => some (first, ts)

def ofUnit? : Nat → List Token → Option (Script × List Token)
  | 0, _ => none
  | fuel + 1, ts =>
    match ts with
    | .operator .opening :: rest => do
      let (s, rest) ← ofList? fuel rest
      match rest with
      | .operator .closing :: rest => return (.nested s, rest)
      | _ => none
    | .word w :: rest =>
      match bareText? w with
      | some "!" => do
        let (s, rest) ← ofUnit? fuel rest
        return (.negated s, rest)
      | some "\x7b" => do
        let (s, rest) ← ofList? fuel rest
        return (s, ← expect? "\x7d" rest)
      | some "if" => ofChoice? fuel rest
      | text? =>
        if text?.any enders.contains then none
        else
          let (ws, rest) := words ts
          some (.command ws, rest)
    | _ => none

def ofChoice? : Nat → List Token → Option (Script × List Token)
  | 0, _ => none
  | fuel + 1, ts => do
    let (condition, ts) ← ofList? fuel ts
    let ts ← expect? "then" ts
    let (yes, ts) ← ofList? fuel ts
    match keyword? ts with
    | some "elif" =>
      let (no, ts) ← ofChoice? fuel ts.tail
      return (.choice condition yes no, ts)
    | some "else" =>
      let (no, ts) ← ofList? fuel ts.tail
      return (.choice condition yes no, ← expect? "fi" ts)
    | _ => return (.choice condition yes .nothing, ← expect? "fi" ts)
end

def ofText? (text : List Char) : Option Script := do
  let ts ← Token.ofText? text
  let (s, rest) ← ofList? (4 * ts.length + 4) ts
  if rest.isEmpty then some s else none

end Script

end MarkupQuery.Shell
