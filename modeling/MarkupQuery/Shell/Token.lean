/-!
# Words and operators of scripts

A script is read character by character into words and operators. What a word holds is kept in
pieces, with a note on each whether it stood in quotes: only outside them is a value taken apart at
its blanks.
-/

namespace MarkupQuery.Shell

/-- A piece of a word. -/
inductive Piece where
  | char (c : Char) (quoted : Bool)
  /-- Quotes, which make a word even of nothing. -/
  | quotes
  /-- The value of a variable. -/
  | variable (name : List Char) (quoted : Bool)
  /-- The value of a variable, or something else where it has none that is not empty. -/
  | variableOr (name : List Char) (other : List Char) (quoted : Bool)
  /-- What a command prints. -/
  | printed (command : List Char) (quoted : Bool)
  deriving DecidableEq, Repr

abbrev Word := List Piece

/-- What stands between commands. -/
inductive Operator where
  | next
  | andThen
  | orElse
  | opening
  | closing
  deriving DecidableEq, Repr

inductive Token where
  | word (w : Word)
  | operator (o : Operator)
  deriving DecidableEq, Repr

/-- What the next character belongs to. -/
inductive Reading where
  | plain
  /-- A `&` was read, or a `|`. -/
  | doubled (c : Char)
  | comment
  | single
  | double
  | escaped (quoted : Bool)
  | dollar (quoted : Bool)
  | name (quoted : Bool) (name : List Char)
  | braced (quoted : Bool) (text : List Char)
  | command (quoted : Bool) (depth : Nat) (text : List Char)
  | ticked (quoted : Bool) (text : List Char)
  deriving DecidableEq, Repr

/-- A script that is read in part: its tokens so far and the word under way, the last ones first. -/
structure Lexing where
  tokens : List Token
  word? : Option Word
  reading : Reading

namespace Lexing

def put (l : Lexing) (p : Piece) : Lexing := { l with word? := some (p :: l.word?.getD []) }

def endWord (l : Lexing) : Lexing :=
  match l.word? with
  | some w => { l with tokens := .word w.reverse :: l.tokens, word? := none }
  | none => l

def operator (l : Lexing) (o : Operator) : Lexing :=
  let l := l.endWord
  { l with tokens := .operator o :: l.tokens }

def read (l : Lexing) (r : Reading) : Lexing := { l with reading := r }

def back (l : Lexing) (quoted : Bool) : Lexing := l.read (if quoted then .double else .plain)

def plain (l : Lexing) (c : Char) : Lexing :=
  match c with
  | ' ' | '\t' => l.endWord.read .plain
  | '\n' | ';' => (l.operator .next).read .plain
  | '(' => (l.operator .opening).read .plain
  | ')' => (l.operator .closing).read .plain
  | '&' | '|' => l.endWord.read (.doubled c)
  | '#' => if l.word?.isSome then (l.put (.char c false)).read .plain else l.read .comment
  | '\'' => (l.put .quotes).read .single
  | '"' => (l.put .quotes).read .double
  | '\\' => l.read (.escaped false)
  | '$' => l.read (.dollar false)
  | '\x60' => l.read (.ticked false [])
  | _ => (l.put (.char c false)).read .plain

def double (l : Lexing) (c : Char) : Lexing :=
  match c with
  | '"' => l.read .plain
  | '\\' => l.read (.escaped true)
  | '$' => l.read (.dollar true)
  | '\x60' => l.read (.ticked true [])
  | _ => (l.put (.char c true)).read .double

def ordinary (l : Lexing) (quoted : Bool) (c : Char) : Lexing :=
  if quoted then l.double c else l.plain c

def isNameChar (c : Char) : Bool := c.isAlphanum || c == '_'

/-- Takes what stands between braces apart: the name of a variable, and what to take instead. -/
def bracedPiece (quoted : Bool) (text : List Char) : Piece :=
  let name := text.takeWhile isNameChar
  match text.dropWhile isNameChar with
  | ':' :: '-' :: other => .variableOr name other quoted
  | _ => .variable name quoted

def step (l : Lexing) (c : Char) : Lexing :=
  match l.reading with
  | .plain => l.plain c
  | .double => l.double c
  | .doubled d =>
    if c == d then (l.operator (if d == '&' then .andThen else .orElse)).read .plain
    else (l.operator .next).plain c
  | .comment => if c == '\n' then (l.operator .next).read .plain else l
  | .single => if c == '\'' then l.read .plain else l.put (.char c true)
  | .escaped quoted =>
    let l := if quoted && !(['$', '\x60', '"', '\\'].contains c) then l.put (.char '\\' true) else l
    (l.put (.char c true)).back quoted
  | .dollar quoted =>
    if c == '\x7b' then l.read (.braced quoted [])
    else if c == '(' then l.read (.command quoted 0 [])
    else if c == '$' || c == '?' then (l.put (.variable [c] quoted)).back quoted
    else if isNameChar c then l.read (.name quoted [c])
    else ((l.put (.char '$' quoted)).back quoted).ordinary quoted c
  | .name quoted name =>
    if isNameChar c then l.read (.name quoted (name ++ [c]))
    else ((l.put (.variable name quoted)).back quoted).ordinary quoted c
  | .braced quoted text =>
    if c == '\x7d' then (l.put (bracedPiece quoted text)).back quoted
    else l.read (.braced quoted (text ++ [c]))
  | .command quoted depth text =>
    if c == '(' then l.read (.command quoted (depth + 1) (text ++ [c]))
    else if c == ')' then
      match depth with
      | 0 => (l.put (.printed text quoted)).back quoted
      | depth + 1 => l.read (.command quoted depth (text ++ [c]))
    else l.read (.command quoted depth (text ++ [c]))
  | .ticked quoted text =>
    if c == '\x60' then (l.put (.printed text quoted)).back quoted
    else l.read (.ticked quoted (text ++ [c]))

/-- The tokens of a script that ends here. There are none if it ends within quotes or braces. -/
def finish? (l : Lexing) : Option (List Token) :=
  match l.reading with
  | .plain | .comment => some l.endWord.tokens.reverse
  | .doubled _ => some (l.operator .next).tokens.reverse
  | .name false name => some (l.put (.variable name false)).endWord.tokens.reverse
  | .dollar false => some (l.put (.char '$' false)).endWord.tokens.reverse
  | .escaped false => some (l.put (.char '\\' false)).endWord.tokens.reverse
  | _ => none

end Lexing

def Token.ofText? (script : List Char) : Option (List Token) :=
  (script.foldl Lexing.step ⟨[], none, .plain⟩).finish?

end MarkupQuery.Shell
