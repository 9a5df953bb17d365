import MarkupQuery.Css.Token

/-!
# Pieces

Tokens with their brackets matched up. A block reaches to the bracket that closes it, or to the end
of the text; a closing bracket that closes nothing is an ordinary word.
-/

namespace MarkupQuery.Css

/-- A word, or a pair of brackets with what stands between them. -/
inductive Piece where
  | word (t : Token)
  | block (b : Bracket) (inner : List Piece)
  | call (name : String) (arguments : List Piece)

namespace Piece

def isBlank : Piece → Bool
  | word .blank => true
  | _ => false

def trimStart (ps : List Piece) : List Piece := ps.dropWhile isBlank

def trim (ps : List Piece) : List Piece := (trimStart (trimStart ps).reverse).reverse

/-- What opened a block: a bracket, or the name of a function with its bracket. -/
inductive Opener where
  | bare (b : Bracket)
  | named (function : String)

def Opener.bracket : Opener → Bracket
  | .bare b => b
  | .named _ => .round

/-- The piece that a finished block is, given its pieces with the last one first. White space
right inside the brackets means nothing and is dropped. -/
def Opener.close (o : Opener) (inner : List Piece) : Piece :=
  match o with
  | .bare b => .block b (trim inner.reverse)
  | .named n => .call n (trim inner.reverse)

/-- Matches brackets. `outer` holds the open blocks, nearest first, each with the pieces that stand
in front of it, last first; `here` holds the pieces of the block being read, last first. -/
def group (outer : List (Opener × List Piece)) (here : List Piece) : List Token → List Piece
  | [] => (outer.foldl (fun inner (o, before) => o.close inner :: before) here).reverse
  | t :: ts =>
    match t with
    | .opening b => group ((.bare b, here) :: outer) [] ts
    | .function n => group ((.named n, here) :: outer) [] ts
    | .closing b =>
      match outer with
      | (o, before) :: outer' =>
        if o.bracket = b then group outer' (o.close here :: before) ts
        else group outer (.word t :: here) ts
      | [] => group [] (.word t :: here) ts
    | t => group outer (.word t :: here) ts

def ofTokens (ts : List Token) : List Piece :=
  group [] [] ts

def isComma : Piece → Bool
  | word .comma => true
  | _ => false

/-- Splits pieces at the commas that stand outside all brackets. -/
def splitAtCommas : List Piece → List (List Piece)
  | [] => [[]]
  | p :: ps =>
    if p.isComma then [] :: splitAtCommas ps
    else match splitAtCommas ps with
      | part :: parts => (p :: part) :: parts
      | [] => [[p]]

end Piece

end MarkupQuery.Css
