import MarkupQuery.Css.Piece
import MarkupQuery.Css.Selector.Basic

/-!
# Position formulas

Reading, writing and applying the formula of a position, such as `2n+1`, `odd` or `-n + 3`. The
sign of the second number may stand in the name of the unit (`2n-1` is the number 2 with the unit
`n-1`), which is why so many shapes of tokens are one formula.
-/

namespace MarkupQuery.Css.Stride

/-- The greatest and the least number that a formula can hold: numbers beyond are cut there. -/
def limit : Int := 0x80000000

def clamp (n : Int) : Int := max (-limit) (min (limit - 1) n)

def unsigned? (ps : List Piece) : Option Int :=
  match Piece.trimStart ps with
  | [.word (.number ⟨false, some v⟩)] => some (clamp v)
  | _ => none

/-- The second number of a formula, after its `n`: absent, or signed, or a sign and a number. -/
def offset? (ps : List Piece) : Option Int :=
  match Piece.trimStart ps with
  | [] => some 0
  | [.word (.number ⟨true, some v⟩)] => some (clamp v)
  | .word (.delim '+') :: rest => unsigned? rest
  | .word (.delim '-') :: rest => (unsigned? rest).map (-·)
  | _ => none

/-- Reads what follows the first number: `n`, `n-`, or `n-` and digits, and then the second
number. `step` is the first number. -/
def afterStep? (step : Int) (unit : List Char) (rest : List Piece) : Option Stride :=
  match unit with
  | ['n'] => (offset? rest).map (⟨step, ·⟩)
  | ['n', '-'] => (unsigned? rest).map (⟨step, -·⟩)
  | 'n' :: '-' :: digits =>
    if digits.all Char.isDigit && rest.isEmpty then
      some ⟨step, clamp (-(Token.decimal digits : Int))⟩
    else none
  | _ => none

/-- Reads a formula; there is no white space around it. -/
def ofPieces? : List Piece → Option Stride
  | [.word (.number ⟨_, some b⟩)] => some ⟨0, clamp b⟩
  | .word (.dimension ⟨_, some a⟩ unit) :: rest => afterStep? (clamp a) unit.toLower.toList rest
  | .word (.delim '+') :: .word (.ident name) :: rest => afterStep? 1 name.toLower.toList rest
  | .word (.ident name) :: rest =>
    if name.toLower = "even" then if rest.isEmpty then some ⟨2, 0⟩ else none
    else if name.toLower = "odd" then if rest.isEmpty then some ⟨2, 1⟩ else none
    else match name.toLower.toList with
      | '-' :: unit => afterStep? (-1) unit rest
      | unit => afterStep? 1 unit rest
  | _ => none

def tokens (s : Stride) : List Token :=
  if s.step = 0 then [.number ⟨decide (s.offset < 0), some s.offset⟩]
  else
    let unit := if s.offset < 0 then "n" ++ toString s.offset else "n"
    let plus := if 0 < s.offset then [.number ⟨true, some s.offset⟩] else []
    if s.step = 1 then .ident unit :: plus
    else if s.step = -1 then .ident ("-" ++ unit) :: plus
    else .dimension ⟨decide (s.step < 0), some s.step⟩ unit :: plus

/-- Whether a formula admits a position, counted from one: some multiple of the step, none taken
backwards, leads from the offset to it. Positions too far from the offset are not admitted. -/
def admits (s : Stride) (index : Nat) : Bool :=
  let d : Int := index - s.offset
  decide (-limit ≤ d) && decide (d < limit) &&
    if s.step = 0 then d == 0
    else d.tmod s.step == 0 && decide (0 ≤ d.tdiv s.step)

end MarkupQuery.Css.Stride
