import MarkupQuery.Css.Selector.Stride

/-!
# Reading selectors

`SelectorList.ofText?` reads a list of selectors and fails on every text that is none. Entries are
separated by commas; an entry is a sequence of compounds with white space or a combinator between
any two.
-/

namespace MarkupQuery.Css

namespace AttributeTest

def operator? : Token → Option Operator
  | .delim '=' => some .equals
  | .compare '~' => some .hasWord
  | .compare '|' => some .dashed
  | .compare '^' => some .startsWith
  | .compare '$' => some .endsWith
  | .compare '*' => some .contains
  | _ => none

def value? : Token → Option String
  | .ident v => some v
  | .quoted v => some v
  | _ => none

def letterCase? : List Piece → Option LetterCase
  | [] => some .byName
  | [.word (.ident flag)] =>
    if flag.toLower = "i" then some .ignored
    else if flag.toLower = "s" then some .exact
    else none
  | _ => none

def afterName? (rest : List Piece) : Option (Option Comparison) :=
  match Piece.trimStart rest with
  | [] => some none
  | .word t :: rest => do
    let operator ← operator? t
    match Piece.trimStart rest with
    | .word v :: rest => do
      let value ← value? v
      let letterCase ← letterCase? (Piece.trimStart rest)
      return some ⟨operator, value, letterCase⟩
    | _ => none
  | _ => none

def ofPieces? : List Piece → Option AttributeTest
  | .word (.delim '*') :: .word (.delim '|') :: .word (.ident n) :: rest =>
    (afterName? rest).map (⟨true, n, ·⟩)
  | .word (.delim '|') :: .word (.ident n) :: rest => (afterName? rest).map (⟨false, n, ·⟩)
  | .word (.ident _) :: .word (.delim '|') :: _ => none
  | .word (.ident n) :: rest => (afterName? rest).map (⟨false, n, ·⟩)
  | _ => none

end AttributeTest

/-- Whether a test may stand inside `:not()`: any but another `:not()`. -/
def Simple.isNegatable : Simple → Bool
  | notType _ => false
  | not _ => false
  | _ => true

def TypeTest.leads : List Piece → Bool
  | .word (.ident _) :: _ => true
  | .word (.delim c) :: _ => c == '*' || c == '|'
  | _ => false

/-- The test that a call of `:not()` makes of what stands between its brackets: exactly one test. -/
def Compound.negated? (inner : List Piece) (c : Compound) : Option Simple :=
  match c.tests with
  | [] => some (.notType c.type)
  | [s] => if !TypeTest.leads inner && s.isNegatable then some (.not s) else none
  | _ => none

mutual

/-- Reads a compound. A name in front of `|` would name a vocabulary, and there are no names for
those. -/
def Compound.ofPieces? : List Piece → Option Compound
  | [] => none
  | .word (.ident _) :: .word (.delim '|') :: _ => none
  | .word (.ident n) :: rest => (Simple.allOfPieces? rest).map (⟨.named n, ·⟩)
  | .word (.delim '*') :: .word (.delim '|') :: .word (.delim '*') :: rest =>
    (Simple.allOfPieces? rest).map (⟨.any, ·⟩)
  | .word (.delim '*') :: .word (.delim '|') :: .word (.ident n) :: rest =>
    (Simple.allOfPieces? rest).map (⟨.named n, ·⟩)
  | .word (.delim '*') :: rest => (Simple.allOfPieces? rest).map (⟨.any, ·⟩)
  | .word (.delim '|') :: .word (.delim '*') :: rest =>
    (Simple.allOfPieces? rest).map (⟨.bare none, ·⟩)
  | .word (.delim '|') :: .word (.ident n) :: rest =>
    (Simple.allOfPieces? rest).map (⟨.bare (some n), ·⟩)
  | p :: rest => do
    let tests ← Simple.allOfPieces? (p :: rest)
    some ⟨.any, tests⟩

def Simple.allOfPieces? : List Piece → Option (List Simple)
  | [] => some []
  | .word (.hash n) :: rest => (Simple.allOfPieces? rest).map (.id n :: ·)
  | .word (.delim '.') :: .word (.ident n) :: rest =>
    (Simple.allOfPieces? rest).map (.hasClass n :: ·)
  | .block .square inner :: rest => do
    let test ← AttributeTest.ofPieces? inner
    (Simple.allOfPieces? rest).map (.attr test :: ·)
  | .word .colon :: .word (.ident n) :: rest => do
    let c ← PseudoClass.ofName? n
    (Simple.allOfPieces? rest).map (.pseudo c :: ·)
  | .word .colon :: .call name inner :: rest => do
    let s ←
      if name.toLower = "not" then do
        let c ← Compound.ofPieces? inner
        c.negated? inner
      else if name.toLower = "host" then (Compound.ofPieces? inner).map .host
      else do
        let c ← Counting.ofName? name
        let s ← Stride.ofPieces? inner
        some (.position c s)
    (Simple.allOfPieces? rest).map (s :: ·)
  | _ => none

end

def Piece.isGap : Piece → Bool
  | .word .blank => true
  | .word (.delim c) => c == '>' || c == '+' || c == '~'
  | _ => false

/-- The combinator that the pieces between two compounds stand for: white space alone, or one sign
with any white space around it. -/
def Combinator.ofGap? (gap : List Piece) : Option Combinator :=
  match gap.filter (!·.isBlank) with
  | [] => some .descendant
  | [.word (.delim '>')] => some .child
  | [.word (.delim '+')] => some .next
  | [.word (.delim '~')] => some .later
  | _ => none

/-- Splits a list into its longest runs of elements that agree on a test. -/
def runs {α : Type} (p : α → Bool) : List α → List (List α)
  | [] => []
  | a :: as =>
    match runs p as with
    | (b :: bs) :: rest => if p a == p b then (a :: b :: bs) :: rest else [a] :: (b :: bs) :: rest
    | rest => [a] :: rest

namespace Complex

/-- Reads the rest of a selector, given as gaps and compounds in turn. -/
def extendAll? (c : Complex) : List (List Piece) → Option Complex
  | [] => some c
  | gap :: compound :: rest => do
    let via ← Combinator.ofGap? gap
    let k ← Compound.ofPieces? compound
    (c.extend via k).extendAll? rest
  | [_] => none

def ofPieces? (ps : List Piece) : Option Complex :=
  match runs Piece.isGap (Piece.trim ps) with
  | [] => none
  | first :: rest => do
    let k ← Compound.ofPieces? first
    extendAll? ⟨k, []⟩ rest

end Complex

namespace SelectorList

def ofPieces? (ps : List Piece) : Option SelectorList :=
  (Piece.splitAtCommas ps).mapM Complex.ofPieces?

def ofText? (text : String) : Option SelectorList :=
  ofPieces? (Piece.ofTokens (Token.scan text))

end SelectorList

end MarkupQuery.Css
