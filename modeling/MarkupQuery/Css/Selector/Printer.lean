import MarkupQuery.Css.Selector.Stride

/-!
# Writing selectors

`Complex.text` writes a selector in one fixed form: quoted values, no white space inside a compound,
combinators with a space on either side.
-/

namespace MarkupQuery.Css

def TypeTest.tokens : TypeTest → List Token
  | any => [.delim '*']
  | named n => [.ident n]
  | bare none => [.delim '|', .delim '*']
  | bare (some n) => [.delim '|', .ident n]

def Operator.token : Operator → Token
  | equals => .delim '='
  | hasWord => .compare '~'
  | dashed => .compare '|'
  | startsWith => .compare '^'
  | endsWith => .compare '$'
  | contains => .compare '*'

def LetterCase.tokens : LetterCase → List Token
  | byName => []
  | ignored => [.blank, .ident "i"]
  | exact => [.blank, .ident "s"]

def AttributeTest.tokens (t : AttributeTest) : List Token :=
  .opening .square :: (if t.anySpace then [.delim '*', .delim '|'] else []) ++ .ident t.name ::
    (match t.comparison? with
      | none => []
      | some c => c.operator.token :: .quoted c.value :: c.letterCase.tokens) ++
    [.closing .square]

mutual

def Simple.tokens : Simple → List Token
  | .id n => [.hash n]
  | .hasClass n => [.delim '.', .ident n]
  | .attr t => t.tokens
  | .pseudo c => [.colon, .ident c.name]
  | .position c s => .colon :: .function c.name :: s.tokens ++ [.closing .round]
  | .notType t => .colon :: .function "not" :: t.tokens ++ [.closing .round]
  | .not s => .colon :: .function "not" :: s.tokens ++ [.closing .round]
  | .host c => .colon :: .function "host" :: Compound.tokens c ++ [.closing .round]

/-- The tokens of a compound. The test on the name is left out where it tests nothing and another
test follows. -/
def Compound.tokens : Compound → List Token
  | ⟨.any, s :: ss⟩ => Simple.tokensOfAll (s :: ss)
  | ⟨t, ss⟩ => t.tokens ++ Simple.tokensOfAll ss

def Simple.tokensOfAll : List Simple → List Token
  | [] => []
  | s :: ss => s.tokens ++ Simple.tokensOfAll ss

end

def Combinator.tokens : Combinator → List Token
  | child => [.blank, .delim '>', .blank]
  | descendant => [.blank]
  | next => [.blank, .delim '+', .blank]
  | later => [.blank, .delim '~', .blank]

namespace Complex

/-- The tokens of the left part of a selector, up to and with the combinator next to its
subject. -/
def leftTokens : List (Combinator × Compound) → List Token
  | [] => []
  | (c, k) :: rest => leftTokens rest ++ k.tokens ++ c.tokens

def tokens (c : Complex) : List Token :=
  leftTokens c.left ++ c.subject.tokens

def text (c : Complex) : String :=
  Token.textOfAll c.tokens

end Complex

end MarkupQuery.Css
