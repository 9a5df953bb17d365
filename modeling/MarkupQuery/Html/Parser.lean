import MarkupQuery.Html.Construction.Mode
import MarkupQuery.Html.Lexer

/-!
# Reading markup

`Html.page` reads a whole page into a tree under a document node, and `Html.fragment` reads what may
stand in a body into a tree under an `html` element. Any text is a page and any text is a fragment:
what is not well formed is mended as browsers do.
-/

namespace MarkupQuery.Html

structure Reading where
  lexer : Lexer
  tree : Construction
  /-- Whether a line feed that comes next belongs to the end of a line that has been read. -/
  afterReturn : Bool

namespace Reading

def readTokens (content : Content) (state : LexerState) (tree : Construction) :
    List Token → Lexer × Construction
  | [] => (⟨content, state⟩, tree)
  | t :: ts =>
    let tree := tree.read t
    readTokens (tree.content?.getD content) state tree ts

def inForeign (tree : Construction) : Bool :=
  tree.frames.head?.any (·.name.vocabulary != .html)

/-- Goes on after what a character has led to. -/
def goOn (tree : Construction) (step : Lexer.Step) (afterReturn : Bool) : Reading :=
  let (lexer, tree) := readTokens step.1.content step.1.state tree step.2
  ⟨lexer, tree, afterReturn⟩

/-- Reads a character. A line ends with a carriage return, a line feed, or both in this order. -/
def readChar (r : Reading) (c : Char) : Reading :=
  if c = '\n' ∧ r.afterReturn then { r with afterReturn := false }
  else if c = '\n' ∨ c = '\r' then
    let (step, afterReturn) := r.lexer.lineEnd (inForeign r.tree) (c == '\r')
    goOn r.tree step afterReturn
  else goOn r.tree (r.lexer.step (inForeign r.tree) c) false

/-- Reads a text to its end. A byte order mark in front is no part of it. -/
def readAll (tree : Construction) (text : String) : Construction :=
  let cs := match text.toList with
    | '\uFEFF' :: rest => rest
    | cs => cs
  let r := cs.foldl readChar ⟨.start, tree, false⟩
  (r.lexer.finish.foldl Construction.read r.tree).finish

end Reading

def page (text : String) : Tree :=
  let b := Reading.readAll .page text
  .node .document (b.prolog.reverse ++ b.root :: b.epilog.reverse)

def fragment (text : String) : Tree :=
  (Reading.readAll .fragment text).root

end MarkupQuery.Html
