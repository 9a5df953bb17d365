import MarkupQuery.Text.Blank

/-!
# Locators

A locator is a CSS selector with two additions: `>` in front of it restricts it to what hangs on the
children of the scope, and a suffix says what to take from the nodes found, `::text` their text and
`[name]` an attribute. Only the additions are read here; the CSS selector between them is kept as
text.

* `Locator.parse?` reads a locator; it fails only on a text that ends in `]` and has no `[`.
* `Locator.text` writes one.
-/

namespace MarkupQuery

/-- What is taken from a node that was found, instead of the node itself. -/
inductive Extraction where
  | text
  | attribute (name : String)
  deriving DecidableEq, Repr

/-- A CSS selector with what is added to it. -/
structure Locator where
  /-- The CSS selector; the empty text stands for the scope itself. -/
  css : String
  extraction? : Option Extraction
  /-- Whether the search hangs on the children of the scope. -/
  childScoped : Bool
  deriving DecidableEq, Repr

namespace Locator

/-- Splits off the suffix of a locator, given backwards. What is left is backwards too. There is
none when a closing bracket ends the text and no bracket opens. -/
def splitSuffix? : List Char → Option (List Char × Option Extraction)
  | 't' :: 'x' :: 'e' :: 't' :: ':' :: ':' :: rest => some (rest, some .text)
  | ']' :: rest =>
    match rest.dropWhile (· ≠ '[') with
    | [] => none
    | _ :: before =>
      some (before, some (.attribute (String.ofList (rest.takeWhile (· ≠ '[')).reverse)))
  | rest => some (rest, none)

/-- Splits off the sign in front of a locator and the blanks after it. -/
def splitSign : List Char → List Char × Bool
  | '>' :: rest => (rest.dropWhile Text.isBlank, true)
  | rest => (rest, false)

def parse? (raw : String) : Option Locator :=
  (splitSuffix? raw.toList.reverse).map fun (before, extraction?) =>
    let (css, childScoped) := splitSign before.reverse
    ⟨String.ofList css, extraction?, childScoped⟩

/-- Whether the locator means the scope itself, as far as its CSS selector goes. -/
def isSelf (l : Locator) : Bool := l.css.isEmpty

end Locator

def Extraction.suffix : Extraction → String
  | .text => "::text"
  | .attribute name => "[" ++ name ++ "]"

def Locator.text (l : Locator) : String :=
  (if l.childScoped then "> " else "") ++ l.css ++ (l.extraction?.map Extraction.suffix).getD ""

end MarkupQuery
