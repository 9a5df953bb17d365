import MarkupQuery.Css.Name
import MarkupQuery.Css.Selector.Stride
import MarkupQuery.Text.Part
import MarkupQuery.Tree.Outward

/-!
# Matching

Which elements a selector selects. The tests of a compound look at the element, its siblings and
its children; combinators lead to other elements, and the left part of a selector matches if some
choice among them lets every compound match.

State that only a browser has (a visited link, the focus) never holds here, and no element is the
host of a shadow tree.
-/

namespace MarkupQuery

open Css

namespace Cursor

def isHtml (c : Cursor) : Bool :=
  match c.label with
  | .element n _ => n.vocabulary == .html
  | _ => false

/-- Where a combinator leads from an element, to the left. -/
def related (c : Cursor) : Combinator → List Cursor
  | .child => c.parentElement?.toList
  | .descendant => c.ancestorElements
  | .next => c.precedingElements.take 1
  | .later => c.precedingElements

/-- Whether the cursor stands right below a document node. -/
def isRoot (c : Cursor) : Bool :=
  c.parent?.any (·.label.isDocument)

/-- Whether an element holds no element and no text but the empty one. Comments and instructions
do not count. -/
def isEmpty (c : Cursor) : Bool :=
  c.focus.children.all fun t =>
    match t.label with
    | .element _ _ => false
    | .text s => s.isEmpty
    | _ => true

def isLink (c : Cursor) : Bool :=
  match c.label with
  | .element ⟨.html, n⟩ as =>
    (n == "a" || n == "area" || n == "link") && (as.get? (.plain "href")).isSome
  | _ => false

/-- The siblings that count for a position: all elements, or those of the same name. -/
def counted (c : Cursor) (ofType : Bool) (ts : List Tree) : List Tree :=
  ts.filter fun t =>
    t.label.isElement && (!ofType || t.label.name? == c.label.name?)

/-- The position of an element among its siblings, from one. -/
def position (c : Cursor) (k : Counting) : Nat :=
  (c.counted k.ofType (if k.fromEnd then c.after else c.before)).length + 1

end Cursor

namespace Css

/-- A name as it is compared on an element: HTML elements have names in lower case. -/
def foldName (name : String) (html : Bool) : String :=
  if html then name.toLower else name

def TypeTest.holds : TypeTest → ElementName → Bool
  | any, _ => true
  | named n, e => e.localName == foldName n (e.vocabulary == .html)
  | bare none, e => e.vocabulary == .unnamed
  | bare (some n), e => e.vocabulary == .unnamed && e.localName == n

/-- Splits an attribute value into words at its white space; two white spaces in a row have an
empty word between them. -/
def splitWords : List Char → List (List Char)
  | [] => [[]]
  | c :: cs =>
    if isValueSpace c then [] :: splitWords cs
    else match splitWords cs with
      | w :: ws => (c :: w) :: ws
      | [] => [[c]]

namespace AttributeTest

/-- The attributes of HTML whose values are compared without regard to the case of ASCII letters
when no flag says otherwise. -/
def caseless : List String :=
  ["accept", "accept-charset", "align", "alink", "axis", "bgcolor", "charset", "checked", "clear",
    "codetype", "color", "compact", "declare", "defer", "dir", "direction", "disabled", "enctype",
    "face", "frame", "hreflang", "http-equiv", "lang", "language", "link", "media", "method",
    "multiple", "nohref", "noresize", "noshade", "nowrap", "readonly", "rel", "rev", "rules",
    "scope", "scrolling", "selected", "shape", "target", "text", "type", "valign", "valuetype",
    "vlink"]

/-- Compares a value with the one that a test asks for, both with their letter case settled. An
empty word, beginning, end or part is in no value. -/
def compareChars (o : Operator) (asked value : List Char) : Bool :=
  match o with
  | .equals => value == asked
  | .hasWord => !asked.isEmpty && (splitWords value).contains asked
  | .dashed => value == asked || (asked ++ ['-']).isPrefixOf value
  | .startsWith => !asked.isEmpty && asked.isPrefixOf value
  | .endsWith => !asked.isEmpty && asked.isSuffixOf value
  | .contains => !asked.isEmpty && Text.hasPart asked value

/-- Whether the letter case is left out of account on an HTML element, or on any other. -/
def ignoresCase (t : AttributeTest) (html : Bool) : LetterCase → Bool
  | .ignored => true
  | .exact => false
  | .byName => html && !t.anySpace && caseless.contains t.name.toLower

def admits (t : AttributeTest) (html : Bool) (value : String) : Bool :=
  match t.comparison? with
  | none => true
  | some c =>
    if t.ignoresCase html c.letterCase then
      compareChars c.operator c.value.toLower.toList value.toLower.toList
    else compareChars c.operator c.value.toList value.toList

def holds (t : AttributeTest) (html : Bool) (as : Attributes) : Bool :=
  let name := foldName t.name html
  if t.anySpace then as.any fun (n, v) => n.localName == name && t.admits html v
  else (as.get? (.plain name)).any (t.admits html)

end AttributeTest

def PseudoClass.holds (p : PseudoClass) (c : Cursor) : Bool :=
  match p with
  | firstChild => c.position ⟨false, false⟩ == 1
  | lastChild => c.position ⟨false, true⟩ == 1
  | onlyChild => c.position ⟨false, false⟩ == 1 && c.position ⟨false, true⟩ == 1
  | firstOfType => c.position ⟨true, false⟩ == 1
  | lastOfType => c.position ⟨true, true⟩ == 1
  | onlyOfType => c.position ⟨true, false⟩ == 1 && c.position ⟨true, true⟩ == 1
  | root => c.isRoot
  | scope => c.isRoot
  | empty => c.isEmpty
  | anyLink => c.isLink
  | link => c.isLink
  | visited | active | focus | hover | enabled | disabled | checked | indeterminate => false

def hasClass (name : String) (c : Cursor) : Bool :=
  !name.isEmpty &&
    (c.label.attribute? "class").any fun v => (splitWords v.toList).contains name.toList

def TypeTest.holdsAt (t : TypeTest) (c : Cursor) : Bool :=
  c.label.name?.any t.holds

def Simple.holds : Simple → Cursor → Bool
  | id n, c => c.label.attribute? "id" == some n
  | hasClass n, c => Css.hasClass n c
  | attr t, c => t.holds c.isHtml c.label.attributes
  | pseudo p, c => p.holds c
  | position k s, c => s.admits (c.position k)
  | notType t, c => !t.holdsAt c
  | not s, c => !s.holds c
  | host _, _ => false

def Compound.holds (k : Compound) (c : Cursor) : Bool :=
  k.type.holdsAt c && k.tests.all (·.holds c)

/-- Whether the left part of a selector can be matched around an element: the nearest compound
matches one of the elements that its combinator leads to, and the rest can be matched around that
one. -/
def leftHolds : List (Combinator × Compound) → Cursor → Bool
  | [], _ => true
  | (via, k) :: rest, c => (c.related via).any fun d => k.holds d && leftHolds rest d

end Css

end MarkupQuery
