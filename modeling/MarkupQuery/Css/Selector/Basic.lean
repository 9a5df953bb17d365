/-!
# Selectors

What a CSS selector says, once it has been read. A selector that can be written in several ways has
one form here: `*` is dropped where other tests follow it, and so is the prefix `*|` of an element
name, since neither restricts anything.
-/

namespace MarkupQuery.Css

/-- A test on the name of an element. -/
inductive TypeTest where
  /-- Any element: written `*`, or not at all. -/
  | any
  /-- An element of this name, in whatever vocabulary. -/
  | named (name : String)
  /-- An element in no vocabulary: written `|name`, or `|*` for any name. -/
  | bare (name? : Option String)
  deriving DecidableEq, Repr

inductive Operator where
  | equals
  | hasWord
  | dashed
  | startsWith
  | endsWith
  | contains
  deriving DecidableEq, Repr

inductive LetterCase where
  /-- No flag: the case counts, except for some attributes of HTML elements. -/
  | byName
  /-- Flag `i`: the case of ASCII letters does not count. -/
  | ignored
  /-- Flag `s`: the case counts. -/
  | exact
  deriving DecidableEq, Repr

structure Comparison where
  operator : Operator
  value : String
  letterCase : LetterCase
  deriving DecidableEq, Repr

structure AttributeTest where
  /-- Written `*|name`: the attribute may be in any name space, and otherwise must be in none. -/
  anySpace : Bool
  name : String
  comparison? : Option Comparison
  deriving DecidableEq, Repr

/-- The pseudo-classes without arguments. -/
inductive PseudoClass where
  | firstChild | lastChild | onlyChild
  | firstOfType | lastOfType | onlyOfType
  | root | scope | empty
  | anyLink | link
  | visited | active | focus | hover | enabled | disabled | checked | indeterminate
  deriving DecidableEq, Repr

namespace PseudoClass

def all : List PseudoClass :=
  [firstChild, lastChild, onlyChild, firstOfType, lastOfType, onlyOfType, root, scope, empty,
    anyLink, link, visited, active, focus, hover, enabled, disabled, checked, indeterminate]

def name : PseudoClass → String
  | firstChild => "first-child"
  | lastChild => "last-child"
  | onlyChild => "only-child"
  | firstOfType => "first-of-type"
  | lastOfType => "last-of-type"
  | onlyOfType => "only-of-type"
  | root => "root"
  | scope => "scope"
  | empty => "empty"
  | anyLink => "any-link"
  | link => "link"
  | visited => "visited"
  | active => "active"
  | focus => "focus"
  | hover => "hover"
  | enabled => "enabled"
  | disabled => "disabled"
  | checked => "checked"
  | indeterminate => "indeterminate"

/-- The pseudo-class of a name; the case of ASCII letters does not count. -/
def ofName? (name : String) : Option PseudoClass :=
  all.find? (·.name == name.toLower)

theorem ofName?_name (p : PseudoClass) : ofName? p.name = some p := by
  cases p <;> decide +kernel

end PseudoClass

/-- The formula of a position: every `step` positions, from `offset` on. -/
structure Stride where
  step : Int
  offset : Int
  deriving DecidableEq, Repr

/-- What a position is counted among, and from which side. -/
structure Counting where
  ofType : Bool
  fromEnd : Bool
  deriving DecidableEq, Repr

namespace Counting

def all : List Counting := [⟨false, false⟩, ⟨false, true⟩, ⟨true, false⟩, ⟨true, true⟩]

def name : Counting → String
  | ⟨false, false⟩ => "nth-child"
  | ⟨false, true⟩ => "nth-last-child"
  | ⟨true, false⟩ => "nth-of-type"
  | ⟨true, true⟩ => "nth-last-of-type"

def ofName? (name : String) : Option Counting :=
  all.find? (·.name == name.toLower)

theorem ofName?_name (c : Counting) : ofName? c.name = some c := by
  obtain ⟨_ | _, _ | _⟩ := c <;> decide +kernel

end Counting

mutual

/-- One test on an element, other than on its name. -/
inductive Simple where
  | id (name : String)
  | hasClass (name : String)
  | attr (test : AttributeTest)
  | pseudo (c : PseudoClass)
  | position (c : Counting) (s : Stride)
  | notType (t : TypeTest)
  | not (s : Simple)
  | host (c : Compound)

/-- Tests on one element: on its name, and any others in the order in which they are written. -/
structure Compound where
  type : TypeTest
  tests : List Simple

end

/-- How two compounds are related: the right one is a child, a descendant, the next sibling or a
later sibling of the left one. -/
inductive Combinator where
  | child
  | descendant
  | next
  | later
  deriving DecidableEq, Repr

/-- Compounds joined by combinators, seen from the right: `subject` is what the selector selects,
and `left` holds what must stand around it, nearest first, each with the combinator to its
right. -/
structure Complex where
  subject : Compound
  left : List (Combinator × Compound)

namespace Complex

def extend (c : Complex) (via : Combinator) (k : Compound) : Complex :=
  ⟨k, (via, c.subject) :: c.left⟩

def anchor (c : Complex) (via : Combinator) (k : Compound) : Complex :=
  ⟨c.subject, c.left ++ [(via, k)]⟩

end Complex

/-- A list of selectors, which selects what any of its entries selects. -/
abbrev SelectorList := List Complex

end MarkupQuery.Css
