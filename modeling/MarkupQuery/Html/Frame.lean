import MarkupQuery.Html.Element
import MarkupQuery.Tree.Basic

/-!
# Open elements

While a tree is being built, the elements whose end has not come yet form a stack, innermost first.
Each holds the children it has so far. An element becomes a child of the one around it when it is
closed; until then, what is to stand after it is kept apart in `beyond`.

An element may also end while one inside it stays open. It then leaves the stack, and waits around
the one that is still open.
-/

namespace MarkupQuery.Html

/-- An element with the children it has so far. Lists of trees hold the last one first. -/
structure Draft where
  name : ElementName
  attributes : Attributes
  /-- The children so far. -/
  inside : List Tree
  /-- The children that stand after the element still open inside this one. -/
  beyond : List Tree

namespace Draft

/-- The tree that an element is once it is closed. What stands in a template is no part of the
tree. -/
def close (d : Draft) : Tree :=
  .node (.element d.name d.attributes)
    (if d.name = .html "template" then [] else (d.beyond ++ d.inside).reverse)

/-- Takes in the element that was open inside, once it is closed. -/
def receive (t : Tree) (d : Draft) : Draft :=
  { d with inside := d.beyond ++ t :: d.inside, beyond := [] }

end Draft

/-- An element whose end has not come yet. -/
structure Frame extends Draft where
  /-- The elements right around this one that have ended before it, innermost first. -/
  ended : List Draft
  /-- Whether this is the form that the next end tag of a form ends. -/
  isForm : Bool

namespace Frame

def new (name : ElementName) (attributes : Attributes) : Frame :=
  ⟨⟨name, attributes, [], []⟩, [], false⟩

/-- The tree that an element is once it is closed, within those that have ended before it. -/
def close (f : Frame) : Tree := f.ended.foldl (fun t d => (d.receive t).close) f.toDraft.close

def add (t : Tree) (f : Frame) : Frame := { f with inside := t :: f.inside }

/-- Puts a child behind the element that is still open inside. -/
def addBeyond (t : Tree) (f : Frame) : Frame := { f with beyond := t :: f.beyond }

def receive (t : Tree) (f : Frame) : Frame := { f with toDraft := f.toDraft.receive t }

/-- Puts a character behind some trees, last first: text grows, and does not stand beside text. -/
def addChar (c : Char) : List Tree → List Tree
  | .node (.text s) cs :: rest => .node (.text (s.push c)) cs :: rest
  | ts => .leaf (.text c.toString) :: ts

def isHtml (name : String) (f : Frame) : Bool := f.name == .html name

def isHtmlIn (names : List String) (f : Frame) : Bool :=
  f.name.vocabulary == .html && names.contains f.name.localName

end Frame

/-- The open elements, innermost first. -/
abbrev Frames := List Frame

namespace Frames

/-- Closes the innermost element; the outermost one stays open. -/
def pop : Frames → Frames
  | f :: g :: rest => g.receive f.close :: rest
  | fs => fs

def popMany : Nat → Frames → Frames
  | 0, fs => fs
  | n + 1, fs => popMany n (pop fs)

/-- Closes elements up to and with the innermost one that passes a test. -/
def popThrough (p : Frame → Bool) (fs : Frames) : Frames :=
  match fs.findIdx? p with
  | some i => popMany (i + 1) fs
  | none => fs

/-- Closes the elements in front of the innermost one that passes a test. -/
def popDownTo (p : Frame → Bool) (fs : Frames) : Frames :=
  popMany (fs.takeWhile (!p ·)).length fs

def popImplied (but : List String) (fs : Frames) : Frames :=
  popMany (fs.takeWhile fun f => f.isHtmlIn impliedEndNames && !f.isHtmlIn but).length fs

/-- Takes the innermost element that passes a test off the stack, while the elements inside it stay
open: it waits around the outermost of those. -/
def release (p : Frame → Bool) : Frames → Frames
  | f :: g :: rest =>
    if p f then pop (f :: g :: rest)
    else if p g then { f with ended := f.ended ++ g.toDraft :: g.ended } :: rest
    else f :: release p (g :: rest)
  | fs => fs

/-- Whether an open element passes a test, in front of the first one at which the search stops. -/
def inScope (stop : ElementName → Bool) (p : Frame → Bool) : Frames → Bool
  | [] => false
  | f :: fs => p f || (!stop f.name && inScope stop p fs)

def mapTop (g : Frame → Frame) : Frames → Frames
  | f :: fs => g f :: fs
  | [] => []

def mapLast (g : Frame → Frame) : Frames → Frames
  | [] => []
  | [f] => [g f]
  | f :: fs => f :: mapLast g fs

def mapSecondLast (g : Frame → Frame) : Frames → Frames
  | [f, h] => [g f, h]
  | f :: fs => f :: mapSecondLast g fs
  | [] => []

def closeAll (fs : Frames) : Option Tree :=
  match popMany fs.length fs with
  | f :: _ => some f.close
  | [] => none

end Frames

end MarkupQuery.Html
