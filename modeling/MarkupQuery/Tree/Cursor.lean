import MarkupQuery.Tree.Basic

/-!
# Places in a tree

A cursor is a part of a tree together with everything around it: for each node above, the node
itself and the trees to the left and to the right of the way down. It answers the questions that
selectors ask, about parents and siblings, without searching from the top.

* `Tree.cursors` lists the places of a tree in document order.
* `Cursor.top` puts the whole tree together again, and `Cursor.path` says where in it the cursor
  stands.
-/

namespace MarkupQuery

/-- One step of the way down to a place: the node passed, the trees left of the way, nearest
first, and the trees right of it. -/
structure Crumb where
  label : Node
  before : List Tree
  after : List Tree

/-- A place in a tree: the part that stands there and the way down to it, nearest step first. -/
structure Cursor where
  focus : Tree
  above : List Crumb

namespace Cursor

def label (c : Cursor) : Node := c.focus.label

def parent? (c : Cursor) : Option Cursor :=
  match c.above with
  | [] => none
  | ⟨l, before, after⟩ :: above => some ⟨.node l (before.reverse ++ c.focus :: after), above⟩

/-- Puts a part and the way down to it together into the whole tree. -/
def rebuild (t : Tree) : List Crumb → Tree
  | [] => t
  | ⟨l, before, after⟩ :: above => rebuild (.node l (before.reverse ++ t :: after)) above

def top (c : Cursor) : Tree := rebuild c.focus c.above

def path (c : Cursor) : Path :=
  (c.above.map (·.before.length)).reverse

def mapLabel (f : Node → Node) (c : Cursor) : Cursor :=
  { c with focus := c.focus.mapLabel f }

/-- The trees left of the cursor under the same parent, nearest first. -/
def before (c : Cursor) : List Tree :=
  match c.above with
  | [] => []
  | crumb :: _ => crumb.before

def after (c : Cursor) : List Tree :=
  match c.above with
  | [] => []
  | crumb :: _ => crumb.after

/-- The places of the trees to the left, nearest first. -/
def leftOf (label : Node) (above : List Crumb) : List Tree → List Tree → List Cursor
  | [], _ => []
  | t :: before, after =>
    ⟨t, ⟨label, before, after⟩ :: above⟩ :: leftOf label above before (t :: after)

def precedingSiblings (c : Cursor) : List Cursor :=
  match c.above with
  | [] => []
  | ⟨l, before, after⟩ :: above => leftOf l above before (c.focus :: after)

/-- The nodes above a place, nearest first: each crumb in turn becomes the focus. -/
def ancestorsFrom (t : Tree) : List Crumb → List Cursor
  | [] => []
  | ⟨l, before, after⟩ :: above =>
    let up := .node l (before.reverse ++ t :: after)
    ⟨up, above⟩ :: ancestorsFrom up above

def ancestors (c : Cursor) : List Cursor :=
  ancestorsFrom c.focus c.above

/-- The places of a list of trees under one node, in order; `before` holds the trees already
passed, nearest first. -/
def placesOf (label : Node) (above : List Crumb) : List Tree → List Tree → List Cursor
  | _, [] => []
  | before, t :: after =>
    ⟨t, ⟨label, before, after⟩ :: above⟩ :: placesOf label above (t :: before) after

def children (c : Cursor) : List Cursor :=
  placesOf c.focus.label c.above [] c.focus.children

end Cursor

mutual

/-- Every place of a tree in document order, the top first; `above` is the way down to it. -/
def Tree.cursors : Tree → List Crumb → List Cursor
  | .node l cs, above => ⟨.node l cs, above⟩ :: Tree.cursorsOfAll l above [] cs

def Tree.cursorsOfAll (label : Node) (above : List Crumb) : List Tree → List Tree → List Cursor
  | _, [] => []
  | before, t :: after =>
    t.cursors (⟨label, before, after⟩ :: above) ++ Tree.cursorsOfAll label above (t :: before) after

end

namespace Cursor

/-- The cursor and every place below it, in document order. -/
def inclusiveDescendants (c : Cursor) : List Cursor :=
  c.focus.cursors c.above

def descendants (c : Cursor) : List Cursor :=
  Tree.cursorsOfAll c.focus.label c.above [] c.focus.children

def child? (c : Cursor) (i : Nat) : Option Cursor :=
  match c.focus.children.drop i with
  | [] => none
  | t :: after =>
    some ⟨t, ⟨c.focus.label, (c.focus.children.take i).reverse, after⟩ :: c.above⟩

def descend? (c : Cursor) : Path → Option Cursor
  | [] => some c
  | i :: p => match c.child? i with
    | some d => d.descend? p
    | none => none

end Cursor

def Tree.cursor? (t : Tree) (p : Path) : Option Cursor :=
  Cursor.descend? ⟨t, []⟩ p

end MarkupQuery
