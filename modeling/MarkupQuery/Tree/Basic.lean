import MarkupQuery.Tree.Node

/-!
# Markup trees

A tree is a node with the list of its children. Nodes of any kind may have children, since trees
are also put together by hand. A place in a tree is named by its *path*: the indexes of the
children to go to, from the top down.
-/

namespace MarkupQuery

/-- A node with the trees below it, in document order. -/
inductive Tree where
  | node (label : Node) (children : List Tree)

instance : Inhabited Tree := ⟨.node .document []⟩

/-- The child indexes that lead from the top of a tree to a node. -/
abbrev Path := List Nat

namespace Tree

def label : Tree → Node
  | node l _ => l

def children : Tree → List Tree
  | node _ cs => cs

def leaf (label : Node) : Tree := node label []

mutual

/-- All text below a node, and its own if it is a text node, joined in document order. Comments
and instructions add nothing. -/
def text : Tree → String
  | node (.text s) cs => s ++ textOfAll cs
  | node _ cs => textOfAll cs

def textOfAll : List Tree → String
  | [] => ""
  | t :: ts => t.text ++ textOfAll ts

end

def subtree? (t : Tree) : Path → Option Tree
  | [] => some t
  | i :: p => match t.children[i]? with
    | some c => c.subtree? p
    | none => none

/-- Replaces the part of a tree that stands at a path. A path that leads nowhere changes
nothing. -/
def modifyAt (f : Tree → Tree) : Path → Tree → Tree
  | [], t => f t
  | i :: p, node l cs => node l (cs.modify i (modifyAt f p))

def mapLabel (f : Node → Node) : Tree → Tree
  | node l cs => node (f l) cs

def mapChildren (f : List Tree → List Tree) : Tree → Tree
  | node l cs => node l (f cs)

end Tree

end MarkupQuery
