import MarkupQuery.Tree.Cursor

/-!
# Pages

A page is the tree it was opened with and, behind it, the trees that were taken out of it since. A
node that has been detached can still be searched. A node is named by its location: the tree that it
stands in and its path there.

The trees that were taken out are there for those who hold on to them; the module `Page.Remains`
says what becomes of the others. No index of a tree is ever used again.
-/

namespace MarkupQuery

/-- The name of a node on a page. -/
structure Location where
  /-- The index of the tree; the tree with index zero is the one that the page was opened with. -/
  tree : Nat
  path : Path
  deriving DecidableEq, Repr

def Location.root : Location := ⟨0, []⟩

def Location.isDetached (l : Location) : Bool := l.tree != 0

/-- The trees of a page. -/
structure Page where
  trees : List Tree
  /-- The trees that once stood side by side under a node that is gone, in pairs of indexes: as long
  as the first stays, so does the second. -/
  ties : List (Nat × Nat)

namespace Page

def ofTree (t : Tree) : Page := ⟨[t], []⟩

def addTrees (p : Page) (ts : List Tree) : Page := { p with trees := p.trees ++ ts }

def cursor? (p : Page) (l : Location) : Option Cursor :=
  p.trees[l.tree]?.bind (·.cursor? l.path)

def subtree? (p : Page) (l : Location) : Option Tree :=
  p.trees[l.tree]?.bind (·.subtree? l.path)

/-- The text below a node; a location that names no node has none. -/
def text (p : Page) (l : Location) : String :=
  ((p.subtree? l).map Tree.text).getD ""

def attribute? (p : Page) (l : Location) (name : String) : Option String :=
  (p.subtree? l).bind (·.label.attribute? name)

def setTree (p : Page) (i : Nat) (t : Tree) : Page := { p with trees := p.trees.set i t }

def modifyAt (p : Page) (l : Location) (f : Tree → Tree) : Page :=
  { p with trees := p.trees.modify l.tree (Tree.modifyAt f l.path) }

/-- Unties a tree from those that once stood beside it, which are tied to each other instead. -/
def untie (p : Page) (i : Nat) : Page :=
  let before := (p.ties.filter (·.2 == i)).map Prod.fst
  let after := (p.ties.filter (·.1 == i)).map Prod.snd
  { p with
    ties := p.ties.filter (fun (a, b) => a != i && b != i) ++
      before.flatMap fun a => after.map (a, ·) }

end Page

end MarkupQuery
