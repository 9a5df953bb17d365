import MarkupQuery.Page.Edit

/-!
# What remains of a tree

A tree that was taken out of a page stays as long as somebody holds on to its top. When nobody does,
the top goes, and with it the nodes below, from the top down and from the first child on. A node
that is held stays, with all below it and with the siblings behind it: each of these is the top of a
tree of its own then, since the node above is gone. The siblings behind it stay as long as it does,
or as long as they are held themselves.

* `Page.stays` says which trees stay.
* `Tree.remains` lists the nodes that stay when the top of a tree goes.
* `Page.breakUp` makes trees of them, and `Page.afterBreakUp` sends the location of a node before to
  its location after.
-/

namespace MarkupQuery

mutual

/-- The nodes that stay when the top of a tree goes, as rows of siblings. `here` is the path of the
top. -/
def Tree.remainsAt (held : Path → Bool) (here : Path) : Tree → List (List Path)
  | .node _ cs => Tree.remainsAmong held here 0 cs

/-- The nodes that stay when the node above some trees goes, where `i` is the index of the first of
them. The first one that is held stays with all behind it. -/
def Tree.remainsAmong (held : Path → Bool) (above : Path) (i : Nat) : List Tree → List (List Path)
  | [] => []
  | t :: ts =>
    if held (above ++ [i]) then [(List.range' i (ts.length + 1)).map fun k => above ++ [k]]
    else t.remainsAt held (above ++ [i]) ++ Tree.remainsAmong held above (i + 1) ts

end

/-- The nodes that stay when the top of a tree goes, as rows of siblings. -/
def Tree.remains (held : Path → Bool) (t : Tree) : List (List Path) := t.remainsAt held []

namespace Page

/-- Whether a tree stays: it is the one that the page was opened with, its top is held, or it is
tied to a tree that stays. `earlier` holds the trees in front of it that stay; no tree is tied to
one behind it. -/
def staysAfter (p : Page) (held : List Location) (earlier : List Nat) (i : Nat) : Bool :=
  i == 0 || held.contains ⟨i, []⟩ || p.ties.any fun (a, b) => b == i && earlier.contains a

/-- The trees that stay. -/
def stays (p : Page) (held : List Location) : List Nat :=
  (List.range p.trees.length).foldl
    (fun earlier i => if p.staysAfter held earlier i then i :: earlier else earlier) []

/-- Makes trees of the nodes of a row. -/
def addRow (p : Page) (i : Nat) (row : List Path) : Page :=
  let first := p.trees.length
  { trees := p.trees ++ row.filterMap fun q => p.subtree? ⟨i, q⟩
    ties := p.ties ++ (List.range (row.length - 1)).map fun k => (first + k, first + k + 1) }

def remains (p : Page) (held : List Location) (i : Nat) : List (List Path) :=
  match p.trees[i]? with
  | some t => t.remains fun q => held.contains ⟨i, q⟩
  | none => []

/-- Makes trees of the nodes that stay when the top of a tree goes. -/
def breakUp (p : Page) (held : List Location) (i : Nat) : Page :=
  (p.remains held i).foldl (·.addRow i ·) p

/-- Where the node of a location stands after a tree has been broken up. A node that does not stay
keeps its location, where nobody looks for it any more. -/
def afterBreakUp (p : Page) (held : List Location) (i : Nat) (l : Location) : Location :=
  if l.tree ≠ i then l
  else
    let place? (q : Path) (k : Nat) : Option Location :=
      (Path.drop? q l.path).map (⟨p.trees.length + k, ·⟩)
    ((p.remains held i).flatten.zipIdx.findSome? fun (q, k) => place? q k).getD l

end Page

end MarkupQuery
