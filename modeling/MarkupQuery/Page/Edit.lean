import MarkupQuery.Page.Basic

/-!
# Edits

The changes that can be made to a page, and where its nodes stand afterwards. `Edit.apply` makes the
change and `Edit.relocate` sends the location of every node before it to the location of the same
node after it, so that whoever holds on to a node can follow it.
-/

namespace MarkupQuery

/-- A change of a page. -/
inductive Edit where
  /-- Gives an attribute a value. -/
  | setAttribute (place : Location) (name value : String)
  /-- Takes an attribute away. -/
  | removeAttribute (place : Location) (name : String)
  /-- Takes out all children and puts one text in their place. -/
  | setText (place : Location) (value : String)
  /-- Puts a new tree behind the children of a node. -/
  | append (place : Location) (new : Tree)
  /-- Puts a new tree in front of a node. In front of the top of a tree there is no place, and the
  new tree stands alone. -/
  | insertBefore (place : Location) (new : Tree)
  /-- Takes a node out of the tree, with all below it. The top of a tree stays where it is, but is
  tied to no other tree any more. -/
  | detach (place : Location)

namespace Path

/-- Splits a path into the path of the parent and the last index; the top has no parent. -/
def splitLast? (p : Path) : Option (Path × Nat) :=
  p.getLast?.map (p.dropLast, ·)

/-- Changes the index that a path takes below a node; paths that do not lead below it stay. -/
def mapBelow (f : Nat → Nat) : Path → Path → Path
  | [], k :: rest => f k :: rest
  | [], [] => []
  | i :: p, k :: q => if i = k then k :: mapBelow f p q else k :: q
  | _ :: _, [] => []

/-- What is left of a path after the path of a node above it. -/
def drop? : Path → Path → Option Path
  | [], q => some q
  | i :: p, k :: q => if i = k then drop? p q else none
  | _ :: _, [] => none

end Path

namespace Edit

def location : Edit → Location
  | setAttribute l _ _ | removeAttribute l _ | setText l _ | append l _ | insertBefore l _
  | detach l => l

/-- Makes a change. A location that names no node changes nothing. -/
def apply (e : Edit) (p : Page) : Page :=
  match p.subtree? e.location with
  | none => p
  | some t =>
    match e with
    | setAttribute l name value =>
      p.modifyAt l (·.mapLabel (·.mapAttributes (·.set (.plain name) value)))
    | removeAttribute l name =>
      p.modifyAt l (·.mapLabel (·.mapAttributes (·.erase (.plain name))))
    | setText l value =>
      let p := p.modifyAt l (·.mapChildren fun _ => [.leaf (.text value)])
      p.addTrees t.children
    | append l new => p.modifyAt l (·.mapChildren (· ++ [new]))
    | insertBefore l new =>
      match Path.splitLast? l.path with
      | some (parent, i) =>
        p.modifyAt ⟨l.tree, parent⟩ (·.mapChildren fun cs => cs.take i ++ new :: cs.drop i)
      | none => p.addTrees [new]
    | detach l =>
      match Path.splitLast? l.path with
      | some (parent, i) =>
        let p := p.modifyAt ⟨l.tree, parent⟩ (·.mapChildren (·.eraseIdx i))
        p.addTrees [t]
      | none => p.untie l.tree

/-- Where the node of a location stands after a change. -/
def relocate (e : Edit) (p : Page) (n : Location) : Location :=
  match p.subtree? e.location with
  | none => n
  | some _ =>
    if n.tree ≠ e.location.tree then n
    else match e with
      | setAttribute _ _ _ | removeAttribute _ _ | append _ _ => n
      | setText l _ =>
        match Path.drop? l.path n.path with
        | some (k :: rest) => ⟨p.trees.length + k, rest⟩
        | _ => n
      | insertBefore l _ =>
        match Path.splitLast? l.path with
        | some (parent, i) =>
          { n with path := Path.mapBelow (fun k => if k < i then k else k + 1) parent n.path }
        | none => n
      | detach l =>
        match Path.splitLast? l.path with
        | some (parent, i) =>
          match Path.drop? l.path n.path with
          | some rest => ⟨p.trees.length, rest⟩
          | none =>
            { n with path := Path.mapBelow (fun k => if k < i then k else k - 1) parent n.path }
        | none => n

/-- Where the node that a change is about stands afterwards: the new node when one is put in front
of another, and otherwise the node that the change is made at. -/
def subject (e : Edit) (p : Page) : Location :=
  match e with
  | insertBefore l _ => if l.path.isEmpty then ⟨p.trees.length, []⟩ else l
  | e => e.relocate p e.location

end Edit

end MarkupQuery
