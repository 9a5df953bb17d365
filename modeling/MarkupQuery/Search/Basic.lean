import MarkupQuery.Css.Selector.Miss
import MarkupQuery.Css.Selector.Printer
import MarkupQuery.Css.Selector.Reader
import MarkupQuery.Error
import MarkupQuery.Query.Locator
import MarkupQuery.Search.Mark
import MarkupQuery.Search.Marker

/-!
# Searching a tree

How a locator finds nodes from a scope. A plain locator selects among everything below the scope.
A child-scoped one hangs on the children of the scope: the scope is marked with a class of its own,
every entry of the selector is written again behind `.mark > `, and the new selector is run over
everything from the parent of the scope down, where it can only match below the mark. A scope
without a parent cannot be searched that way; there the selector picks among the element children.

A search says which nodes it found by their paths, and hands back the scope as it leaves it and the
source of marker ids after it.
-/

namespace MarkupQuery

open Css

/-- How many nodes a search is after. -/
inductive Want where
  /-- The first node in document order. -/
  | first
  /-- All nodes in document order. -/
  | all
  deriving DecidableEq, Repr

def Want.sought : Want → Sought
  | first => .node
  | all => .nodes

def Want.cut {α : Type} : Want → List α → List α
  | first, found => found.take 1
  | all, found => found

namespace Search

/-- What a search leaves behind. -/
structure Outcome where
  answer : Except Error (List Path)
  /-- The scope after the search, with the tree around it. -/
  scope : Cursor
  /-- The source of marker ids after the search. -/
  markers : Marker.Source

def orNoMatch (css : String) (sought : Sought) (found : List Path) : Except Error (List Path) :=
  if found.isEmpty then .error (.noMatch css sought) else .ok found

def select (l : SelectorList) (places : List Cursor) : List Path :=
  (places.filter l.selects).map Cursor.path

/-- The search of a plain locator: everything below the scope. -/
def below (css : String) (scope : Cursor) (want : Want) : Except Error (List Path) :=
  match SelectorList.ofText? css with
  | none => .error (.badSelector css)
  | some l => orNoMatch css want.sought (want.cut (select l scope.descendants))

/-- The text of a selector that selects what an entry selects, hung on the children of an element
that carries a class. -/
def markedText (mark : String) (l : SelectorList) : String :=
  ", ".intercalate (l.map fun e => "." ++ mark ++ " > " ++ e.text)

/-- Where the search of a marked scope runs: from the parent down. -/
def aroundScope (scope : Cursor) : List Cursor :=
  match scope.parent? with
  | some parent => parent.inclusiveDescendants
  | none => []

/-- Whether a scope can be marked and searched from its parent. -/
def canMark (scope : Cursor) : Bool :=
  scope.isElement && scope.parent?.isSome

def belowChildren (css : String) (scope : Cursor) (markers : Marker.Source) : Outcome :=
  match SelectorList.ofText? css with
  | none => ⟨.error (.badSelector css), scope, markers⟩
  | some l =>
    if canMark scope then
      let (id, markers) := markers.next
      let mark := Marker.classStem ++ id
      let marked := scope.mark mark
      let answer := match SelectorList.ofText? (markedText mark l) with
        | none => .error (.badSelector css)
        | some l => orNoMatch css .childNodes (select l (aroundScope marked))
      ⟨answer, marked.restoreClasses scope.classes?, markers⟩
    else
      ⟨orNoMatch css .childNodes (select l scope.children), scope, markers⟩

/-- The search of a locator. An empty selector that is not child-scoped finds the scope itself. -/
def find (l : Locator) (scope : Cursor) (want : Want) (markers : Marker.Source) : Outcome :=
  if l.childScoped then
    let o := belowChildren l.css scope markers
    { o with answer := o.answer.map want.cut }
  else if l.isSelf then ⟨.ok [scope.path], scope, markers⟩
  else ⟨below l.css scope want, scope, markers⟩

end Search

end MarkupQuery
