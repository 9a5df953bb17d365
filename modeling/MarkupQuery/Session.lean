import MarkupQuery.Page.Remains
import MarkupQuery.Query.Basic
import MarkupQuery.Query.Json
import MarkupQuery.Search.Basic

/-!
# Sessions

A session is a page with the sources of marker ids that searches on it use, and with the findings
that it has answered so far. A view that was found keeps the source it was found with; replacing the
source of the session changes nothing for it. Edits move the findings along with their nodes, and
the findings are what holds on to nodes that were taken out of the page.
-/

namespace MarkupQuery

/-- A component bound to the node that its container locator found. -/
structure View where
  container : Location
  component : Component
  /-- The index of the source of marker ids that searches in the view use. -/
  source : Nat

/-- What a query finds at one node. -/
inductive Finding where
  | node (location : Location)
  | text (content : String)
  | attribute (value? : Option String)
  | view (v : View)

/-- Whether two views are of the same node and of the same component. -/
def View.same (v w : View) : Bool :=
  v.container == w.container && v.component.same w.component

namespace Finding

/-- Whether two findings are the same. Nodes are the same if they are one node; equal contents do
not make them so. -/
def same : Finding → Finding → Bool
  | node l, node m => l == m
  | text s, text t => s == t
  | .attribute u, .attribute v => u == v
  | view v, view w => v.same w
  | _, _ => false

def node? : Finding → Option Location
  | node l => some l
  | _ => none

def text? : Finding → Option String
  | text s => some s
  | _ => none

def attribute? : Finding → Option String
  | .attribute value? => value?
  | _ => none

def view? : Finding → Option View
  | view v => some v
  | _ => none

/-- The node that a finding holds on to. -/
def held? : Finding → Option Location
  | node l => some l
  | view v => some v.container
  | _ => none

def relocate (move : Location → Location) : Finding → Finding
  | node l => node (move l)
  | view v => view { v with container := move v.container }
  | other => other

end Finding

/-- A page that is being searched and edited. -/
structure Session where
  page : Page
  /-- The sources of marker ids; views refer to them by their indexes. -/
  sources : List Marker.Source
  /-- The index of the source that searches outside views use. -/
  current : Nat
  /-- The findings of the steps so far. -/
  findings : List (List Finding)

namespace Session

def new (t : Tree) (markers : Marker.Source) : Session :=
  ⟨.ofTree t, [markers], 0, []⟩

/-- What searches on a session are called in a log. Their source of ids does not show. -/
def searcherDescription (_ : Session) : String := "Resolver \x7b .. \x7d"

/-- The ids that the current source has handed out, in order. -/
def takenMarkers (s : Session) : List String :=
  ((s.sources[s.current]?).map Marker.Source.history).getD []

/-- Makes a new source the current one. The old ones stay for the views that use them. -/
def withMarkers (s : Session) (markers : Marker.Source) : Session :=
  { s with sources := s.sources ++ [markers], current := s.sources.length }

/-- What a locator takes from a node that it found. -/
def findingAt (page : Page) (l : Locator) (component? : Option Component) (source : Nat)
    (location : Location) : Finding :=
  match l.extraction?, component? with
  | some .text, _ => .text (page.text location)
  | some (.attribute name), _ => .attribute (page.attribute? location name)
  | none, some c => .view ⟨location, c, source⟩
  | none, none => .node location

/-- Asks a query of a scope, with the source of marker ids of an index. The page and the source
are those that the search leaves behind. Nothing is found at a location that names no node. -/
def resolve (s : Session) (source : Nat) (scope : Location) (q : Query) (want : Want) :
    Session × Except Error (List Finding) :=
  match Locator.parse? q.locator with
  | none => (s, .error (.badSelector q.locator))
  | some l =>
    match s.page.cursor? scope, s.sources[source]? with
    | some cursor, some markers =>
      let o := Search.find l cursor want markers
      let page := s.page.setTree scope.tree o.scope.top
      ({ s with page, sources := s.sources.set source o.markers },
        o.answer.map fun paths =>
          paths.map fun path => findingAt page l q.component? source ⟨scope.tree, path⟩)
    | _, _ => (s, .error (.noMatch l.css want.sought))

def selectFirst (s : Session) (source : Nat) (scope : Location) (q : Query) :
    Session × Except Error Finding :=
  let (s, answer) := s.resolve source scope q .first
  (s, answer.bind fun
    | f :: _ => .ok f
    | [] => .error (.noMatch q.locator .node))

def selectAll (s : Session) (source : Nat) (scope : Location) (q : Query) :
    Session × Except Error (List Finding) :=
  s.resolve source scope q .all

/-- Asks for a property of a view. The name `container` always means the node of the view. -/
def property (s : Session) (v : View) (name : String) : Session × Except Error Finding :=
  if name = containerKey then (s, .ok (.node v.container))
  else match v.component.property? name with
    | none => (s, .error (.unknownProperty name))
    | some q => s.selectFirst v.source v.container q

/-- Sends the findings so far to where their nodes stand on another page. -/
def moveTo (s : Session) (page : Page) (move : Location → Location) : Session :=
  { s with page, findings := s.findings.map (·.map (Finding.relocate move)) }

/-- Makes an edit. The findings so far follow their nodes. -/
def edit (s : Session) (e : Edit) : Session :=
  s.moveTo (e.apply s.page) (e.relocate s.page)

def held (s : Session) : List Location := s.findings.flatten.filterMap Finding.held?

/-- Breaks up a tree whose top nobody holds. -/
def breakUp (s : Session) (i : Nat) : Session :=
  s.moveTo (s.page.breakUp s.held i) (s.page.afterBreakUp s.held i)

def letGo (s : Session) : Session :=
  let stays := s.page.stays s.held
  let gone := (s.held.map Location.tree).eraseDups.filter (!stays.contains ·)
  gone.foldl breakUp s

/-- Ends a step and keeps its findings; a step that found nothing keeps its place. What no finding
holds on to is let go. -/
def record (s : Session) (found : List Finding) : Session :=
  { s with findings := s.findings ++ [found] }.letGo

def finding? (s : Session) (step index : Nat) : Option Finding :=
  s.findings[step]?.bind (·[index]?)

end Session

end MarkupQuery
