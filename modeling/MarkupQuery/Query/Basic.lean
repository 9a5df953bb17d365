/-!
# Queries and components

A query is a locator, or a component: a locator for the container together with named queries for
what is found in it. The properties of a component keep the order in which they were declared, and
each name stands once; two components that differ in that order alone are the same.
-/

namespace MarkupQuery

mutual

/-- What can be asked of a scope. -/
inductive Query where
  /-- A locator, as written. -/
  | raw (locator : String)
  | component (c : Component)

/-- A locator with named queries for what stands in the node that it finds. -/
structure Component where
  /-- The locator of the container, as written. -/
  container : String
  /-- The properties in the order of their declaration. -/
  properties : List (String × Query)

end

/-- The name that always means the container: as a property of a view it is the node itself, and in
a written component it is the key of the container's locator. -/
def containerKey : String := "container"

/-- Puts a query under a name: a known name keeps its place, a new one goes to the end. -/
def insertProperty (name : String) (q : Query) : List (String × Query) → List (String × Query)
  | [] => [(name, q)]
  | (n, r) :: rest => if n = name then (n, q) :: rest else (n, r) :: insertProperty name q rest

namespace Component

def new (container : String) : Component := ⟨container, []⟩

/-- Declares a property; an earlier one of the same name is replaced in its place. -/
def declare (c : Component) (name : String) (q : Query) : Component :=
  { c with properties := insertProperty name q c.properties }

def property? (c : Component) (name : String) : Option Query :=
  c.properties.lookup name

def propertyNames (c : Component) : List String :=
  c.properties.map Prod.fst

end Component

namespace Query

/-- The locator that a query starts from: a component's is that of its container. -/
def locator : Query → String
  | raw s => s
  | component c => c.container

def component? : Query → Option Component
  | raw _ => none
  | component c => some c

end Query

mutual

/-- Whether two queries are the same, the order of properties aside. -/
def Query.same : Query → Query → Bool
  | .raw s, .raw t => s == t
  | .component c, .component d => c.same d
  | _, _ => false

def Component.same : Component → Component → Bool
  | ⟨c, ps⟩, ⟨d, qs⟩ => c == d && ps.length == qs.length && Component.declaredIn ps qs

/-- Whether every property of the first list is declared with the same query in the second. -/
def Component.declaredIn : List (String × Query) → List (String × Query) → Bool
  | [], _ => true
  | (n, q) :: rest, qs => (qs.lookup n).any q.same && Component.declaredIn rest qs

end

end MarkupQuery
