import MarkupQuery.Json.Reader
import MarkupQuery.Query.Basic

/-!
# Queries from JSON

A JSON string is a locator. A JSON object is a component: the key `container` must stand in it once
and hold a string, and every other member declares a property, in the order of the text.
-/

namespace MarkupQuery

/-- The depth of arrays and objects from which on a text is refused. -/
def depthLimit : Nat := 128

mutual

def Query.ofJson? : Json → Option Query
  | .str (some s) => some (.raw s)
  | .obj members => (Component.ofMembers? none [] members).map .component
  | _ => none

/-- The component that the members of an object write. `container?` is the container found so far,
and `properties` holds the properties declared so far. -/
def Component.ofMembers? (container? : Option String) (properties : List (String × Query)) :
    List (JsonString × Json) → Option Component
  | [] => container?.map (⟨·, properties⟩)
  | (none, _) :: _ => none
  | (some key, value) :: rest =>
    if key = containerKey then
      match container?, value with
      | none, .str (some s) => Component.ofMembers? (some s) properties rest
      | _, _ => none
    else do
      let q ← Query.ofJson? value
      Component.ofMembers? container? (insertProperty key q properties) rest

end

def Component.ofJson? : Json → Option Component
  | .obj members => Component.ofMembers? none [] members
  | _ => none

/-- A JSON text as a value, unless arrays and objects lie too deep in it. -/
def Json.ofShallowText? (text : String) : Option Json :=
  (Json.ofText? text).filter (·.depth < depthLimit)

def Query.ofJsonText? (text : String) : Option Query := do
  Query.ofJson? (← Json.ofShallowText? text)

def Component.ofJsonText? (text : String) : Option Component := do
  Component.ofJson? (← Json.ofShallowText? text)

end MarkupQuery
