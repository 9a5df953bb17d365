/-!
# JSON values

A JSON text as a tree. Members of an object keep the order of the text, and a key may occur more
than once, so that a reader of some kind of object can decide what a repeated key means. Numbers are
kept as they were written.
-/

namespace MarkupQuery

/-- The characters that a JSON string stands for. A string with half of a surrogate pair in it is
well formed and stands for no text. -/
abbrev JsonString := Option String

inductive Json where
  | null
  | bool (b : Bool)
  | num (written : String)
  | str (s : JsonString)
  | arr (items : List Json)
  | obj (members : List (JsonString × Json))
  deriving Inhabited

namespace Json

mutual

/-- How deep arrays and objects lie in one another; a value that is neither has depth zero. -/
def depth : Json → Nat
  | arr items => depthOfAll items + 1
  | obj members => depthOfMembers members + 1
  | _ => 0

def depthOfAll : List Json → Nat
  | [] => 0
  | j :: js => max j.depth (depthOfAll js)

def depthOfMembers : List (JsonString × Json) → Nat
  | [] => 0
  | (_, j) :: rest => max j.depth (depthOfMembers rest)

end

end Json

end MarkupQuery
