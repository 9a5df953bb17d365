import MarkupQuery.Text.Blank
import MarkupQuery.Tree.Cursor

/-!
# Marking a scope

A scope is marked by a class in its `class` attribute, and the mark is taken away again by giving
the attribute its old value, or by removing it if there was none.
-/

namespace MarkupQuery

def AttributeName.classes : AttributeName := .plain "class"

/-- The value of the `class` attribute of a marked element. A value of blanks alone is given up for
the mark; any other is kept in front of it. -/
def markedValue (previous? : Option String) (mark : String) : String :=
  match previous? with
  | some classes => if Text.allBlank classes then mark else classes ++ " " ++ mark
  | none => mark

namespace Attributes

def mark (m : String) (as : Attributes) : Attributes :=
  as.set .classes (markedValue (as.get? .classes) m)

/-- Gives the `class` attribute the value it had, or removes it if it had none. -/
def restoreClasses (previous? : Option String) (as : Attributes) : Attributes :=
  match previous? with
  | some classes => as.set .classes classes
  | none => as.erase .classes

end Attributes

namespace Cursor

def mark (m : String) (c : Cursor) : Cursor :=
  c.mapLabel (·.mapAttributes (Attributes.mark m))

def classes? (c : Cursor) : Option String :=
  c.label.attributes.get? .classes

def restoreClasses (previous? : Option String) (c : Cursor) : Cursor :=
  c.mapLabel (·.mapAttributes (Attributes.restoreClasses previous?))

end Cursor

end MarkupQuery
