/-!
# Nodes of a markup tree

What a single node holds: the seven kinds of node, the names of elements and of attributes, and
an element's attributes, kept in the order in which they were first written.
-/

namespace MarkupQuery

/-- The vocabulary an element belongs to: HTML itself, one of the two vocabularies that HTML
embeds, or none. -/
inductive Vocabulary where
  | html
  | svg
  | mathml
  | unnamed
  deriving DecidableEq, Repr

/-- The name of an element, exactly as written: no letter case is folded. -/
structure ElementName where
  vocabulary : Vocabulary
  localName : String
  deriving DecidableEq, Repr

def ElementName.html (localName : String) : ElementName := ⟨.html, localName⟩

/-- The name space of an attribute. Nearly every attribute is in none. -/
inductive AttributeSpace where
  | unnamed
  | xlink
  | xml
  | xmlns
  | svg
  | mathml
  deriving DecidableEq, Repr

structure AttributeName where
  space : AttributeSpace
  localName : String
  deriving DecidableEq, Repr

/-- The name of an attribute that is in no name space. -/
def AttributeName.plain (localName : String) : AttributeName := ⟨.unnamed, localName⟩

/-- The attributes of an element, each name once. -/
abbrev Attributes := List (AttributeName × String)

namespace Attributes

def get? (as : Attributes) (name : AttributeName) : Option String :=
  as.lookup name

/-- Gives an attribute a value: a known name keeps its place, a new one goes to the end. -/
def set (name : AttributeName) (value : String) : Attributes → Attributes
  | [] => [(name, value)]
  | (n, v) :: rest => if n = name then (n, value) :: rest else (n, v) :: set name value rest

def erase (name : AttributeName) (as : Attributes) : Attributes :=
  as.filter (·.1 ≠ name)

def addMissing (as more : Attributes) : Attributes :=
  more.foldl (fun acc (n, v) => if (get? acc n).isSome then acc else acc ++ [(n, v)]) as

@[simp] theorem get?_set_self (name : AttributeName) (value : String) (as : Attributes) :
    get? (set name value as) name = some value := by
  induction as with
  | nil => exact List.lookup_cons_self
  | cons a rest ih =>
    obtain ⟨n, v⟩ := a
    by_cases h : n = name
    · subst h
      rw [set, if_pos rfl]
      exact List.lookup_cons_self
    · have h' : (name == n) = false := by simpa using fun e => h e.symm
      rw [set, if_neg h, get?, List.lookup_cons, h']
      exact ih

end Attributes

/-- What one node holds. -/
inductive Node where
  | document
  | fragment
  | doctype (name : String)
  | element (name : ElementName) (attributes : Attributes)
  | text (content : String)
  | comment (content : String)
  | instruction (target data : String)
  deriving DecidableEq, Repr

namespace Node

def isElement : Node → Bool
  | element _ _ => true
  | _ => false

def isDocument : Node → Bool
  | document => true
  | _ => false

def name? : Node → Option ElementName
  | element n _ => some n
  | _ => none

def attributes : Node → Attributes
  | element _ as => as
  | _ => []

/-- The value of an attribute that is in no name space; nodes other than elements have none. -/
def attribute? (n : Node) (name : String) : Option String :=
  n.attributes.get? (.plain name)

def mapAttributes (f : Attributes → Attributes) : Node → Node
  | element n as => element n (f as)
  | other => other

end Node

end MarkupQuery
