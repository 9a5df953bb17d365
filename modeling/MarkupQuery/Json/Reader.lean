import MarkupQuery.Json.Token

/-!
# Reading JSON

`Json.ofText?` reads a strict JSON text: one value, white space around its words, and nothing else.
The words are read one by one, with a stack of the arrays and objects that are still open.
-/

namespace MarkupQuery.Json

/-- An array or object that is not closed yet, with its parts so far, last first. -/
inductive Container where
  | array (items : List Json)
  | object (members : List (JsonString × Json)) (key : JsonString)

inductive Expected where
  /-- A value. -/
  | value
  /-- A value, or the end of the array just opened. -/
  | firstItem
  /-- A key, or the end of the object just opened. -/
  | firstKey (members : List (JsonString × Json))
  /-- A key, after a comma. -/
  | key (members : List (JsonString × Json))
  /-- The colon after a key. -/
  | colon (members : List (JsonString × Json)) (key : JsonString)
  /-- A comma, or the end of what is open. -/
  | separator
  /-- Nothing more: the text is a value. -/
  | finish (result : Json)

structure Progress where
  /-- What is open, innermost first, without an object whose next key is awaited. -/
  enclosing : List Container
  expected : Expected

/-- Hands a finished value to what it stands in. -/
def deliver (v : Json) : List Container → Progress
  | [] => ⟨[], .finish v⟩
  | .array items :: outer => ⟨.array (v :: items) :: outer, .separator⟩
  | .object members key :: outer => ⟨.object ((key, v) :: members) key :: outer, .separator⟩

def start? (enclosing : List Container) : JsonToken → Option Progress
  | .openArray => some ⟨.array [] :: enclosing, .firstItem⟩
  | .openObject => some ⟨enclosing, .firstKey []⟩
  | .null => some (deliver .null enclosing)
  | .bool b => some (deliver (.bool b) enclosing)
  | .num n => some (deliver (.num n) enclosing)
  | .str s => some (deliver (.str s) enclosing)
  | _ => none

def Progress.step? (p : Progress) (t : JsonToken) : Option Progress :=
  match p.expected, t with
  | .value, t => start? p.enclosing t
  | .firstItem, .closeArray =>
    match p.enclosing with
    | .array _ :: outer => some (deliver (.arr []) outer)
    | _ => none
  | .firstItem, t => start? p.enclosing t
  | .firstKey _, .closeObject => some (deliver (.obj []) p.enclosing)
  | .firstKey members, .str k => some ⟨p.enclosing, .colon members k⟩
  | .key members, .str k => some ⟨p.enclosing, .colon members k⟩
  | .colon members k, .colon => some ⟨.object members k :: p.enclosing, .value⟩
  | .separator, .comma =>
    match p.enclosing with
    | .array _ :: _ => some ⟨p.enclosing, .value⟩
    | .object members _ :: outer => some ⟨outer, .key members⟩
    | [] => none
  | .separator, .closeArray =>
    match p.enclosing with
    | .array items :: outer => some (deliver (.arr items.reverse) outer)
    | _ => none
  | .separator, .closeObject =>
    match p.enclosing with
    | .object members _ :: outer => some (deliver (.obj members.reverse) outer)
    | _ => none
  | _, _ => none

/-- The value that has been read, once nothing more is expected. -/
def Progress.result? (p : Progress) : Option Json :=
  match p.expected with
  | .finish v => some v
  | _ => none

def ofTokens? (ts : List JsonToken) : Option Json := do
  let p ← ts.foldlM Progress.step? ⟨[], .value⟩
  p.result?

def ofText? (text : String) : Option Json := do
  let ts ← JsonToken.scan? text.toList
  ofTokens? ts

end MarkupQuery.Json
