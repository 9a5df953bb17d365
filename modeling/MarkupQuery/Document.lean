import MarkupQuery.Error
import MarkupQuery.Html.Parser
import MarkupQuery.Query.Json
import MarkupQuery.Session
import MarkupQuery.Text.Part
import MarkupQuery.Text.Upper

/-!
# Documents

Markup is opened as a page, which must begin with the declaration that the options expect, or as a
fragment, which must begin with none.
-/

namespace MarkupQuery

/-- How a page is opened. -/
structure ParseOptions where
  /-- What a page must begin with, letter for letter; without it, any text is a page. -/
  doctype? : Option String
  deriving DecidableEq, Repr

namespace ParseOptions

def html5 : String := "<!DOCTYPE html>"

def standard : ParseOptions := ⟨some html5⟩

def withDoctype (_ : ParseOptions) (doctype : String) : ParseOptions := ⟨some doctype⟩

def withoutDoctype (_ : ParseOptions) : ParseOptions := ⟨none⟩

def doctypeOfJson? : Json → Option (Option String)
  | .str (some s) => some (some s)
  | .null => some none
  | _ => none

/-- The options that the members of an object write. `read?` holds the member `doctype` if it has
come; it may come once. Members of other names mean nothing. -/
def ofMembers? (read? : Option ParseOptions) : List (JsonString × Json) → Option ParseOptions
  | [] => some (read?.getD standard)
  | (none, _) :: _ => none
  | (some "doctype", value) :: rest =>
    match read?, doctypeOfJson? value with
    | none, some d => ofMembers? (some ⟨d⟩) rest
    | _, _ => none
  | (some _, _) :: rest => ofMembers? read? rest

/-- The options that a JSON value writes: an object, or an array with the value of `doctype` or with
nothing in it. -/
def ofJson? : Json → Option ParseOptions
  | .obj members => ofMembers? none members
  | .arr [] => some standard
  | .arr [value] => (doctypeOfJson? value).map (⟨·⟩)
  | _ => none

def ofJsonText? (text : String) : Option ParseOptions := do
  ofJson? (← Json.ofText? text)

end ParseOptions

/-- What a text was opened as. -/
inductive DocumentKind where
  | page
  | fragment
  deriving DecidableEq, Repr

/-- A text that was opened, as a tree. -/
structure Document where
  kind : DocumentKind
  root : Tree

namespace Document

def startsWith (text start : String) : Bool :=
  start.toList.isPrefixOf text.toList

def parse (options : ParseOptions) (markup : String) : Except Error Document :=
  match options.doctype? with
  | some doctype =>
    if startsWith markup doctype then .ok ⟨.page, Html.page markup⟩
    else .error (.badMarkup (.doctypeMissing doctype))
  | none => .ok ⟨.page, Html.page markup⟩

def doctypeStart : List Char := "<!DOCTYPE".toList

/-- Whether a text has a declaration in front, but for blanks: whether its first characters, in
capitals, hold the beginning of one. -/
def hasDoctype (markup : String) : Bool :=
  let head := (markup.toList.dropWhile Text.isBlank).take doctypeStart.length
  Text.hasPart doctypeStart (Text.upper head)

/-- Opens a fragment. Its root is an `html` element without a parent. -/
def parseFragment (markup : String) : Except Error Document :=
  if hasDoctype markup then .error (.badMarkup .doctypePresent)
  else .ok ⟨.fragment, Html.fragment markup⟩

def session (d : Document) (markers : Marker.Source) : Session := .new d.root markers

end Document

end MarkupQuery
