/-!
# Tokens of markup

What a markup text is made of: tags, comments, document type declarations and single characters of
text. How the text after a start tag is to be read depends on the element, and is given as a
`Content`.
-/

namespace MarkupQuery.Html

/-- White space in markup. Line ends are read as line feeds; a carriage return stands only where a
reference has written it. -/
def isSpace (c : Char) : Bool :=
  c == ' ' || c == '\t' || c == '\n' || c == '\x0c' || c == '\r'

structure StartTag where
  name : String
  /-- The attributes in the order of the tag, each name once. -/
  attributes : List (String × String)
  selfClosing : Bool
  deriving DecidableEq, Repr

structure Doctype where
  name : String
  publicId? : Option String
  systemId? : Option String
  /-- Whether the declaration is so broken that a page is read as if it had none. -/
  broken : Bool
  deriving DecidableEq, Repr

inductive Token where
  | char (c : Char)
  | startTag (tag : StartTag)
  | endTag (name : String)
  | comment (content : String)
  | doctype (d : Doctype)
  /-- A mistake that leaves nothing behind, but what stands after it no longer stands right after
  what is in front. -/
  | mistake
  deriving Repr

/-- How far the text of a script is inside a comment of its own: not at all, in a comment, or in a
script within a comment. -/
inductive ScriptNesting where
  | plain
  | commented
  | nested
  deriving DecidableEq, Repr

inductive Content where
  /-- Tags and references are recognized. -/
  | markup
  /-- References are recognized, and of all tags only the end tag of this name. -/
  | escapable (endTag : String)
  /-- Only the end tag of this name is recognized. -/
  | raw (endTag : String)
  /-- As raw text of a script; `dashes` counts the hyphens just read inside a comment. -/
  | script (nesting : ScriptNesting) (dashes : Nat)
  /-- Nothing is recognized any more. -/
  | plain
  deriving DecidableEq, Repr

namespace Doctype

/-- Reads an identifier in quotes, after white space. There is none when no quote stands there, and
the last part says whether the closing quote is missing. -/
def takeQuoted (cs : List Char) : Option String × List Char × Bool :=
  match cs.dropWhile isSpace with
  | q :: rest =>
    if q = '"' ∨ q = '\'' then
      match rest.dropWhile (· ≠ q) with
      | _ :: after => (some (String.ofList (rest.takeWhile (· ≠ q))), after, false)
      | [] => (some (String.ofList rest), [], true)
    else (none, q :: rest, false)
  | [] => (none, [], false)

/-- Reads what stands between `<!doctype` and the closing bracket. `cut` says that the bracket is
missing. -/
def ofText (cut : Bool) (cs : List Char) : Doctype :=
  let clean := cs.map fun c => if c = '\x00' then '\uFFFD' else c
  let body := clean.dropWhile isSpace
  let name := (String.ofList (body.takeWhile (!isSpace ·))).toLower
  let rest := (body.dropWhile (!isSpace ·)).dropWhile isSpace
  let word := (String.ofList (rest.take 6)).toLower
  if name.isEmpty then ⟨name, none, none, true⟩
  else if rest.isEmpty then ⟨name, none, none, cut⟩
  else if word = "public" then
    let (publicId?, rest, open') := takeQuoted (rest.drop 6)
    let (systemId?, rest, open'') := takeQuoted rest
    ⟨name, publicId?, systemId?,
      cut || open' || open'' || publicId?.isNone || (systemId?.isNone && !rest.isEmpty)⟩
  else if word = "system" then
    let (systemId?, _, open') := takeQuoted (rest.drop 6)
    ⟨name, none, systemId?, cut || open' || systemId?.isNone⟩
  else ⟨name, none, none, true⟩

end Doctype

end MarkupQuery.Html
