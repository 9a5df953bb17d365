import MarkupQuery.Html.Reference.Basic
import MarkupQuery.Html.Token

/-!
# From characters to tokens

A lexer reads markup one character at a time. What it is in the middle of is its state; each
character leads to a new state and to the tokens that it completes. At the end of the text `finish`
gives the tokens of what is still open: a comment is kept, a tag is not.

Character references are taken up within the state they interrupt: `Return` says where their text
goes.
-/

namespace MarkupQuery.Html

/-- A tag as far as it has been read. Names and values are lists of characters, last first. -/
structure TagDraft where
  isEnd : Bool
  name : List Char
  attributes : List (String × String)
  deriving Inhabited

structure ValueDraft where
  tag : TagDraft
  name : List Char
  /-- The quote that ends the value; a value without quotes ends at white space. -/
  quote? : Option Char
  chars : List Char

/-- A character reference as far as it has been read, after its ampersand. -/
inductive ReferenceDraft where
  | start
  | word (chars : List Char)
  | number
  | hexStart (mark : Char)
  | decimal (n : Nat)
  | hex (n : Nat)

def ReferenceDraft.isNumber : ReferenceDraft → Bool
  | .decimal _ | .hex _ => true
  | _ => false

/-- Where the text of a character reference goes. -/
inductive Return where
  | text
  | value (v : ValueDraft)

def Return.isValue : Return → Bool
  | .text => false
  | .value _ => true

/-- What a lexer is in the middle of. Lists of characters hold the last one first, except that of
`declaration`. -/
inductive LexerState where
  | text
  | reference (r : ReferenceDraft) (back : Return)
  | tagStart
  | endTagStart
  | tagName (t : TagDraft)
  | beforeAttribute (t : TagDraft)
  | attributeName (t : TagDraft) (name : List Char)
  | afterName (t : TagDraft) (name : List Char)
  | beforeValue (t : TagDraft) (name : List Char)
  | value (v : ValueDraft)
  | afterValue (t : TagDraft)
  | selfClosing (t : TagDraft)
  | bogusComment (chars : List Char)
  | declaration (chars : List Char)
  | commentStart
  | commentStartDash
  | comment (chars : List Char)
  | commentDash (chars : List Char)
  | commentEnd (chars : List Char)
  | commentEndBang (chars : List Char)
  | doctype (chars : List Char)
  | verbatim (brackets : Nat)
  | rawStart
  | rawEnd (chars : List Char)
  | scriptComment (dashes : Nat)
  | scriptWord (chars : List Char)

/-- A lexer: how it reads text, and what it is in the middle of. -/
structure Lexer where
  content : Content
  state : LexerState

namespace Lexer

def start : Lexer := ⟨.markup, .text⟩

/-- What one character leads to. -/
abbrev Step := Lexer × List Token

def chars (cs : List Char) : List Token := cs.map .char

/-- Null characters have no place in names, values and comments. -/
def clean (c : Char) : Char := if c = '\x00' then '\uFFFD' else c

/-- Finishes an attribute; of two with one name the first counts. -/
def addAttribute (t : TagDraft) (name value : List Char) : TagDraft :=
  let name := String.ofList name.reverse
  if (t.attributes.lookup name).isSome then t
  else { t with attributes := t.attributes ++ [(name, String.ofList value.reverse)] }

def emitTag (t : TagDraft) (selfClosing : Bool) : Step :=
  let name := String.ofList t.name.reverse
  (⟨.markup, .text⟩,
    [if t.isEnd then .endTag name else .startTag ⟨name, t.attributes, selfClosing⟩])

def emitComment (content : Content) (cs : List Char) : Step :=
  (⟨content, .text⟩, [.comment (String.ofList cs.reverse)])

def inText (content : Content) (c : Char) : Step :=
  match content with
  | .markup =>
    if c = '&' then (⟨content, .reference .start .text⟩, [])
    else if c = '<' then (⟨content, .tagStart⟩, [])
    else (⟨content, .text⟩, [.char c])
  | .escapable _ =>
    if c = '&' then (⟨content, .reference .start .text⟩, [])
    else if c = '<' then (⟨content, .rawStart⟩, [])
    else (⟨content, .text⟩, [.char (clean c)])
  | .raw _ =>
    if c = '<' then (⟨content, .rawStart⟩, []) else (⟨content, .text⟩, [.char (clean c)])
  | .script .plain _ =>
    if c = '<' then (⟨content, .rawStart⟩, []) else (⟨content, .text⟩, [.char (clean c)])
  | .script nesting dashes =>
    if c = '-' then (⟨.script nesting (dashes + 1), .text⟩, [.char c])
    else if c = '<' then (⟨.script nesting 0, .rawStart⟩, [])
    else if c = '>' ∧ 2 ≤ dashes then (⟨.script .plain 0, .text⟩, [.char c])
    else (⟨.script nesting 0, .text⟩, [.char (clean c)])
  | .plain => (⟨content, .text⟩, [.char (clean c)])

/-- Reads a character again as text, after some text that was held back. -/
def backToText (content : Content) (held : List Char) (c : Char) : Step :=
  let r := inText content c
  (r.1, chars held ++ r.2)

/-! ### Tags -/

def inAttributeName (content : Content) (t : TagDraft) (name : List Char) (c : Char) : Step :=
  if isSpace c then (⟨content, .afterName t name⟩, [])
  else if c = '/' then (⟨content, .selfClosing (addAttribute t name [])⟩, [])
  else if c = '>' then emitTag (addAttribute t name []) false
  else if c = '=' then (⟨content, .beforeValue t name⟩, [])
  else (⟨content, .attributeName t (clean c.toLower :: name)⟩, [])

def beforeAttribute (content : Content) (t : TagDraft) (c : Char) : Step :=
  if isSpace c then (⟨content, .beforeAttribute t⟩, [])
  else if c = '/' then (⟨content, .selfClosing t⟩, [])
  else if c = '>' then emitTag t false
  else if c = '=' then (⟨content, .attributeName t [c]⟩, [])
  else inAttributeName content t [] c

def afterName (content : Content) (t : TagDraft) (name : List Char) (c : Char) : Step :=
  if isSpace c then (⟨content, .afterName t name⟩, [])
  else if c = '/' then (⟨content, .selfClosing (addAttribute t name [])⟩, [])
  else if c = '=' then (⟨content, .beforeValue t name⟩, [])
  else if c = '>' then emitTag (addAttribute t name []) false
  else inAttributeName content (addAttribute t name []) [] c

def inValue (content : Content) (v : ValueDraft) (c : Char) : Step :=
  let done := addAttribute v.tag v.name v.chars
  let more : Step := (⟨content, .value { v with chars := clean c :: v.chars }⟩, [])
  if c = '&' then (⟨content, .reference .start (.value v)⟩, [])
  else match v.quote? with
    | some q => if c = q then (⟨content, .afterValue done⟩, []) else more
    | none =>
      if isSpace c then (⟨content, .beforeAttribute done⟩, [])
      else if c = '>' then emitTag done false
      else more

def beforeValue (content : Content) (t : TagDraft) (name : List Char) (c : Char) : Step :=
  if isSpace c then (⟨content, .beforeValue t name⟩, [])
  else if c = '"' ∨ c = '\'' then (⟨content, .value ⟨t, name, some c, []⟩⟩, [])
  else if c = '>' then emitTag (addAttribute t name []) false
  else inValue content ⟨t, name, none, []⟩ c

def afterValue (content : Content) (t : TagDraft) (c : Char) : Step :=
  beforeAttribute content t c

def selfClosing (content : Content) (t : TagDraft) (c : Char) : Step :=
  if c = '>' then emitTag t true else beforeAttribute content t c

def inTagName (content : Content) (t : TagDraft) (c : Char) : Step :=
  if isSpace c then (⟨content, .beforeAttribute t⟩, [])
  else if c = '/' then (⟨content, .selfClosing t⟩, [])
  else if c = '>' then emitTag t false
  else (⟨content, .tagName { t with name := clean c.toLower :: t.name }⟩, [])

/-- Reads a character of a comment that runs to the next closing bracket. -/
def inBogusComment (content : Content) (cs : List Char) (c : Char) : Step :=
  if c = '>' then emitComment content cs else (⟨content, .bogusComment (clean c :: cs)⟩, [])

def tagStart (content : Content) (c : Char) : Step :=
  if c = '!' then (⟨content, .declaration []⟩, [])
  else if c = '/' then (⟨content, .endTagStart⟩, [])
  else if c = '?' then (⟨content, .bogusComment [c]⟩, [])
  else if c.isAlpha then (⟨content, .tagName ⟨false, [c.toLower], []⟩⟩, [])
  else backToText content ['<'] c

def endTagStart (content : Content) (c : Char) : Step :=
  if c.isAlpha then (⟨content, .tagName ⟨true, [c.toLower], []⟩⟩, [])
  else if c = '>' then (⟨content, .text⟩, [.mistake])
  else inBogusComment content [] c

/-! ### Comments and declarations -/

def inComment (content : Content) (cs : List Char) (c : Char) : Step :=
  if c = '-' then (⟨content, .commentDash cs⟩, [])
  else (⟨content, .comment (clean c :: cs)⟩, [])

/-- Reads a character inside a comment, after what may be the beginning of its end. -/
def nearCommentEnd (content : Content) (c : Char) : LexerState → Step
  | .commentStart =>
    if c = '-' then (⟨content, .commentStartDash⟩, [])
    else if c = '>' then emitComment content []
    else inComment content [] c
  | .commentStartDash =>
    if c = '-' then (⟨content, .commentEnd []⟩, [])
    else if c = '>' then emitComment content []
    else inComment content ['-'] c
  | .commentDash cs =>
    if c = '-' then (⟨content, .commentEnd cs⟩, []) else inComment content ('-' :: cs) c
  | .commentEnd cs =>
    if c = '>' then emitComment content cs
    else if c = '!' then (⟨content, .commentEndBang cs⟩, [])
    else if c = '-' then (⟨content, .commentEnd ('-' :: cs)⟩, [])
    else inComment content ('-' :: '-' :: cs) c
  | .commentEndBang cs =>
    if c = '-' then (⟨content, .commentDash ('!' :: '-' :: '-' :: cs)⟩, [])
    else if c = '>' then emitComment content cs
    else inComment content ('!' :: '-' :: '-' :: cs) c
  | _ => inComment content [] c

/-- The word that begins a text which is taken as it stands, in the vocabularies that have it. -/
def verbatimWord : List Char := "[CDATA[".toList

def doctypeWord : List Char := "doctype".toList

/-- Reads a character after an opening bracket and an exclamation mark. `foreign` says whether the
text stands in one of the vocabularies that have text taken as it stands. -/
def inDeclaration (foreign : Bool) (content : Content) (cs : List Char) (c : Char) : Step :=
  let read := cs ++ [c]
  let lower := read.map Char.toLower
  if read = ['-', '-'] then (⟨content, .commentStart⟩, [])
  else if lower = doctypeWord then (⟨content, .doctype []⟩, [])
  else if read = verbatimWord then
    if foreign then (⟨content, .verbatim 0⟩, [])
    else (⟨content, .bogusComment read.reverse⟩, [])
  else if read = ['-'] ∨ lower.isPrefixOf doctypeWord ∨ read.isPrefixOf verbatimWord then
    (⟨content, .declaration read⟩, [])
  else inBogusComment content cs.reverse c

/-- Reads a character of a text taken as it stands; two closing brackets and `>` end it. -/
def inVerbatim (content : Content) (brackets : Nat) (c : Char) : Step :=
  if c = ']' then
    if brackets = 2 then (⟨content, .verbatim 2⟩, [.char c])
    else (⟨content, .verbatim (brackets + 1)⟩, [])
  else if c = '>' ∧ brackets = 2 then (⟨content, .text⟩, [])
  else (⟨content, .verbatim 0⟩, chars (List.replicate brackets ']') ++ [.char c])

/-! ### Raw text -/

def endTagName : Content → String
  | .escapable n => n
  | .raw n => n
  | .script _ _ => "script"
  | _ => ""

/-- Reads the character after an opening bracket in raw text. Only in a script can anything but an
end tag be meant: the beginning of a comment, or in a comment a script tag. -/
def rawStart (content : Content) (c : Char) : Step :=
  match content with
  | .script .plain _ =>
    if c = '/' then (⟨content, .rawEnd []⟩, [])
    else if c = '!' then (⟨content, .scriptComment 0⟩, chars ['<', '!'])
    else backToText content ['<'] c
  | .script .commented _ =>
    if c = '/' then (⟨content, .rawEnd []⟩, [])
    else if c.isAlpha then (⟨content, .scriptWord [c.toLower]⟩, chars ['<', c])
    else backToText content ['<'] c
  | .script .nested _ =>
    if c = '/' then (⟨content, .scriptWord []⟩, chars ['<', '/'])
    else backToText content ['<'] c
  | _ =>
    if c = '/' then (⟨content, .rawEnd []⟩, []) else backToText content ['<'] c

/-- Reads a character of what may be the end tag that ends raw text. -/
def inRawEnd (content : Content) (cs : List Char) (c : Char) : Step :=
  let tag : TagDraft := ⟨true, cs.map Char.toLower, []⟩
  let isEnd := String.ofList tag.name.reverse == endTagName content
  if c.isAlpha then (⟨content, .rawEnd (c :: cs)⟩, [])
  else if isEnd && isSpace c then (⟨content, .beforeAttribute tag⟩, [])
  else if isEnd && c == '/' then (⟨content, .selfClosing tag⟩, [])
  else if isEnd && c == '>' then emitTag tag false
  else backToText content ('<' :: '/' :: cs.reverse) c

/-- Reads a character after `<!` in a script: two hyphens begin a comment. -/
def inScriptComment (content : Content) (dashes : Nat) (c : Char) : Step :=
  if c = '-' then
    if dashes = 0 then (⟨content, .scriptComment 1⟩, [.char c])
    else (⟨.script .commented 2, .text⟩, [.char c])
  else inText content c

/-- Reads a character of the name of a tag in a comment of a script: a whole `script` begins or ends
a script in the comment. -/
def inScriptWord (content : Content) (cs : List Char) (c : Char) : Step :=
  if c.isAlpha then (⟨content, .scriptWord (c.toLower :: cs)⟩, [.char c])
  else if isSpace c || c == '/' || c == '>' then
    let isScript := String.ofList cs.reverse == "script"
    let nesting : ScriptNesting := match content with
      | .script .commented _ => if isScript then .nested else .commented
      | _ => if isScript then .commented else .nested
    (⟨.script nesting 0, .text⟩, [.char c])
  else inText content c

/-! ### References -/

/-- Hands the text of a reference to where it belongs. -/
def deliver (content : Content) (back : Return) (cs : List Char) : Step :=
  match back with
  | .text => (⟨content, .text⟩, chars cs)
  | .value v => (⟨content, .value { v with chars := cs.reverse ++ v.chars }⟩, [])

def deliverAndRead (content : Content) (back : Return) (cs : List Char) (c : Char) : Step :=
  match back with
  | .text => backToText content cs c
  | .value v => inValue content { v with chars := cs.reverse ++ v.chars } c

def hexValue? (c : Char) : Option Nat :=
  if '0' ≤ c ∧ c ≤ '9' then some (c.toNat - '0'.toNat)
  else if 'a' ≤ c ∧ c ≤ 'f' then some (c.toNat - 'a'.toNat + 10)
  else if 'A' ≤ c ∧ c ≤ 'F' then some (c.toNat - 'A'.toNat + 10)
  else none

/-- The text of a reference that ends where it has been read to. -/
def referenceText (r : ReferenceDraft) (next? : Option Char) (inValue : Bool) : List Char :=
  match r with
  | .start => ['&']
  | .word cs => Reference.resolve cs.reverse next? inValue
  | .number => ['&', '#']
  | .hexStart mark => ['&', '#', mark]
  | .decimal n => [Reference.ofNumber n]
  | .hex n => [Reference.ofNumber n]

/-- The mistake that a reference by number is when no semicolon ends it. -/
def unclosed (r : ReferenceDraft) : List Token := if r.isNumber then [.mistake] else []

def inReference (content : Content) (r : ReferenceDraft) (back : Return) (c : Char) : Step :=
  let stay (r : ReferenceDraft) : Step := (⟨content, .reference r back⟩, [])
  let stop : Step := deliverAndRead content back (referenceText r (some c) back.isValue) c
  let close : Step :=
    if c = ';' then deliver content back (referenceText r (some c) back.isValue)
    else (stop.1, unclosed r ++ stop.2)
  match r with
  | .start => if c.isAlphanum then stay (.word [c]) else if c = '#' then stay .number else stop
  | .word cs => if c.isAlphanum then stay (.word (c :: cs)) else close
  | .number =>
    if c = 'x' ∨ c = 'X' then stay (.hexStart c)
    else if c.isDigit then stay (.decimal (c.toNat - '0'.toNat))
    else stop
  | .hexStart _ =>
    match hexValue? c with
    | some d => stay (.hex d)
    | none => stop
  | .decimal n => if c.isDigit then stay (.decimal (10 * n + (c.toNat - '0'.toNat))) else close
  | .hex n =>
    match hexValue? c with
    | some d => stay (.hex (16 * n + d))
    | none => close

/-! ### All states -/

/-- Reads a character. `foreign` says whether it stands in a vocabulary other than HTML. -/
def step (foreign : Bool) (l : Lexer) (c : Char) : Step :=
  match l.state with
  | .text => inText l.content c
  | .reference r back => inReference l.content r back c
  | .tagStart => tagStart l.content c
  | .endTagStart => endTagStart l.content c
  | .tagName t => inTagName l.content t c
  | .beforeAttribute t => beforeAttribute l.content t c
  | .attributeName t name => inAttributeName l.content t name c
  | .afterName t name => afterName l.content t name c
  | .beforeValue t name => beforeValue l.content t name c
  | .value v => inValue l.content v c
  | .afterValue t => afterValue l.content t c
  | .selfClosing t => selfClosing l.content t c
  | .bogusComment cs => inBogusComment l.content cs c
  | .declaration cs => inDeclaration foreign l.content cs c
  | .comment cs => inComment l.content cs c
  | .commentStart | .commentStartDash | .commentDash _ | .commentEnd _ | .commentEndBang _ =>
    nearCommentEnd l.content c l.state
  | .doctype cs =>
    if c = '>' then (⟨l.content, .text⟩, [.doctype (.ofText false cs.reverse)])
    else (⟨l.content, .doctype (c :: cs)⟩, [])
  | .verbatim brackets => inVerbatim l.content brackets c
  | .rawStart => rawStart l.content c
  | .rawEnd cs => inRawEnd l.content cs c
  | .scriptComment dashes => inScriptComment l.content dashes c
  | .scriptWord cs => inScriptWord l.content cs c

/-- Reads the end of a line, which is a line feed. `isReturn` says whether it is written as a
carriage return. The answer is whether a line feed that comes next belongs to the same end.

A reference by name that runs up to a carriage return looks at it as a part of the word, and takes
it for the whole end of the line. If all of the word is the name, the line feed is lost with it. -/
def lineEnd (foreign : Bool) (isReturn : Bool) (l : Lexer) : Step × Bool :=
  let lost (r : ReferenceDraft) (back : Return) : Step × Bool :=
    (deliver l.content back (referenceText r none back.isValue), false)
  if !isReturn then (l.step foreign '\n', false)
  else match l.state with
    | .reference .start back => lost .start back
    | .reference (.word cs) back =>
      let word := cs.reverse
      if Reference.isShort word then lost (.word cs) back
      else (l.step foreign '\n', !Reference.runsOn word)
    | _ => (l.step foreign '\n', true)

/-- The tokens of what is still open at the end of the text. -/
def finish (l : Lexer) : List Token :=
  match l.state with
  | .reference r .text => unclosed r ++ chars (referenceText r none false)
  | .tagStart | .rawStart => chars ['<']
  | .endTagStart => chars ['<', '/']
  | .rawEnd cs => chars ('<' :: '/' :: cs.reverse)
  | .bogusComment cs | .comment cs | .commentDash cs | .commentEnd cs | .commentEndBang cs =>
    [.comment (String.ofList cs.reverse)]
  | .declaration cs => [.comment (String.ofList cs)]
  | .commentStart | .commentStartDash => [.comment ""]
  | .doctype cs => [.doctype (.ofText true cs.reverse)]
  | .verbatim brackets => chars (List.replicate brackets ']')
  | _ => []

end Lexer

end MarkupQuery.Html
