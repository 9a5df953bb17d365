import MarkupQuery.Html.Construction.Table

/-!
# Modes

What a token means in each mode, from the beginning of a page to its end, and in an embedded
vocabulary. `Construction.read` reads a token, and `Construction.finish` ends the text.
-/

namespace MarkupQuery.Html.Construction

/-! ### After the body -/

/-- Reads a token after the body. White space still belongs to the body, and so does anything that
cannot stand after it. -/
def readAfterBody (t : Token) (b : Construction) : Construction :=
  match t with
  | .char c => if isSpace c then b.addChar c else readInBody t (b.enter .inBody)
  | .comment s => b.mapFrames (.mapLast (·.addBeyond (.leaf (.comment s))))
  | .doctype _ | .mistake => b
  | .startTag tag =>
    if tag.name = "html" then b.startInBody tag else (b.enter .inBody).startInBody tag
  | .endTag name =>
    if name = "html" then if b.isFragment then b else b.enter .afterHtml
    else (b.enter .inBody).endInBody name

def readAfterHtml (t : Token) (b : Construction) : Construction :=
  match t with
  | .char c => if isSpace c then b.addChar c else readInBody t (b.enter .inBody)
  | .comment s => { b with epilog := .leaf (.comment s) :: b.epilog }
  | .doctype _ | .mistake => b
  | .startTag tag =>
    if tag.name = "html" then b.startInBody tag else (b.enter .inBody).startInBody tag
  | .endTag name => (b.enter .inBody).endInBody name

/-! ### Choices -/

/-- Reads a token right in a template. The first start tag that no head would hold says what the
template is a part of. -/
def readInTemplate (t : Token) (b : Construction) : Construction :=
  match t with
  | .startTag tag =>
    match b.startMetadata? tag with
    | some b => b
    | none =>
      match tag.name with
      | "caption" | "colgroup" | "tbody" | "tfoot" | "thead" =>
        readInTable t (b.enterTemplate .inTable)
      | "col" => readInColumns t (b.enterTemplate .inColumns)
      | "tr" => readInTableBody t (b.enterTemplate .inTableBody)
      | "td" | "th" => readInRow t (b.enterTemplate .inRow)
      | _ => readInBody t (b.enterTemplate .inBody)
  | .endTag name => if name = "template" then b.endTemplate else b
  | _ => readInBody t b

def endSelect (b : Construction) : Construction := (b.closeNamed "select").resetMode

/-- Whether a choice is open with nothing but options inside. -/
def hasOpenSelect (b : Construction) : Bool :=
  b.frames.inScope (!isInsideSelect ·) (·.isHtml "select")

/-- Reads a token in the modes that lie outside of choices. -/
def readInContent (t : Token) (b : Construction) : Construction :=
  match b.mode with
  | .inTable => readInTable t b
  | .inCaption => readInCaption t b
  | .inColumns => readInColumns t b
  | .inTableBody => readInTableBody t b
  | .inRow => readInRow t b
  | .inCell => readInCell t b
  | .inTemplate => readInTemplate t b
  | .afterBody => readAfterBody t b
  | .afterHtml => readAfterHtml t b
  | _ => readInBody t b

def readInSelect (t : Token) (b : Construction) : Construction :=
  match t with
  | .char c => if c = '\x00' then b else b.addChar c
  | .comment s => b.addComment s
  | .doctype _ | .mistake => b
  | .startTag tag =>
    let popIf (name : String) (b : Construction) : Construction :=
      if b.topIs name then b.mapFrames Frames.pop else b
    match tag.name with
    | "html" => b.startInBody tag
    | "option" => (popIf "option" b).openElement tag
    | "optgroup" => (popIf "optgroup" (popIf "option" b)).openElement tag
    | "select" => if b.hasOpenSelect then b.endSelect else b
    | "input" | "keygen" | "textarea" =>
      if b.hasOpenSelect then readInContent t b.endSelect else b
    | "script" | "template" => b.startInBody tag
    | _ => b
  | .endTag name =>
    match name with
    | "optgroup" =>
      let b := match b.frames with
        | f :: g :: _ =>
          if f.isHtml "option" && g.isHtml "optgroup" then b.mapFrames Frames.pop else b
        | _ => b
      if b.topIs "optgroup" then b.mapFrames Frames.pop else b
    | "option" => if b.topIs "option" then b.mapFrames Frames.pop else b
    | "select" => if b.hasOpenSelect then b.endSelect else b
    | "template" => b.endTemplate
    | _ => b

/-- Reads a token in a choice that stands in a table: a part of the table ends it. -/
def readInTableSelect (t : Token) (b : Construction) : Construction :=
  let parts := ["caption", "table", "tbody", "tfoot", "thead", "tr", "td", "th"]
  match t with
  | .startTag tag =>
    if parts.contains tag.name then readInContent t b.endSelect else readInSelect t b
  | .endTag name =>
    if parts.contains name then
      if b.hasOpenInTable name then readInContent t b.endSelect else b
    else readInSelect t b
  | _ => readInSelect t b

/-! ### Up to the body -/

/-- Begins the body: the head is closed, and what was kept beyond it follows it. -/
def startBody (tag : StartTag) (b : Construction) : Construction :=
  ((b.mapFrames Frames.pop).openElement tag).enter .inBody

def readAfterHead (t : Token) (b : Construction) : Construction :=
  let beyond (f : Frame → Frame) : Construction := b.mapFrames (.mapLast f)
  let other : Construction := readInBody t (b.startBody (bareTag "body"))
  match t with
  | .char c =>
    if isSpace c then beyond fun f => { f with beyond := Frame.addChar c f.beyond } else other
  | .comment s => beyond (·.addBeyond (.leaf (.comment s)))
  | .doctype _ | .mistake => b
  | .startTag tag =>
    match tag.name with
    | "html" => b.startInBody tag
    | "body" => b.startBody tag
    | "frameset" | "head" => b
    | _ =>
      match b.startMetadata? tag with
      | some b => b
      | none => other
  | .endTag name =>
    match name with
    | "template" => b.endTemplate
    | "body" | "html" | "br" => other
    | _ => b

def endHead (b : Construction) : Construction := { b.enter .afterHead with headEnded := true }

def readInHead (t : Token) (b : Construction) : Construction :=
  let other : Construction := readAfterHead t b.endHead
  match t with
  | .char c => if isSpace c then b.addChar c else other
  | .comment s => b.addComment s
  | .doctype _ | .mistake => b
  | .startTag tag =>
    match tag.name with
    | "html" => b.startInBody tag
    | "head" => b
    | "noscript" => b.openRaw tag (.raw "noscript")
    | _ =>
      match b.startMetadata? tag with
      | some b => b
      | none => other
  | .endTag name =>
    match name with
    | "head" => b.endHead
    | "template" => b.endTemplate
    | "body" | "html" | "br" => other
    | _ => b

def startHead (tag : StartTag) (b : Construction) : Construction :=
  (b.openElement tag).enter .inHead

def readBeforeHead (t : Token) (b : Construction) : Construction :=
  let other : Construction := readInHead t (b.startHead (bareTag "head"))
  match t with
  | .char c => if isSpace c then b else other
  | .comment s => b.addComment s
  | .doctype _ | .mistake => b
  | .startTag tag =>
    match tag.name with
    | "html" => b.startInBody tag
    | "head" => b.startHead tag
    | _ => other
  | .endTag name =>
    match name with
    | "head" | "body" | "html" | "br" => other
    | _ => b

def startHtml (tag : StartTag) (b : Construction) : Construction :=
  (b.openElement tag).enter .beforeHead

def readBeforeHtml (t : Token) (b : Construction) : Construction :=
  let other : Construction := readBeforeHead t (b.startHtml (bareTag "html"))
  match t with
  | .char c => if isSpace c then b else other
  | .comment s => { b with prolog := .leaf (.comment s) :: b.prolog }
  | .doctype _ | .mistake => b
  | .startTag tag => if tag.name = "html" then b.startHtml tag else other
  | .endTag name =>
    match name with
    | "head" | "body" | "html" | "br" => other
    | _ => b

/-- Whether a page with a declaration is read as if it had none. -/
def isLegacy (d : Doctype) : Bool :=
  let publicId := (d.publicId?.getD "").toLower
  let startsIn (starts : List String) : Bool :=
    starts.any fun s => s.toList.isPrefixOf publicId.toList
  d.broken || d.name != "html" || startsIn legacyPublicStarts ||
    legacyPublicIds.contains publicId ||
    (d.systemId?.isNone && startsIn legacyAloneStarts) ||
    d.systemId?.any (·.toLower == "http://www.ibm.com/data/dtd/v11/ibmxhtml1-transitional.dtd")

def readInitial (t : Token) (b : Construction) : Construction :=
  match t with
  | .char c => if isSpace c then b else readBeforeHtml t { b.enter .beforeHtml with legacy := true }
  | .comment s => { b with prolog := .leaf (.comment s) :: b.prolog }
  | .doctype d =>
    { b.enter .beforeHtml with
      prolog := .leaf (.doctype d.name) :: b.prolog
      legacy := isLegacy d }
  | _ => readBeforeHtml t { b.enter .beforeHtml with legacy := true }

/-! ### All tokens -/

def readHtml (t : Token) (b : Construction) : Construction :=
  match b.mode with
  | .initial => readInitial t b
  | .beforeHtml => readBeforeHtml t b
  | .beforeHead => readBeforeHead t b
  | .inHead => readInHead t b
  | .afterHead => readAfterHead t b
  | .inSelect => readInSelect t b
  | .inTableSelect => readInTableSelect t b
  | _ => readInContent t b

def readRaw (t : Token) (b : Construction) : Construction :=
  match t with
  | .char c => b.addChar c
  | .endTag _ => { b.mapFrames Frames.pop with rawText := false }
  | _ => b

/-- Reads an end tag in an embedded vocabulary: it closes the innermost element of its name, in
whatever letters, up to the first element of HTML, where it is read as a tag of HTML. `depth`
counts the elements passed. -/
def endForeign (name : String) (b : Construction) (depth : Nat) : Frames → Construction
  | [] => b
  | [_] => b
  | f :: fs =>
    if depth ≠ 0 ∧ f.name.vocabulary = .html then readHtml (.endTag name) b
    else if f.name.localName.toLower = name then b.mapFrames (.popMany (depth + 1))
    else endForeign name b (depth + 1) fs

/-- Whether a start tag of HTML ends an embedded vocabulary. -/
def breaksOut (tag : StartTag) : Bool :=
  breakoutNames.contains tag.name ||
    (tag.name == "font" && tag.attributes.any fun (n, _) => ["color", "face", "size"].contains n)

def readForeign (v : Vocabulary) (t : Token) (b : Construction) : Construction :=
  match t with
  | .char c => b.addChar (if c = '\x00' then '\uFFFD' else c)
  | .comment s => b.addComment s
  | .doctype _ | .mistake => b
  | .startTag tag =>
    if breaksOut tag && !b.isFragment then
      readHtml t (b.mapFrames fun fs => fs.pop.popDownTo (holdsHtml ·.name))
    else b.startForeign v tag
  | .endTag name => b.endForeign name 0 b.frames

/-- The vocabulary that a token is read in, if it is not HTML. -/
def foreignFor? (t : Token) (b : Construction) : Option Vocabulary :=
  match b.frames with
  | [] => none
  | f :: _ =>
    match f.name.vocabulary with
    | .html => none
    | .mathml =>
      let ofHtml := match t with
        | .char _ => holdsHtml f.name
        | .startTag tag =>
          (holdsHtml f.name && tag.name != "mglyph" && tag.name != "malignmark") ||
            (f.name.localName == "annotation-xml" && tag.name == "svg")
        | _ => false
      if ofHtml then none else some .mathml
    | v =>
      let ofHtml := match t with
        | .char _ | .startTag _ => holdsHtml f.name
        | _ => false
      if ofHtml then none else some v

def read (b : Construction) (t : Token) : Construction :=
  let dropped := b.dropNewline && (match t with | .char c => c == '\n' | _ => false)
  let b := { b with dropNewline := false, content? := none }
  if dropped then b
  else match t with
    | .mistake => b
    | _ =>
      if b.rawText then readRaw t b
      else match b.foreignFor? t with
        | some v => readForeign v t b
        | none => readHtml t b

/-- Ends the text: whatever a page must have and has not yet is added, and all is closed. -/
def finish (b : Construction) : Construction :=
  match b.mode with
  | .initial | .beforeHtml =>
    ((b.startHtml (bareTag "html")).startHead (bareTag "head")).endHead.startBody (bareTag "body")
  | .beforeHead => (b.startHead (bareTag "head")).endHead.startBody (bareTag "body")
  | .inHead | .afterHead =>
    let b := b.mapFrames (.popDownTo (·.isHtml "head"))
    b.startBody (bareTag "body")
  | _ =>
    if !b.isFragment && !b.frames.any (·.isHtml "body") then
      (b.mapFrames (.popDownTo (·.isHtml "head"))).startBody (bareTag "body")
    else b

def root (b : Construction) : Tree :=
  (b.frames.closeAll).getD (.leaf (.element (.html "html") []))

end MarkupQuery.Html.Construction
