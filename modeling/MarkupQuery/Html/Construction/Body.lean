import MarkupQuery.Html.Construction.Basic

/-!
# The body

What a token means in a body: which elements a start tag ends before it opens its own, and what an
end tag closes. Elements are taken to be nested well where they only change how text looks: their
end tags close what is open inside them, and nothing is opened again.
-/

namespace MarkupQuery.Html.Construction

/-- The elements that a new list item or part of a definition list ends: the innermost one of some
names that is reached before any other special element, but addresses, divisions and paragraphs. -/
def itemToEnd? (names : List String) : Frames → Option String
  | [] => none
  | f :: fs =>
    if f.isHtmlIn names then some f.name.localName
    else if isSpecial f.name && !f.isHtmlIn ["address", "div", "p"] then none
    else itemToEnd? names fs

/-- Opens an item of some list, after ending the one in front of it. -/
def startItem (tag : StartTag) (names : List String) (b : Construction) : Construction :=
  let b := match itemToEnd? names b.frames with
    | some n => b.endNamed [n] n
    | none => b
  b.endParagraph.openElement tag

/-- Closes the innermost element of HTML of a name with all that is open inside, unless a special
element stands in the way. -/
def endOther (name : String) (b : Construction) : Construction :=
  if b.frames.inScope isSpecial (·.isHtml name) then b.endNamed [name] name else b

/-- Makes the innermost element the form that the next end tag of a form ends. -/
def beginForm (b : Construction) : Construction :=
  { b.mapFrames (.mapTop ({ · with isForm := true })) with formOpen := true }

/-- Ends the form that has begun last, if it is within reach. What is open inside stays open. -/
def endForm (b : Construction) : Construction :=
  let ended (fs : Frames) : Frames :=
    if fs.inScope isScopeEnd (·.isForm) then (fs.popImplied []).release (·.isForm)
    else fs.map ({ · with isForm := false })
  { b.mapFrames ended with formOpen := false }

def inTableMode (b : Construction) : Bool :=
  match b.mode with
  | .inTable | .inCaption | .inTableBody | .inRow | .inCell => true
  | _ => false

/-- Opens an element of an embedded vocabulary; one that closes itself has no contents. -/
def startForeign (v : Vocabulary) (tag : StartTag) (b : Construction) : Construction :=
  let frame := Frame.new (foreignName v tag.name) (foreignAttributes v tag.attributes)
  if tag.selfClosing then b.addTree frame.close else b.mapFrames (frame :: ·)

def startInBody (tag : StartTag) (b : Construction) : Construction :=
  match b.startMetadata? tag with
  | some b => b
  | none =>
    let n := tag.name
    if blockNames.contains n then b.endParagraph.openElement tag
    else if headingNames.contains n then
      let b := b.endParagraph
      let b := if b.frames.head?.any (·.isHtmlIn headingNames) then b.mapFrames Frames.pop else b
      b.openElement tag
    else match n with
      | "html" =>
        if b.inTemplate then b else b.mapFrames (.mapLast (addAttributes tag))
      | "body" =>
        if b.inTemplate then b
        else b.mapFrames (.mapSecondLast fun f =>
          if f.isHtml "body" then addAttributes tag f else f)
      | "pre" | "listing" => (b.endParagraph.openElement tag).dropLine
      | "form" =>
        if b.formOpen && !b.inTemplate then b
        else
          let b := b.endParagraph.openElement tag
          if b.inTemplate then b else b.beginForm
      | "li" => b.startItem tag ["li"]
      | "dd" | "dt" => b.startItem tag ["dd", "dt"]
      | "plaintext" => { b.endParagraph.openElement tag with content? := some .plain }
      | "button" =>
        let b := if b.hasOpen "button" then b.endNamed [] "button" else b
        b.openElement tag
      | "table" =>
        let b := if b.legacy then b else b.endParagraph
        (b.openElement tag).enter .inTable
      | "area" | "br" | "embed" | "img" | "input" | "keygen" | "param" | "source" | "track"
      | "wbr" => b.addVoid tag
      | "hr" => b.endParagraph.addVoid tag
      | "image" => b.addVoid { tag with name := "img" }
      | "textarea" => (b.openRaw tag (.escapable "textarea")).dropLine
      | "xmp" => b.endParagraph.openRaw tag (.raw "xmp")
      | "iframe" | "noembed" | "noscript" => b.openRaw tag (.raw n)
      | "select" =>
        let m := if b.inTableMode then Mode.inTableSelect else .inSelect
        (b.openElement tag).enter m
      | "optgroup" | "option" =>
        let b := if b.topIs "option" then b.mapFrames Frames.pop else b
        b.openElement tag
      | "rb" | "rtc" =>
        let b := if b.hasOpen "ruby" then b.mapFrames (.popImplied []) else b
        b.openElement tag
      | "rp" | "rt" =>
        let b := if b.hasOpen "ruby" then b.mapFrames (.popImplied ["rtc"]) else b
        b.openElement tag
      | "math" => b.startForeign .mathml tag
      | "svg" => b.startForeign .svg tag
      | "caption" | "col" | "colgroup" | "frame" | "frameset" | "head" | "tbody" | "td" | "tfoot"
      | "th" | "thead" | "tr" => b
      | _ => b.openElement tag

def endInBody (name : String) (b : Construction) : Construction :=
  if blockEndNames.contains name then
    if b.hasOpen name then b.endNamed [] name else b
  else if headingNames.contains name then
    if b.frames.inScope isScopeEnd (·.isHtmlIn headingNames) then
      (b.mapFrames (.popImplied [])).mapFrames (.popThrough (·.isHtmlIn headingNames))
    else b
  else match name with
    | "template" => b.endTemplate
    | "body" => if b.hasOpen "body" then b.enter .afterBody else b
    | "html" => if b.hasOpen "body" then b.enter .afterHtml else b
    | "form" =>
      if !b.inTemplate then b.endForm
      else if b.hasOpen "form" then b.endNamed [] "form"
      else b
    | "p" =>
      if b.frames.inScope isButtonScopeEnd (·.isHtml "p") then b.endParagraph
      else b.addTree (.leaf (.element (.html "p") []))
    | "li" =>
      if b.frames.inScope isListScopeEnd (·.isHtml "li") then b.endNamed ["li"] "li" else b
    | "dd" | "dt" => if b.hasOpen name then b.endNamed [name] name else b
    | "applet" | "marquee" | "object" => if b.hasOpen name then b.endNamed [] name else b
    | "br" => b.addVoid ⟨"br", [], false⟩
    | _ => b.endOther name

def readInBody (t : Token) (b : Construction) : Construction :=
  match t with
  | .char c => if c = '\x00' then b else b.addChar c
  | .comment s => b.addComment s
  | .doctype _ | .mistake => b
  | .startTag tag => b.startInBody tag
  | .endTag name => b.endInBody name

end MarkupQuery.Html.Construction
