import MarkupQuery.Html.Frame
import MarkupQuery.Html.Token

/-!
# Trees under construction

What is known of a tree while its tokens come in: the open elements, what stands around the
outermost one, and the mode, which says what the next token may mean.
-/

namespace MarkupQuery.Html

/-- What the next token may mean. -/
inductive Mode where
  | initial
  | beforeHtml
  | beforeHead
  | inHead
  /-- The head has ended; its frame stays on the stack until the body begins, for the elements that
  belong to the head and come late. -/
  | afterHead
  | inBody
  | inTable
  | inCaption
  | inColumns
  | inTableBody
  | inRow
  | inCell
  | inSelect
  | inTableSelect
  /-- Right in a template, where the first start tag says what the template is a part of. -/
  | inTemplate
  | afterBody
  | afterHtml
  deriving DecidableEq, Repr

/-- A tree under construction. -/
structure Construction where
  mode : Mode
  /-- Whether the innermost element holds text alone and ends with its own end tag. -/
  rawText : Bool
  frames : Frames
  /-- What stands in front of the outermost element, last first. -/
  prolog : List Tree
  /-- What stands behind the outermost element, last first. -/
  epilog : List Tree
  headEnded : Bool
  /-- The modes for what stands right in the open templates, innermost first. -/
  templateModes : List Mode
  /-- Whether a form has begun that no end tag has ended. -/
  formOpen : Bool
  /-- Whether the page is read as one of the time before declarations. -/
  legacy : Bool
  /-- Whether a line feed is dropped if it comes next. -/
  dropNewline : Bool
  isFragment : Bool
  /-- How the text after the last token is to be read, where the element says so. -/
  content? : Option Content

namespace Construction

def page : Construction :=
  ⟨.initial, false, [], [], [], false, [], false, false, false, false, none⟩

def fragment : Construction :=
  ⟨.inBody, false, [.new (.html "html") []], [], [], false, [], false, false, false, true, none⟩

def mapFrames (f : Frames → Frames) (b : Construction) : Construction :=
  { b with frames := f b.frames }

def enter (m : Mode) (b : Construction) : Construction := { b with mode := m }

def addTree (t : Tree) (b : Construction) : Construction := b.mapFrames (.mapTop (·.add t))

def addChar (c : Char) (b : Construction) : Construction :=
  b.mapFrames (.mapTop fun f => { f with inside := Frame.addChar c f.inside })

def addComment (s : String) (b : Construction) : Construction := b.addTree (.leaf (.comment s))

def openElement (tag : StartTag) (b : Construction) : Construction :=
  b.mapFrames (.new (.html tag.name) (htmlAttributes tag.attributes) :: ·)

def openNamed (name : String) (b : Construction) : Construction :=
  b.openElement ⟨name, [], false⟩

def addVoid (tag : StartTag) (b : Construction) : Construction :=
  b.addTree (.leaf (.element (.html tag.name) (htmlAttributes tag.attributes)))

def openRaw (tag : StartTag) (content : Content) (b : Construction) : Construction :=
  { b.openElement tag with rawText := true, content? := some content }

/-- Drops a line feed if it comes next. -/
def dropLine (b : Construction) : Construction := { b with dropNewline := true }

def hasOpen (b : Construction) (name : String) : Bool :=
  b.frames.inScope isScopeEnd (·.isHtml name)

def hasOpenInTable (b : Construction) (name : String) : Bool :=
  b.frames.inScope isTableScopeEnd (·.isHtml name)

def inTemplate (b : Construction) : Bool := b.frames.any (·.isHtml "template")

def topIs (b : Construction) (name : String) : Bool := b.frames.head?.any (·.isHtml name)

def closeNamed (name : String) (b : Construction) : Construction :=
  b.mapFrames (.popThrough (·.isHtml name))

/-- Closes what may end by itself, but elements of some names, and then up to and with the innermost
HTML element of a name. -/
def endNamed (but : List String) (name : String) (b : Construction) : Construction :=
  (b.mapFrames (.popImplied but)).closeNamed name

def endParagraph (b : Construction) : Construction :=
  if b.frames.inScope isButtonScopeEnd (·.isHtml "p") then b.endNamed ["p"] "p" else b

/-- Adds attributes to an element where they are missing. -/
def addAttributes (tag : StartTag) (f : Frame) : Frame :=
  { f with attributes := f.attributes.addMissing (htmlAttributes tag.attributes) }

/-- The mode that the open elements call for. `template` is the mode for what stands right in the
innermost template. -/
def modeOf (headEnded : Bool) (template : Mode) : Frames → Mode
  | [] => .inBody
  | f :: outer =>
    if f.name.vocabulary != .html then modeOf headEnded template outer
    else match f.name.localName with
      | "select" =>
        if (outer.takeWhile (!·.isHtml "template")).any (·.isHtml "table") then .inTableSelect
        else .inSelect
      | "td" | "th" => if outer.isEmpty then .inBody else .inCell
      | "tr" => .inRow
      | "tbody" | "thead" | "tfoot" => .inTableBody
      | "caption" => .inCaption
      | "colgroup" => .inColumns
      | "table" => .inTable
      | "template" => template
      | "head" => if headEnded then .afterHead else .inHead
      | "body" => .inBody
      | _ => modeOf headEnded template outer

def resetMode (b : Construction) : Construction :=
  b.enter (modeOf b.headEnded (b.templateModes.head?.getD .inBody) b.frames)

def startTemplate (tag : StartTag) (b : Construction) : Construction :=
  { (b.openElement tag).enter .inTemplate with templateModes := .inTemplate :: b.templateModes }

/-- Goes on in a mode that from now on is the one for what stands right in the innermost
template. -/
def enterTemplate (m : Mode) (b : Construction) : Construction :=
  { b.enter m with templateModes := m :: b.templateModes.tail }

/-- Reads a start tag of the elements that belong to a head, wherever they stand. -/
def startMetadata? (tag : StartTag) (b : Construction) : Option Construction :=
  match tag.name with
  | "base" | "basefont" | "bgsound" | "link" | "meta" => some (b.addVoid tag)
  | "title" => some (b.openRaw tag (.escapable "title"))
  | "noframes" | "style" => some (b.openRaw tag (.raw tag.name))
  | "script" => some (b.openRaw tag (.script .plain 0))
  | "template" => some (b.startTemplate tag)
  | _ => none

def endTemplate (b : Construction) : Construction :=
  if b.inTemplate then
    { b.closeNamed "template" with templateModes := b.templateModes.tail }.resetMode
  else b

end Construction

end MarkupQuery.Html
