import MarkupQuery.Html.Construction.Body

/-!
# Tables

What a token means inside a table. The parts of a table that a page leaves out are opened where a
cell or a row needs them, and each part is ended by what cannot stand in it; the token is then read
again one part further out.
-/

namespace MarkupQuery.Html.Construction

def sectionNames : List String := ["tbody", "tfoot", "thead"]

def backToTable (b : Construction) : Construction :=
  b.mapFrames (.popDownTo (·.isHtmlIn ["table", "template", "html"]))

def backToSection (b : Construction) : Construction :=
  b.mapFrames (.popDownTo (·.isHtmlIn ("template" :: "html" :: sectionNames)))

def backToRow (b : Construction) : Construction :=
  b.mapFrames (.popDownTo (·.isHtmlIn ["tr", "template", "html"]))

def startSection (tag : StartTag) (b : Construction) : Construction :=
  (b.backToTable.openElement tag).enter .inTableBody

def startRow (tag : StartTag) (b : Construction) : Construction :=
  (b.backToSection.openElement tag).enter .inRow

def startCell (tag : StartTag) (b : Construction) : Construction :=
  (b.backToRow.openElement tag).enter .inCell

def bareTag (name : String) : StartTag := ⟨name, [], false⟩

def endTable (b : Construction) : Construction :=
  if b.hasOpenInTable "table" then (b.closeNamed "table").resetMode else b

/-- Reads a token between the sections of a table. White space stands where it is written, and other
text in front of the table. -/
def readInTable (t : Token) (b : Construction) : Construction :=
  match t with
  | .char c =>
    if c = '\x00' then b
    else if isSpace c then b.addChar c
    else match b.frames.findIdx? (·.isHtml "table") with
      | some i =>
        let inFront (f : Frame) : Frame := { f with inside := Frame.addChar c f.inside }
        b.mapFrames (·.modify (i + 1) inFront)
      | none => b.addChar c
  | .comment s => b.addComment s
  | .doctype _ | .mistake => b
  | .startTag tag =>
    match tag.name with
    | "caption" => (b.backToTable.openElement tag).enter .inCaption
    | "colgroup" => (b.backToTable.openElement tag).enter .inColumns
    | "col" => ((b.backToTable.openNamed "colgroup").enter .inColumns).addVoid tag
    | "tbody" | "tfoot" | "thead" => b.startSection tag
    | "tr" => (b.startSection (bareTag "tbody")).startRow tag
    | "td" | "th" => ((b.startSection (bareTag "tbody")).startRow (bareTag "tr")).startCell tag
    | "table" => if b.hasOpenInTable "table" then b.endTable.startInBody tag else b
    | "form" =>
      if b.formOpen || b.inTemplate then b else { b.addVoid tag with formOpen := true }
    | _ => b.startInBody tag
  | .endTag name =>
    match name with
    | "table" => b.endTable
    | "body" | "caption" | "col" | "colgroup" | "html" | "tbody" | "td" | "tfoot" | "th" | "thead"
    | "tr" => b
    | _ => b.endInBody name

def endCaption (b : Construction) : Construction :=
  (b.endNamed [] "caption").enter .inTable

def readInCaption (t : Token) (b : Construction) : Construction :=
  let leave (again : Bool) : Construction :=
    if b.hasOpenInTable "caption" then
      if again then readInTable t b.endCaption else b.endCaption
    else b
  match t with
  | .startTag tag =>
    if ["caption", "col", "colgroup", "tbody", "td", "tfoot", "th", "thead", "tr"].contains
        tag.name then leave true
    else b.startInBody tag
  | .endTag name =>
    match name with
    | "caption" => leave false
    | "table" => leave true
    | "body" | "col" | "colgroup" | "html" | "tbody" | "td" | "tfoot" | "th" | "thead" | "tr" => b
    | _ => b.endInBody name
  | t => readInBody t b

def readInColumns (t : Token) (b : Construction) : Construction :=
  let leave : Construction :=
    if b.topIs "colgroup" then readInTable t ((b.mapFrames Frames.pop).enter .inTable) else b
  match t with
  | .char c => if isSpace c then b.addChar c else leave
  | .comment s => b.addComment s
  | .doctype _ | .mistake => b
  | .startTag tag =>
    match tag.name with
    | "html" => b.startInBody tag
    | "col" => b.addVoid tag
    | "template" => b.startInBody tag
    | _ => leave
  | .endTag name =>
    match name with
    | "colgroup" =>
      if b.topIs "colgroup" then (b.mapFrames Frames.pop).enter .inTable else b
    | "col" => b
    | "template" => b.endTemplate
    | _ => leave

def endSection (b : Construction) : Construction :=
  (b.backToSection.mapFrames Frames.pop).enter .inTable

def readInTableBody (t : Token) (b : Construction) : Construction :=
  let leave : Construction :=
    if sectionNames.any b.hasOpenInTable then readInTable t b.endSection else b
  match t with
  | .startTag tag =>
    match tag.name with
    | "tr" => b.startRow tag
    | "td" | "th" => (b.startRow (bareTag "tr")).startCell tag
    | "caption" | "col" | "colgroup" | "tbody" | "tfoot" | "thead" => leave
    | _ => readInTable t b
  | .endTag name =>
    match name with
    | "tbody" | "tfoot" | "thead" => if b.hasOpenInTable name then b.endSection else b
    | "table" => leave
    | "body" | "caption" | "col" | "colgroup" | "html" | "td" | "th" | "tr" => b
    | _ => readInTable t b
  | _ => readInTable t b

def endRow (b : Construction) : Construction :=
  (b.backToRow.mapFrames Frames.pop).enter .inTableBody

def readInRow (t : Token) (b : Construction) : Construction :=
  let leave : Construction :=
    if b.hasOpenInTable "tr" then readInTableBody t b.endRow else b
  match t with
  | .startTag tag =>
    match tag.name with
    | "td" | "th" => b.startCell tag
    | "caption" | "col" | "colgroup" | "tbody" | "tfoot" | "thead" | "tr" => leave
    | _ => readInTable t b
  | .endTag name =>
    match name with
    | "tr" => if b.hasOpenInTable "tr" then b.endRow else b
    | "table" => leave
    | "tbody" | "tfoot" | "thead" => if b.hasOpenInTable name then leave else b
    | "body" | "caption" | "col" | "colgroup" | "html" | "td" | "th" => b
    | _ => readInTable t b
  | _ => readInTable t b

def endCell (b : Construction) : Construction :=
  ((b.mapFrames (.popImplied [])).mapFrames (.popThrough (·.isHtmlIn ["td", "th"]))).enter .inRow

def readInCell (t : Token) (b : Construction) : Construction :=
  match t with
  | .startTag tag =>
    if ["caption", "col", "colgroup", "tbody", "td", "tfoot", "th", "thead", "tr"].contains
        tag.name then
      if b.hasOpenInTable "td" || b.hasOpenInTable "th" then readInRow t b.endCell else b
    else b.startInBody tag
  | .endTag name =>
    match name with
    | "td" | "th" => if b.hasOpenInTable name then (b.endNamed [] name).enter .inRow else b
    | "body" | "caption" | "col" | "colgroup" | "html" => b
    | "table" | "tbody" | "tfoot" | "thead" | "tr" =>
      if b.hasOpenInTable name then readInRow t b.endCell else b
    | _ => b.endInBody name
  | t => readInBody t b

end MarkupQuery.Html.Construction
