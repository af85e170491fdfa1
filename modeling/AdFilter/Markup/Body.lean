import AdFilter.Markup.Formatting
import AdFilter.Markup.Token

/-! What the tags in the body of a page open and close, end tags that are left out included. -/

namespace AdFilter.Markup.Builder

/-- Elements before which a paragraph ends. -/
def blockNames : List String := [
  "address", "article", "aside", "blockquote", "center", "details", "dialog", "dir", "div", "dl",
  "fieldset", "figcaption", "figure", "footer", "header", "hgroup", "main", "menu", "nav", "ol",
  "p", "search", "section", "summary", "ul", "pre", "listing", "form", "xmp"]

/-- Headings of all levels. -/
def headingNames : List String := ["h1", "h2", "h3", "h4", "h5", "h6"]

/-- Elements that belong into the head. -/
def headNames : List String := [
  "base", "basefont", "bgsound", "link", "meta", "noframes", "script", "style", "template", "title"]

/-- The head's elements that have no content. -/
def emptyHeadNames : List String := ["base", "basefont", "bgsound", "link", "meta"]

/-- The body's elements that have no content. -/
def emptyNames : List String :=
  ["area", "br", "embed", "img", "keygen", "wbr", "input", "param", "source", "track", "hr"]

/-- Opens the parts of a table that a row or a cell needs around it. -/
def openTableParts (b : Builder) (name : String) : Builder :=
  let b := if ["tr", "td", "th"].contains name ∧ b.current = "table" then b.push "tbody" [] else b
  let b := if ["td", "th"].contains name ∧ ["tbody", "thead", "tfoot"].contains b.current then
    b.push "tr" [] else b
  if name = "col" ∧ b.current = "table" then b.push "colgroup" [] else b

/-- Closes the parts of a table that end where another begins. -/
def closeTableParts (b : Builder) (name : String) : Builder :=
  let cells := ["td", "th"]
  -- A cell ends before a cell, a row before a row as well, and all parts before any other.
  let inside := if cells.contains name then cells
    else if name = "tr" then "tr" :: cells
    else ["tr", "td", "th", "tbody", "thead", "tfoot", "caption", "colgroup"]
  let b := if name = "tr" ∨ cells.contains name then b.closeNamed ["caption", "colgroup"] tableLimits
    else b
  -- The outermost of the parts is closed last; there are three kinds at most, one in another.
  let closeOne (b : Builder) : Builder := b.closeNamed inside tableLimits
  closeOne (closeOne (closeOne b))

/-- The parts of tables. -/
def tablePartNames : List String :=
  ["caption", "colgroup", "col", "tbody", "thead", "tfoot", "tr", "td", "th"]

/-- A start tag in the body. -/
def openInBody (b : Builder) (name : String) (attributes : Attributes) : Builder :=
  if name = "html" then b.addAttributes 0 attributes
  else if name = "body" then
    -- A second tag of the body can only add to the first.
    if (b.stack.reverse[1]?).any (·.name == "body") then b.addAttributes 1 attributes else b
  else if name = "head" ∨ name = "frameset" ∨ name = "frame" then b
  else if emptyHeadNames.contains name then b.addEmpty name attributes
  else if headNames.contains name then b.push name attributes
  else if tablePartNames.contains name then
    -- Outside of a table its parts mean nothing.
    if (depthOf? ["table"] ["html", "template"] b.stack).isNone then b
    else
      let b := (b.closeTableParts name).openTableParts name
      if name = "col" then b.addEmpty name attributes
      else
        let b := b.push name attributes
        if ["td", "th", "caption"].contains name then { b with formatting := .fence :: b.formatting }
        else b
  else if headingNames.contains name then
    -- A heading does not stand in another one.
    let b := b.closeParagraph
    (if headingNames.contains b.current then b.pop else b).push name attributes
  -- A form within a form means nothing.
  else if name = "form" ∧ b.stack.any (·.name == "form") then b
  else if blockNames.contains name then
    let b := if name = "xmp" then b.closeParagraph.reopen else b.closeParagraph
    { b.push name attributes with skipsNewline := name == "pre" || name == "listing" }
  else if name = "li" then
    ((b.closeNamed ["li"] (itemLimitsFor ["li"])).closeParagraph).push name attributes
  else if name = "dd" ∨ name = "dt" then
    ((b.closeNamed ["dd", "dt"] (itemLimitsFor ["dd", "dt"])).closeParagraph).push name attributes
  else if name = "button" then
    ((b.closeNamed ["button"] scopeLimits).reopen).push name attributes
  else if name = "a" then
    -- One anchor never stands in another.
    let b := match lastFormatting? name b.formatting with
      | none => b
      | some mark =>
        let ended := b.closeFormatting name
        { ended with formatting := eraseFormatting mark ended.formatting }
    b.reopen.openFormatting name attributes
  else if name = "nobr" then
    -- An element of this name ends before the next one begins.
    let b := b.reopen
    let b := if (depthOf? [name] scopeLimits b.stack).isSome then (b.closeFormatting name).reopen
      else b
    b.openFormatting name attributes
  else if formattingNames.contains name then b.reopen.openFormatting name attributes
  else if ["applet", "marquee", "object"].contains name then
    let b := b.reopen.push name attributes
    -- What is formatted outside does not go on inside.
    { b with formatting := .fence :: b.formatting }
  else if name = "table" then
    (if b.isLoose then b else b.closeParagraph).push name attributes
  else if name = "hr" then b.closeParagraph.addEmpty name attributes
  -- The tag is an old way to write that of a picture.
  else if name = "image" then b.reopen.addEmpty "img" attributes
  else if ["param", "source", "track"].contains name then b.addEmpty name attributes
  else if emptyNames.contains name then b.reopen.addEmpty name attributes
  else if name = "textarea" then { b.push name attributes with skipsNewline := true }
  else if name = "iframe" ∨ name = "noembed" then b.push name attributes
  else if name = "option" ∨ name = "optgroup" then
    let b := if b.current = "option" then b.pop else b
    let b := if name = "optgroup" ∧ b.current = "optgroup" then b.pop else b
    b.reopen.push name attributes
  else b.reopen.push name attributes

/-- An end tag in the body. -/
def closeInBody (b : Builder) (name : String) : Builder :=
  if name = "body" ∨ name = "html" then
    if (depthOf? ["body"] scopeLimits b.stack).isNone then b
    else { b with phase := if name = "body" then .afterBody else .afterHtml }
  else if name = "p" then
    -- The end of a paragraph that is not there makes an empty one.
    if (depthOf? ["p"] paragraphLimits b.stack).isNone then b.addEmpty "p" []
    else b.closeParagraph
  else if name = "br" then b.reopen.addEmpty "br" []
  else if name = "li" then b.closeNamed ["li"] itemLimits
  -- The end of a heading of any level ends the heading.
  else if headingNames.contains name then b.closeNamed headingNames scopeLimits
  else if formattingNames.contains name then b.closeFormatting name
  else if ["td", "th", "caption", "applet", "marquee", "object"].contains name then
    let limits := if ["td", "th", "caption"].contains name then tableLimits else scopeLimits
    if (depthOf? [name] limits b.stack).isNone then b
    else { b.closeNamed [name] limits with formatting := dropToFence b.formatting }
  else if ["table", "tbody", "thead", "tfoot", "tr", "colgroup"].contains name then
    b.closeNamed [name] (tableLimits.filter (· != name))
  else if blockNames.contains name ∨ ["button", "dd", "dt"].contains name then
    b.closeNamed [name] scopeLimits
  else b.closeOther name

/-- The element that was opened last holds text only. -/
def isInRawText (b : Builder) : Bool := isRawText b.current

/-- A token in the body. -/
def addInBody (b : Builder) (token : Token) : Builder :=
  let plain := { b with skipsNewline := false }
  match token with
  | .doctype _ => plain
  | .comment content => plain.addNode (.comment content)
  | .opening name attributes selfClosing =>
    let opened := plain.openInBody name attributes
    -- Only in drawings and formulas does a tag that closes itself mean so.
    if selfClosing && opened.stack.any fun e => e.name == "svg" || e.name == "math" then opened.pop
    else opened
  | .closing name => plain.closeInBody name
  | .text content =>
    let content := match b.skipsNewline, content with
      -- A line feed right behind the start tag is no part of the text.
      | true, '\n' :: rest => rest
      | _, content => content
    if b.isInRawText then plain.addText content
    else
      let content := content.filter (· != Char.ofNat 0)
      if content.isEmpty then plain else plain.reopen.addText content

end AdFilter.Markup.Builder
