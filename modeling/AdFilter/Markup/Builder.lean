import AdFilter.Markup.Node

/-!
A page under construction: elements that are not closed yet stand on a stack.

All elements are made elements of HTML, so a page with SVG or MathML in it is not built as it would be by
a browser. Nor is anything moved out of a table that does not belong into one.
-/

namespace AdFilter.Markup

/-- An element whose end is still to come. -/
structure Opened where
  name : String
  attributes : Attributes
  /-- What is in it so far, the last first. -/
  children : List Node
  /-- Tells formatting elements apart. -/
  mark : Nat

/-- A formatting element that goes on after its end was implied, or the start of a part of the page
in which none from outside goes on. -/
inductive Formatting
  | fence
  | element (mark : Nat) (name : String) (attributes : Attributes)

/-- What the next token is read as. -/
inductive Phase
  | beforeHtml
  | beforeHead
  | inHead
  /-- In an element that stands behind the head and belongs into it. -/
  | lateHead
  | afterHead
  | inBody
  | afterBody
  | afterHtml
  deriving DecidableEq

/-- A page under construction. -/
structure Builder where
  phase : Phase
  /-- The elements under construction, innermost first. -/
  stack : List Opened := []
  /-- What is at the top of the page, the last first. -/
  top : List Node := []
  /-- Comments behind the body, which is still under construction; the last first. -/
  behindBody : List Node := []
  formatting : List Formatting := []
  nextMark : Nat := 1
  /-- A line feed right behind the last tag means nothing. -/
  skipsNewline : Bool := false
  /-- The page did not say that it follows the standard, so tables may stand in paragraphs. -/
  isLoose : Bool := true

namespace Builder

/-- Adds a node to the innermost element. -/
def addNode (b : Builder) (node : Node) : Builder :=
  match b.stack with
  | [] => { b with top := node :: b.top }
  | inner :: outer => { b with stack := { inner with children := node :: inner.children } :: outer }

/-- Adds text to the innermost element, joined to a text before it. -/
def addText (b : Builder) (content : List Char) : Builder :=
  if content.isEmpty then b
  else
    match b.stack with
    | [] => b
    | inner :: outer =>
      let children := match inner.children with
        | .text before :: rest => .text (before ++ String.ofList content) :: rest
        | rest => .text (String.ofList content) :: rest
      { b with stack := { inner with children } :: outer }

/-- Opens an element. -/
def push (b : Builder) (name : String) (attributes : Attributes) : Builder :=
  { b with stack := ⟨name, attributes, [], b.nextMark⟩ :: b.stack, nextMark := b.nextMark + 1 }

/-- Closes the innermost element. -/
def pop (b : Builder) : Builder :=
  match b.stack with
  | [] => b
  | inner :: outer =>
    { b with stack := outer }.addNode
      (.element ⟨inner.name, inner.attributes, .html⟩ inner.children.reverse)

/-- Closes a number of elements. -/
def popMany (b : Builder) : Nat → Builder
  | 0 => b
  | n + 1 => b.pop.popMany n

/-- Adds an element that has no content. -/
def addEmpty (b : Builder) (name : String) (attributes : Attributes) : Builder :=
  b.addNode (.element ⟨name, attributes, .html⟩ [])

/-- The name of the innermost element. -/
def current (b : Builder) : String := (b.stack.head?.map (·.name)).getD ""

/-- Adds attributes that an element lacks to the element at a place counted from the outermost. -/
def addAttributes (b : Builder) (depth : Nat) (attributes : Attributes) : Builder :=
  let add (e : Opened) : Opened :=
    { e with attributes := e.attributes ++
        -- What the element has already is not changed.
        attributes.filter fun (name, _) => !e.attributes.any (·.1 == name) }
  -- The stack counts from the innermost element.
  let place := b.stack.length - 1 - depth
  if depth < b.stack.length then { b with stack := b.stack.modify place add } else b

/-- Past these elements no end tag looks for its element. -/
def scopeLimits : List String :=
  ["applet", "caption", "html", "table", "td", "th", "marquee", "object", "template"]

/-- The limits for paragraphs. -/
def paragraphLimits : List String := "button" :: scopeLimits

/-- The limits for list items. -/
def itemLimits : List String := "ol" :: "ul" :: scopeLimits

/-- The limits for the parts of tables. -/
def tableLimits : List String := ["html", "table", "template"]

/-- How many elements there are down to the innermost one of some names, itself included, unless a
limit stands before it. -/
def depthOf? (names limits : List String) : List Opened → Option Nat
  | [] => none
  | e :: outer =>
    if names.contains e.name then some 1
    else if limits.contains e.name then none
    else (depthOf? names limits outer).map (· + 1)

/-- Closes all down to the innermost element of some names, if it is in scope. -/
def closeNamed (b : Builder) (names limits : List String) : Builder :=
  match depthOf? names limits b.stack with
  | some depth => b.popMany depth
  | none => b

/-- A paragraph under construction ends. -/
def closeParagraph (b : Builder) : Builder := b.closeNamed ["p"] paragraphLimits

/-- Elements that hold parts of the page, past which an item of a list does not look for the one
before it. -/
def specials : List String := [
  "address", "applet", "area", "article", "aside", "base", "basefont", "bgsound", "blockquote",
  "body", "br", "button", "caption", "center", "col", "colgroup", "dd", "details", "dir", "div",
  "dl", "dt", "embed", "fieldset", "figcaption", "figure", "footer", "form", "frame", "frameset",
  "h1", "h2", "h3", "h4", "h5", "h6", "head", "header", "hgroup", "hr", "html", "iframe", "img",
  "input", "isindex", "li", "link", "listing", "main", "marquee", "menu", "meta", "nav", "noembed",
  "noframes", "noscript", "object", "ol", "p", "param", "plaintext", "pre", "script", "section",
  "select", "source", "style", "summary", "table", "tbody", "td", "template", "textarea", "tfoot",
  "th", "thead", "title", "tr", "track", "ul", "wbr", "xmp"]

/-- The specials that an item looks past. -/
def itemLimitsFor (names : List String) : List String :=
  specials.filter fun name => !(["address", "div", "p"] ++ names).contains name

/-- An end tag that no rule of its own is for: it ends the innermost element of its name, unless an
element that holds parts of the page stands before it. -/
def closeOther (b : Builder) (name : String) : Builder :=
  b.closeNamed [name] (specials.filter (· != name))

end Builder

end AdFilter.Markup
