import AdFilter.Markup.Body

/-!
The tree of a page from its tokens. What a token means depends on the phase that the page is in;
a page without the tags of its head and body gets them.
-/

namespace AdFilter.Markup.Builder

/-- Adds a node at the end of the head, which is closed already. -/
def addToHead (b : Builder) (node : Node) : Builder :=
  -- The head is the first element of the page; what stands before it are comments and white space.
  let add : List Node → List Node
    | .element tag children :: rest =>
      if tag.name = "head" then .element tag (children ++ [node]) :: rest
      else .element tag children :: rest
    | other => other
  match b.stack with
  | [] => b
  | html :: outer =>
    let behind := html.children.takeWhile fun
      | .element .. => false
      | _ => true
    let children := behind ++ add (html.children.drop behind.length)
    { b with stack := { html with children } :: outer }

/-- Closes an element that was opened behind the head and belongs into it. -/
def closeLate (b : Builder) : Builder :=
  match b.stack with
  | [] => b
  | inner :: outer =>
    { b with stack := outer, phase := .afterHead }.addToHead
      (.element ⟨inner.name, inner.attributes, .html⟩ inner.children.reverse)

/-- End tags that imply the elements which are missing before them. -/
def impliesElements (name : String) : Bool := ["head", "body", "html", "br"].contains name

/-- A token between the head and the body. -/
def addAfterHead (b : Builder) (token : Token) : Builder :=
  let body (attributes : Attributes) : Builder := { b.push "body" attributes with phase := .inBody }
  match token with
  | .doctype _ => b
  | .comment content => b.addNode (.comment content)
  | .text content =>
    let blank := content.takeWhile isSpace
    let b := b.addText blank
    if blank.length = content.length then b
    -- Text opens the body, but the white space before it stays outside.
    else { b.push "body" [] with phase := .inBody }.addInBody (.text (content.drop blank.length))
  | .opening name attributes _ =>
    if name = "html" then b.addAttributes 0 attributes
    else if name = "body" then body attributes
    else if name = "head" then b
    -- What belongs into the head goes there, even behind its end.
    else if emptyHeadNames.contains name then b.addToHead (.element ⟨name, attributes, .html⟩ [])
    else if headNames.contains name then { b.push name attributes with phase := .lateHead }
    else (body []).addInBody token
  | .closing name =>
    if name != "head" && impliesElements name then (body []).addInBody token else b

/-- A token of an element that stands behind the head and belongs into it. -/
def addLateHead (b : Builder) (token : Token) : Builder :=
  match token with
  | .text content => b.addText content
  -- The element holds nothing but text, so any end tag is its own.
  | .closing _ => b.closeLate
  | token => b.closeLate.addAfterHead token

/-- A token in the head. -/
def addInHead (b : Builder) (token : Token) : Builder :=
  -- An element that may stand in the head without a script is closed together with it.
  let after : Builder :=
    { (if b.current = "noscript" then b.pop else b).pop with phase := .afterHead }
  match token with
  | .doctype _ => b
  | .comment content => b.addNode (.comment content)
  | .text content =>
    -- The text of a title or a script is kept as it is.
    if b.isInRawText then b.addText content
    else
      let blank := content.takeWhile isSpace
      let b := b.addText blank
      if blank.length = content.length then b
      else
        let after := { (if b.current = "noscript" then b.pop else b).pop with phase := .afterHead }
        after.addAfterHead (.text (content.drop blank.length))
  | .opening name attributes _ =>
    if name = "html" then b.addAttributes 0 attributes
    else if name = "head" then b
    else if emptyHeadNames.contains name then b.addEmpty name attributes
    else if headNames.contains name ∨ name = "noscript" then b.push name attributes
    else after.addAfterHead token
  | .closing name =>
    if b.current = name ∧ name != "head" then b.pop
    else if name = "head" then after
    else if impliesElements name then after.addAfterHead token
    else b

/-- A token between the start of the page and its head. -/
def addBeforeHead (b : Builder) (token : Token) : Builder :=
  let head (attributes : Attributes) : Builder := { b.push "head" attributes with phase := .inHead }
  match token with
  | .doctype _ => b
  | .comment content => b.addNode (.comment content)
  | .text content =>
    -- White space before the head is dropped.
    let rest := content.dropWhile isSpace
    if rest.isEmpty then b else (head []).addInHead (.text rest)
  | .opening name attributes _ =>
    if name = "html" then b.addAttributes 0 attributes
    else if name = "head" then head attributes
    else (head []).addInHead token
  | .closing name => if impliesElements name then (head []).addInHead token else b

/-- A token before the page. -/
def addBeforeHtml (b : Builder) (token : Token) : Builder :=
  let html (attributes : Attributes) : Builder :=
    { b.push "html" attributes with phase := .beforeHead }
  match token with
  | .doctype name =>
    -- Only the first type of the document counts.
    let isNew := !b.top.any fun
      | .doctype _ => true
      | _ => false
    if isNew then
      { b with top := .doctype name :: b.top, isLoose := name.toLower != "html" }
    else b
  | .comment content => { b with top := .comment content :: b.top }
  | .text content =>
    let rest := content.dropWhile isSpace
    if rest.isEmpty then b else (html []).addBeforeHead (.text rest)
  | .opening name attributes _ =>
    if name = "html" then html attributes else (html []).addBeforeHead token
  | .closing name => if impliesElements name then (html []).addBeforeHead token else b

/-- A token behind the body, or behind the page. -/
def addBehind (b : Builder) (token : Token) : Builder :=
  let inBody : Builder := { b with phase := .inBody }
  match token with
  | .doctype _ => b
  | .comment content =>
    -- A comment behind the page stands outside of it, and one behind the body inside.
    if b.phase = .afterHtml then { b with top := .comment content :: b.top }
    else { b with behindBody := .comment content :: b.behindBody }
  -- Text and elements behind the body go into it after all.
  | .text content => if content.all isSpace then b.addInBody token else inBody.addInBody token
  | .opening name .. => if name = "html" then b.addInBody token else inBody.addInBody token
  | .closing name =>
    if name = "html" then { b with phase := .afterHtml } else inBody.addInBody token

/-- One token more. -/
def add (b : Builder) (token : Token) : Builder :=
  match b.phase with
  | .beforeHtml => b.addBeforeHtml token
  | .beforeHead => b.addBeforeHead token
  | .inHead => b.addInHead token
  | .lateHead => b.addLateHead token
  | .afterHead => b.addAfterHead token
  | .inBody => b.addInBody token
  | .afterBody | .afterHtml => b.addBehind token

/-- The nodes at the top once all elements are closed. -/
def nodes (b : Builder) : List Node :=
  let html := b.popMany (b.stack.length - 1)
  -- The comments behind the body come last in the page.
  (b.behindBody.reverse.foldl addNode html).pop.top.reverse

end AdFilter.Markup.Builder

namespace AdFilter.Page

/-- The page of a source, which has a head and a body whether the source has them or not. Its elements are
those of HTML, and they stand where the source has them. -/
def parse (source : String) : Page :=
  let built := (Markup.tokens source).foldl Markup.Builder.add { phase := .beforeHtml }
  -- The end tag of the body stands for what the source has left out.
  let built := if built.isInRawText then built.add (.closing built.current) else built
  ⟨(built.add (.closing "body")).nodes, false⟩

/-- The nodes of a source that is a part of a body. -/
def parseFragment (source : String) : Page :=
  let start : Markup.Builder := { { phase := .inBody : Markup.Builder }.push "html" [] with
    isLoose := false }
  ⟨((Markup.tokens source).foldl Markup.Builder.add start).nodes, true⟩

end AdFilter.Page
