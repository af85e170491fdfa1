import AdFilter.Markup.Node
import AdFilter.Text.Search

/-! Pages written out again: every special character of a text becomes a reference. -/

namespace AdFilter.Markup

/-- A character of an attribute's value as it is written. -/
def escapeInValue (c : Char) : List Char :=
  if c = '&' then "&amp;".toList
  else if c = '"' then "&quot;".toList
  else if c = Char.ofNat 0xA0 then "&nbsp;".toList
  else [c]

/-- A character of a text as it is written. -/
def escapeInText (c : Char) : List Char :=
  if c = '&' then "&amp;".toList
  else if c = '<' then "&lt;".toList
  else if c = '>' then "&gt;".toList
  else if c = Char.ofNat 0xA0 then "&nbsp;".toList
  else [c]

/-- The elements whose text is written as it stands. -/
def isVerbatim (name : String) : Bool :=
  ["style", "script", "xmp", "iframe", "noembed", "noframes", "plaintext"].contains name

/-- The elements that have neither children nor an end tag. -/
def isVoid (name : String) : Bool :=
  ["area", "base", "basefont", "bgsound", "br", "col", "embed", "frame", "hr", "img", "input",
    "keygen", "link", "meta", "param", "source", "track", "wbr"].contains name

/-- An attribute as it is written. -/
def attributeText (pair : String × String) : List Char :=
  [' '] ++ pair.1.toList ++ ['=', '"'] ++ pair.2.toList.flatMap escapeInValue ++ ['"']

mutual

/-- The nodes below an element as they are written. -/
def nodesText (verbatim : Bool) : List Node → List Char
  | [] => []
  | node :: rest => nodeText verbatim node ++ nodesText verbatim rest

/-- A node as it is written, below an element whose text is verbatim or not. -/
def nodeText (verbatim : Bool) : Node → List Char
  | .text content =>
    if verbatim then content.toList else content.toList.flatMap escapeInText
  | .comment content => "<!--".toList ++ content.toList ++ "-->".toList
  | .doctype name => "<!DOCTYPE ".toList ++ name.toList ++ ['>']
  | .element ⟨name, attributes, language⟩ children =>
    let opening := ['<'] ++ name.toList ++ attributes.flatMap attributeText ++ ['>']
    -- A name that means something in HTML means nothing in the other languages.
    let isHtml := language == .html
    if isHtml && isVoid name then opening
    else opening ++ nodesText (isHtml && isVerbatim name) children ++ ['<', '/'] ++ name.toList ++ ['>']

end

end AdFilter.Markup

namespace AdFilter.Element

/-- The element as it is written, with its tags. -/
def outerHtml (e : Element) : String := String.ofList (Markup.nodeText false e.node)

/-- The children of the element as they are written by themselves, so that a text right below the
element is escaped whatever the element is. -/
def innerHtml (e : Element) : String := String.ofList (Markup.nodesText false e.children)

end AdFilter.Element
