/-! The tree of a page, and its elements each with the place where it stands. -/

namespace AdFilter

/-- The attributes of an element, in their order; none of them belongs to a namespace of its own. -/
abbrev Attributes := List (String × String)

/-- The language that an element belongs to. -/
inductive Language
  | html
  | svg
  | mathml
  deriving DecidableEq

/-- An element without what is in it. HTML holds all names in small letters, the other languages do not. -/
structure Tag where
  name : String
  attributes : Attributes
  language : Language := .html

/-- A node of a page. -/
inductive Node
  | element (tag : Tag) (children : List Node)
  | text (content : String)
  | comment (content : String)
  | doctype (name : String)

/-- A page, or a part of one, by the nodes at its top. -/
structure Page where
  nodes : List Node
  /-- The nodes are a part of a page only, so none of them is the root of one. -/
  isFragment : Bool

/-- The place of a node: its siblings, those before it nearest first, and the element that holds
them, none at the top of the page. -/
structure Crumb where
  before : List Node
  holder : Option Tag
  after : List Node

/-- An element of a page, with its place, that of its parent, and so on. -/
structure Element extends Tag where
  children : List Node
  place : List Crumb

namespace Element

/-- The node of the element. -/
def node (e : Element) : Node := .element e.toTag e.children

/-- Where the element stands in its page, which tells it from all others there. -/
def path (e : Element) : List Nat := e.place.map (·.before.length)

/-- A name of an element or an attribute as it would be held in the language of this element. -/
def spelling (e : Element) (name : String) : String :=
  match e.language with
  | .html => String.ofList (name.toList.map Char.toLower)
  | .svg | .mathml => name

/-- The value of an attribute. -/
def value? (e : Element) (name : String) : Option String := e.attributes.lookup name

/-- The element that holds this one. -/
def parent? (e : Element) : Option Element :=
  match e.place with
  | ⟨before, some holder, after⟩ :: place =>
    some ⟨holder, before.reverse ++ e.node :: after, place⟩
  | _ => none

/-- The elements around a tag with some children, the nearest first. -/
def ancestorsOf (tag : Tag) (children : List Node) : List Crumb → List Element
  | ⟨before, some holder, after⟩ :: place =>
    -- The children of the holder, put together again from both sides of this one.
    let siblings := before.reverse ++ .element tag children :: after
    ⟨holder, siblings, place⟩ :: ancestorsOf holder siblings place
  | _ => []

/-- The elements around this one, the nearest first. -/
def ancestors (e : Element) : List Element := ancestorsOf e.toTag e.children e.place

end Element

mutual

/-- The elements among some siblings and below them, in document order. -/
def elementsAmong (holder : Option Tag) (place : List Crumb)
    (before : List Node) : List Node → List Element
  | [] => []
  | node :: after =>
    elementsAt holder place before after node ++ elementsAmong holder place (node :: before) after

/-- A node, if it is an element, and the elements below it. -/
def elementsAt (holder : Option Tag) (place : List Crumb)
    (before after : List Node) : Node → List Element
  | .element tag children =>
    let inner := ⟨before, holder, after⟩ :: place
    -- An element comes before all that is below it.
    ⟨tag, children, inner⟩ :: elementsAmong (some tag) inner [] children
  | _ => []

end

/-- All elements of a page, in document order. -/
def Page.elements (page : Page) : List Element := elementsAmong none [] [] page.nodes

/-- All elements below an element, in document order. -/
def Element.descendants (e : Element) : List Element :=
  elementsAmong (some e.toTag) e.place [] e.children

/-- The elements behind this one under the same parent, in order. -/
def followingFrom (holder : Option Tag) (place : List Crumb)
    (before : List Node) : List Node → List Element
  | [] => []
  | node :: after =>
    -- Texts and comments are passed over, but count for the place.
    let others := followingFrom holder place (node :: before) after
    match node with
    | .element tag children => ⟨tag, children, ⟨before, holder, after⟩ :: place⟩ :: others
    | _ => others

/-- The elements before this one under the same parent, nearest first. -/
def precedingFrom (holder : Option Tag) (place : List Crumb)
    (after : List Node) : List Node → List Element
  | [] => []
  | node :: before =>
    let others := precedingFrom holder place (node :: after) before
    match node with
    | .element tag children => ⟨tag, children, ⟨before, holder, after⟩ :: place⟩ :: others
    | _ => others

namespace Element

/-- The elements behind this one under the same parent, in order. -/
def following (e : Element) : List Element :=
  match e.place with
  | [] => []
  -- Behind this element it is one of those before.
  | ⟨before, holder, after⟩ :: place => followingFrom holder place (e.node :: before) after

/-- The elements before this one under the same parent, nearest first. -/
def preceding (e : Element) : List Element :=
  match e.place with
  | [] => []
  | ⟨before, holder, after⟩ :: place => precedingFrom holder place (e.node :: after) before

end Element

end AdFilter
