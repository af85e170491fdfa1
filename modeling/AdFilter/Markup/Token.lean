import AdFilter.Markup.Node
import AdFilter.Markup.Reference

/-! The source of a page cut into tags, texts and comments. -/

namespace AdFilter.Markup

/-- A part of the source of a page. -/
inductive Token
  | opening (name : String) (attributes : List (String × String)) (selfClosing : Bool)
  | closing (name : String)
  | text (content : List Char)
  | comment (content : String)
  | doctype (name : String)

/-- The white space of markup. -/
def isSpace (c : Char) : Bool :=
  c == ' ' || c == '\t' || c == '\n' || c == '\r' || c == Char.ofNat 0xC

/-- The elements whose content is read as text up to their end tag, and those of them in which
references count. -/
def isRawText (name : String) : Bool :=
  ["script", "style", "xmp", "iframe", "noembed", "noframes", "title", "textarea"].contains name

/-- The elements of text in which references count. -/
def isEscapableText (name : String) : Bool := ["title", "textarea"].contains name

/-- Line ends of any kind as line feeds. -/
def normalizeLines : List Char → List Char
  | '\r' :: '\n' :: rest => '\n' :: normalizeLines rest
  | '\r' :: rest => '\n' :: normalizeLines rest
  | c :: rest => c :: normalizeLines rest
  | [] => []

/-- The name of a tag or an attribute: letters small, and no character without a meaning. -/
def nameOf (text : List Char) : String :=
  -- The character of number zero stands for the one that replaces what cannot be read.
  String.ofList (text.map fun c => if c = Char.ofNat 0 then Char.ofNat 0xFFFD else c.toLower)

/-- The value of an attribute and the source behind it; none if the source ends within quotes. -/
def attributeValue? (source : List Char) : Option (List Char × List Char) :=
  match source.dropWhile isSpace with
  | '"' :: rest => Text.cutWhere? (· == '"') rest
  | '\'' :: rest => Text.cutWhere? (· == '\'') rest
  | rest =>
    let value := rest.takeWhile fun c => !isSpace c && c != '>'
    some (value, rest.drop value.length)

/-- The attributes of a tag, the first of each name, whether the tag closes itself, and the source
behind it; none if the source ends within the tag. -/
def attributes? : Nat → Attributes → List Char → Option (Attributes × Bool × List Char)
  | 0, _, _ => none
  | fuel + 1, found, source =>
    match source.dropWhile isSpace with
    | [] => none
    | '>' :: rest => some (found.reverse, false, rest)
    | '/' :: '>' :: rest => some (found.reverse, true, rest)
    -- A slash elsewhere in a tag means nothing.
    | '/' :: rest => attributes? fuel found rest
    | first :: rest =>
      -- A name begins with any other character, even with an equality sign.
      let tail := rest.takeWhile fun c => !isSpace c && c != '/' && c != '>' && c != '='
      let name := nameOf (first :: tail)
      let keep (value : List Char) : Attributes :=
        if found.any (·.1 == name) then found
        else (name, String.ofList (decodeText true value)) :: found
      match (rest.drop tail.length).dropWhile isSpace with
      | '=' :: rest => do
        let (value, rest) ← attributeValue? rest
        attributes? fuel (keep value) rest
      | rest => attributes? fuel (keep []) rest

/-- The name, the attributes and the end of a tag, behind its first characters. -/
def tag? (source : List Char) : Option (String × Attributes × Bool × List Char) := do
  let name := source.takeWhile fun c => !isSpace c && c != '/' && c != '>'
  let (attributes, selfClosing, rest) ←
    attributes? (source.length + 1) [] (source.drop name.length)
  return (nameOf name, attributes, selfClosing, rest)

/-- A comment behind its opening mark. -/
def commentText (source : List Char) : List Char × List Char :=
  match source with
  -- A comment may be closed by the end of its opening mark.
  | '>' :: rest | '-' :: '>' :: rest => ([], rest)
  | source =>
    -- Of the two closing marks the first one counts.
    let plain := Text.cutFirst? "-->".toList source
    let odd := Text.cutFirst? "--!>".toList source
    match plain, odd with
    | some (a, rest), some (b, other) => if a.length ≤ b.length then (a, rest) else (b, other)
    | some found, none | none, some found => found
    | none, none => (source, [])

/-- What stands up to the next angle that closes a tag. -/
def upToAngle (source : List Char) : List Char × List Char :=
  (Text.cutWhere? (· == '>') source).getD (source, [])

/-- The text of an element that is read as text, up to its end tag. -/
def rawText (name : List Char) : List Char → List Char × List Char
  | [] => ([], [])
  | c :: rest =>
    -- The end tag is that of the element itself, whatever its case.
    let ends : Bool := match c, rest with
      | '<', '/' :: tail =>
        (List.isPrefixOf? name (tail.map Char.toLower)).any fun after =>
          after.head?.any fun d => isSpace d || d == '/' || d == '>'
      | _, _ => false
    if ends then ([], c :: rest)
    else let (text, after) := rawText name rest; (c :: text, after)

/-- The tokens of a source, whose first character opens something if it can. -/
def tokensFrom : Nat → List Char → List Token
  | 0, _ | _, [] => []
  | fuel + 1, source =>
    -- Text goes up to the next character that may open something.
    let plain (read rest : List Char) :=
      let more := rest.takeWhile (· != '<')
      .text (decodeText false (read ++ more)) :: tokensFrom fuel (rest.drop more.length)
    match source with
    | '<' :: '!' :: '-' :: '-' :: rest =>
      let (text, rest) := commentText rest
      .comment (String.ofList text) :: tokensFrom fuel rest
    | '<' :: '!' :: rest =>
      let (text, rest) := upToAngle rest
      -- Any other declaration is a comment.
      let token := match List.isPrefixOf? "doctype".toList (text.map Char.toLower) with
        | some name => .doctype (String.ofList ((name.dropWhile isSpace).takeWhile (!isSpace ·)))
        | none => .comment (String.ofList text)
      token :: tokensFrom fuel rest
    | '<' :: '?' :: rest =>
      let (text, rest) := upToAngle rest
      .comment (String.ofList ('?' :: text)) :: tokensFrom fuel rest
    | '<' :: '/' :: c :: rest =>
      if c.isAlpha then
        match tag? (c :: rest) with
        | some (name, _, _, rest) => .closing name :: tokensFrom fuel rest
        | none => []
      -- A tag without a name is dropped, and other characters begin a comment.
      else if c = '>' then tokensFrom fuel rest
      else
        let (text, rest) := upToAngle (c :: rest)
        .comment (String.ofList text) :: tokensFrom fuel rest
    | '<' :: c :: rest =>
      if c.isAlpha then
        match tag? (c :: rest) with
        | some (name, attributes, selfClosing, rest) =>
          let token := .opening name attributes selfClosing
          -- Nothing is a tag in such an element but its own end.
          if isRawText name then
            let (text, rest) := rawText name.toList rest
            let text := if isEscapableText name then decodeText false text else text
            let inside := if text.isEmpty then [] else [Token.text text]
            token :: inside ++ tokensFrom fuel rest
          else token :: tokensFrom fuel rest
        | none => []
      else plain ['<'] (c :: rest)
    | c :: rest => plain [c] rest
    | [] => []

/-- The tokens of the source of a page. -/
def tokens (source : String) : List Token :=
  let source := normalizeLines source.toList
  tokensFrom source.length source

end AdFilter.Markup
