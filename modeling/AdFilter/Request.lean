import AdFilter.Site
import AdFilter.Url

/-! Requests as browsers make them, their types, and sets of types. -/

namespace AdFilter

/-- What a request is for. -/
inductive RequestType
  | other
  | script
  | image
  | stylesheet
  | object
  | subdocument
  | xmlHttpRequest
  | objectSubrequest
  | media
  | font
  | webSocket
  | webRtc
  | document
  | popup
  deriving DecidableEq

namespace RequestType

/-- The place of a type in a set of types. -/
def index : RequestType → Nat
  | other => 0
  | script => 1
  | image => 2
  | stylesheet => 3
  | object => 4
  | subdocument => 5
  | xmlHttpRequest => 6
  | objectSubrequest => 7
  | media => 8
  | font => 9
  | webSocket => 10
  | webRtc => 11
  | document => 12
  | popup => 13

/-- The type that an option of a rule names. -/
def ofOption? : String → Option RequestType
  | "other" => some other
  | "script" => some script
  | "image" => some image
  | "stylesheet" => some stylesheet
  | "object" => some object
  | "subdocument" => some subdocument
  | "xmlhttprequest" => some xmlHttpRequest
  | "object-subrequest" => some objectSubrequest
  | "media" => some media
  | "font" => some font
  | "websocket" => some webSocket
  | "webrtc" => some webRtc
  | "document" => some document
  | "popup" => some popup
  | _ => none

/-- The type that a browser gives a request; names it does not know are those of other requests. -/
def ofBrowser : String → RequestType
  | "main_frame" | "document" => document
  | "sub_frame" | "subdocument" => subdocument
  | "stylesheet" => stylesheet
  | "script" => script
  | "image" => image
  | "font" => font
  | "object" => object
  | "object_subrequest" | "object-subrequest" => objectSubrequest
  | "xmlhttprequest" | "xhr" => xmlHttpRequest
  | "media" => media
  | "websocket" => webSocket
  | "webrtc" => webRtc
  | "popup" => popup
  | _ => other

end RequestType

/-- A set of request types; a request has a set as well, mostly of one type. -/
structure TypeSet where
  bits : BitVec 14
  deriving DecidableEq, Hashable

namespace TypeSet

/-- The set of no type. -/
def empty : TypeSet := ⟨0⟩

/-- The set of all types. -/
def all : TypeSet := ⟨BitVec.allOnes 14⟩

/-- The set of one type. -/
def only (type : RequestType) : TypeSet := ⟨BitVec.twoPow 14 type.index⟩

/-- The types of two sets. -/
def union (a b : TypeSet) : TypeSet := ⟨a.bits ||| b.bits⟩

/-- The two sets have a type in common. -/
def meets (a b : TypeSet) : Bool := a.bits &&& b.bits != 0

/-- The set has no type. -/
def isEmpty (a : TypeSet) : Bool := a == empty

end TypeSet

/-- A request as a browser makes it. -/
structure Request where
  url : String
  /-- The document that makes the request, if there is one. -/
  document : Option String
  types : TypeSet

namespace Request

/-- The host of the document, in small letters. -/
def documentHost? (request : Request) : Option String := request.document.bind Url.lowerHost?

/-- The request crosses sites; where one of the hosts is not known it does not. -/
def isThirdParty (request : Request) : Bool :=
  match Url.lowerHost? request.url, request.documentHost? with
  | some host, some documentHost => Site.crosses documentHost host
  | _, _ => false

end Request

end AdFilter
