import AdFilter.Text.Ascii
import AdFilter.Text.Blank

/-! # Types of requests

A request has a type, and a rule says by a mask which types it applies to. The bits of a mask are
stored in records, so they are fixed; a mask may also hold bits of no type.
-/

namespace AdFilter

open Text

/-- A set of content types by their bits. -/
abbrev TypeMask := BitVec 32

/-- What a request is for. -/
inductive ContentType where
  | other
  | script
  | image
  | stylesheet
  | object
  /-- A frame inside a page. -/
  | subdocument
  /-- A page itself. -/
  | document
  | background
  | xbl
  | ping
  | xmlHttpRequest
  | objectSubrequest
  | dtd
  | media
  deriving Repr, DecidableEq

namespace ContentType

def all : List ContentType :=
  [.other, .script, .image, .stylesheet, .object, .subdocument, .document, .background, .xbl,
    .ping, .xmlHttpRequest, .objectSubrequest, .dtd, .media]

def bitIndex : ContentType → Nat
  | .other => 0
  | .script => 1
  | .image => 2
  | .stylesheet => 3
  | .object => 4
  | .subdocument => 5
  | .document => 6
  | .background => 8
  | .xbl => 9
  | .ping => 10
  | .xmlHttpRequest => 11
  | .objectSubrequest => 12
  | .dtd => 13
  | .media => 14

def mask (t : ContentType) : TypeMask :=
  BitVec.twoPow 32 t.bitIndex

def name : ContentType → String
  | .other => "OTHER"
  | .script => "SCRIPT"
  | .image => "IMAGE"
  | .stylesheet => "STYLESHEET"
  | .object => "OBJECT"
  | .subdocument => "SUBDOCUMENT"
  | .document => "DOCUMENT"
  | .background => "BACKGROUND"
  | .xbl => "XBL"
  | .ping => "PING"
  | .xmlHttpRequest => "XMLHTTPREQUEST"
  | .objectSubrequest => "OBJECT_SUBREQUEST"
  | .dtd => "DTD"
  | .media => "MEDIA"

def ofName? (s : String) : Option ContentType :=
  all.find? (·.name == s)

/-- The type that a host reports a request as. Hyphens and underscores are the same, case does
not count, and an unknown type is `other`. -/
def ofRequestType (s : String) : ContentType :=
  let name := String.ofList ((upper (trim s)).toList.map fun c => if c = '-' then '_' else c)
  if name = "MAIN_FRAME" then .document
  else if name = "SUB_FRAME" then .subdocument
  else if name = "XHR" then .xmlHttpRequest
  else (ofName? name).getD .other

end ContentType

/-- The mask of a rule that names no types: every type, and the bits that no type has but the
highest. -/
def TypeMask.standard : TypeMask := 0x7FFFFFFF#32

def TypeMask.without (m n : TypeMask) : TypeMask := m &&& ~~~n

/-- Whether the masks have a bit in common. -/
def TypeMask.meets (m n : TypeMask) : Bool := m &&& n != 0

def TypeMask.has (m : TypeMask) (t : ContentType) : Bool := m.getLsbD t.bitIndex

end AdFilter
