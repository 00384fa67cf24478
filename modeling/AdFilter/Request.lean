import AdFilter.ContentType
import AdFilter.Host.Domain
import AdFilter.Url

/-! # Requests -/

namespace AdFilter

/-- A request that a page makes. -/
structure Request where
  url : String
  /-- Usually the mask of one type. -/
  types : TypeMask
  /-- The host of the document that makes the request; empty if it is not known. -/
  document : String := ""
  thirdParty : Bool := false
  deriving Repr, DecidableEq

/-- The request for a URL made by the document at another URL. Without hosts on both sides it
counts as one of the first party. -/
def Request.ofUrls (url : String) (types : TypeMask) (documentUrl : Option String) : Request :=
  let document := (documentUrl.bind Url.host?).getD ""
  let thirdParty :=
    match Url.host? url with
    | some host => document != "" && Host.isThirdParty document host
    | none => false
  { url, types, document, thirdParty }

end AdFilter
