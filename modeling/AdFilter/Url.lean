/-! # The host in an address of the web

Only the parts that surround the host are told apart: the scheme before it, the user in front of
it and the port behind it. Its position is looked for in the bytes of the address, all of whose
delimiters are ASCII characters.
-/

namespace AdFilter.Url

def isSchemeChar (c : Char) : Bool :=
  c.isAlphanum || c == '+' || c == '-' || c == '.'

/-- Characters that end the part of the address that the host is in. -/
def endsAuthority (c : Char) : Bool :=
  c == '/' || c == '?' || c == '#'

/-- The characters up to and including `://`, and what follows them. -/
def cutScheme? (url : List Char) : Option (List Char × List Char) :=
  let scheme := url.takeWhile (· != ':')
  if scheme.isEmpty || !scheme.all isSchemeChar then none
  else
    match url.dropWhile (· != ':') with
    | ':' :: '/' :: '/' :: rest => some (scheme ++ [':', '/', '/'], rest)
    | _ => none

/-- The characters up to and including the last `@`, and what follows them. -/
def cutUser (authority : List Char) : List Char × List Char :=
  let host := (authority.reverse.takeWhile (· != '@')).reverse
  (authority.take (authority.length - host.length), host)

/-- The host at the start of the characters: up to a colon, or up to the closing bracket if it
begins with an opening one. -/
def hostOf : List Char → List Char
  | '[' :: cs => '[' :: cs.takeWhile (· != ']') ++ (cs.dropWhile (· != ']')).take 1
  | cs => cs.takeWhile (· != ':')

/-- What stands before the host, the host, and what stands behind it. -/
def cutHost? (url : List Char) : Option (List Char × List Char × List Char) :=
  (cutScheme? url).map fun (scheme, rest) =>
    let authority := rest.takeWhile (!endsAuthority ·)
    let (user, tail) := cutUser authority
    let host := hostOf tail
    let before := scheme ++ user
    (before, host, url.drop (before.length + host.length))

def bytesOf (url : String) : List UInt8 :=
  url.toUTF8.data.toList

/-- Whether the byte is an ASCII character of the kind. -/
def ascii (kind : Char → Bool) (b : UInt8) : Bool :=
  b < 128 && kind (Char.ofUInt8 b)

def lastIdx? (kind : UInt8 → Bool) (bytes : List UInt8) : Option Nat :=
  (bytes.reverse.findIdx? kind).map (bytes.length - 1 - ·)

/-- The number of bytes up to the end of `://`. -/
def schemeEnd? (url : String) : Option Nat :=
  let bytes := bytesOf url
  (bytes.findIdx? (ascii (· == ':'))).bind fun colon =>
    let scheme := bytes.take colon
    if scheme.isEmpty || !scheme.all (ascii isSchemeChar) then none
    else if (bytesOf "://").isPrefixOf (bytes.drop colon) then some (colon + 3)
    else none

/-- Where the part that the host is in ends. -/
def authorityEnd (bytes : List UInt8) (start : Nat) : Nat :=
  ((bytes.drop start).findIdx? (ascii endsAuthority)).elim bytes.length (start + ·)

def hostStart (bytes : List UInt8) (start stop : Nat) : Nat :=
  (lastIdx? (ascii (· == '@')) (bytes.extract start stop)).elim start (start + · + 1)

def hostEnd (bytes : List UInt8) (first stop : Nat) : Nat :=
  let tail := bytes.extract first stop
  if bytes[first]?.any (ascii (· == '[')) then
    (tail.findIdx? (ascii (· == ']'))).elim stop (first + · + 1)
  else (tail.findIdx? (ascii (· == ':'))).elim stop (first + ·)

/-- Where the host begins and ends, in bytes. -/
def hostPosition? (url : String) : Option (Nat × Nat) :=
  let bytes := bytesOf url
  (schemeEnd? url).map fun start =>
    let stop := authorityEnd bytes start
    let first := hostStart bytes start stop
    (first, hostEnd bytes first stop)

/-- The host, if there is one. -/
def host? (url : String) : Option String :=
  (cutHost? url.toList).bind fun (_, host, _) =>
    if host.isEmpty then none else some (String.ofList host)

end AdFilter.Url
