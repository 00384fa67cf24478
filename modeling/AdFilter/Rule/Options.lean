import AdFilter.Rule.Basic

/-! # Options of a rule

A line may end in a dollar sign and a list of options with commas between them. An option is a
name, which a tilde negates, and perhaps a value. Of options that speak of the same thing the
last one counts; types add up.
-/

namespace AdFilter

open Text

/-- What becomes of a line with options that are not known. -/
inductive Policy where
  /-- They are passed over. -/
  | lenient
  /-- The line is invalid. -/
  | strict
  deriving Repr, DecidableEq

/-- What one option says. -/
inductive RuleOption where
  /-- The rule applies to the type, or does not. -/
  | type (t : ContentType) (applies : Bool)
  | matchCase
  | domains (list : String)
  | thirdParty (required : Bool)
  | collapse (yes : Bool)
  | unknown (written : String)
  deriving Repr, DecidableEq

namespace RuleOption

def underscoreFirst : List Char → List Char
  | [] => []
  | c :: cs => if c = '-' then '_' :: cs else c :: underscoreFirst cs

/-- The form in which names of options are compared. -/
def normalName (name : List Char) : String :=
  String.ofList (underscoreFirst (name.map Char.toUpper))

def type? (name : String) : Option RuleOption :=
  match ContentType.ofName? name with
  | some t => some (.type t true)
  | none =>
    match name.toList with
    | '~' :: rest => (ContentType.ofName? (String.ofList rest)).map (.type · false)
    | _ => none

/-- The option that is named, with its value, if it is one that names no type. -/
def other? (name : String) (value : Option String) : Option RuleOption :=
  if name = "MATCH_CASE" then some .matchCase
  else if name = "DOMAIN" then value.map .domains
  else if name = "THIRD_PARTY" then some (.thirdParty true)
  else if name = "~THIRD_PARTY" then some (.thirdParty false)
  else if name = "COLLAPSE" then some (.collapse true)
  else if name = "~COLLAPSE" then some (.collapse false)
  else none

/-- What a written option says. What follows a second equals sign is dropped. -/
def ofChars (written : List Char) : RuleOption :=
  let parts := pieces '=' written
  let name := normalName (parts.head?.getD [])
  let value := (parts[1]?).map String.ofList
  ((type? name).or (other? name value)).getD (.unknown (String.ofList written))

end RuleOption

/-- What a list of options says. -/
structure RuleOptions where
  conditions : Conditions := {}
  collapse : Option Bool := none
  /-- Whether pages are named without a tilde. -/
  namesDocument : Bool := false
  /-- The options that are not known, as written. -/
  unknown : List String := []
  deriving Repr, DecidableEq

namespace RuleOptions

/-- The mask after an option that names a type. The first one decides whether types are added to
none or taken away from all. -/
def addType (types : Option TypeMask) (t : ContentType) : Bool → TypeMask
  | true => types.getD 0 ||| t.mask
  | false => (types.getD .standard).without t.mask

def add (o : RuleOptions) : RuleOption → RuleOptions
  | .type t yes =>
    { o with
      conditions := { o.conditions with types := some (addType o.conditions.types t yes) }
      namesDocument := o.namesDocument || (yes && t == .document) }
  | .matchCase => { o with conditions := { o.conditions with matchCase := true } }
  | .domains list => { o with conditions := { o.conditions with domains := some list } }
  | .thirdParty b => { o with conditions := { o.conditions with thirdParty := some b } }
  | .collapse b => { o with collapse := some b }
  | .unknown written => { o with unknown := o.unknown ++ [written] }

def ofChars (list : List Char) : RuleOptions :=
  ((pieces ',' list).map RuleOption.ofChars).foldl add {}

/-- Whether the characters have the form of an option. -/
def isOption (written : List Char) : Bool :=
  let body := if written.head? = some '~' then written.drop 1 else written
  let value := body.dropWhile isNameChar
  !(body.takeWhile isNameChar).isEmpty &&
    (value.isEmpty ||
      (value.head? == some '=' && 2 ≤ value.length && (value.drop 1).all (!isBlank ·)))

/-- Whether the characters have the form of a list of options. -/
def isOptionList (written : List Char) : Bool :=
  (pieces ',' written).all isOption

/-- The characters before and behind the first dollar sign that a list of options follows. -/
def split? : List Char → Option (List Char × List Char)
  | [] => none
  | c :: cs =>
    if c = '$' ∧ isOptionList cs then some ([], cs)
    else (split? cs).map fun (pattern, list) => (c :: pattern, list)

/-- The pattern of a line and what its options say. -/
def cut (line : List Char) : List Char × RuleOptions :=
  match split? line with
  | some (pattern, list) => (pattern, ofChars list)
  | none => (line, {})

end RuleOptions

end AdFilter
