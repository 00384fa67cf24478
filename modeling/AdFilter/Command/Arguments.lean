import AdFilter.Text.Decimal

/-! # Arguments of the command line

The first word names what is to be done; what follows are options. An option has a long name and
perhaps a letter, and either takes a value or is a switch. Letters of switches can be written
together, and a value can be attached to its option.

Words are read from left to right, and the first one that does not fit ends the reading. So does
a switch that asks for the help, whatever stands behind it.
-/

namespace AdFilter.Command

open Text

/-- An option that is understood. -/
structure OptionSpec where
  name : String
  letter : Option Char := none
  /-- What the value is called; a switch has none. -/
  value : Option String := none
  /-- What the help says about the option. -/
  about : String
  needed : Bool := false
  /-- The option can be given again and again. -/
  repeats : Bool := false
  /-- The value if the option is not given. -/
  standard : Option String := none
  /-- Whether a text can be the value. -/
  fits : String → Bool := fun _ => true
  /-- Nothing behind the option is read. -/
  ends : Bool := false

/-- An option that was given, with its value if it takes one. -/
abbrev Given := String × Option String

def isOptionWord (word : List Char) : Bool :=
  word.head? == some '-' && 2 ≤ word.length

def nextValue? : List (List Char) → Option (String × List (List Char))
  | [] => none
  | word :: rest => if isOptionWord word then none else some (String.ofList word, rest)

/-- Reads an option by its long name, with a value attached to it or in the next word. -/
def readLong? (specs : List OptionSpec) (word : List Char) (rest : List (List Char)) :
    Option (List Given × List (List Char)) :=
  let name := String.ofList (word.takeWhile (· != '='))
  let attached := word.dropWhile (· != '=')
  (specs.find? (·.name == name)).bind fun spec =>
    match spec.value, attached with
    | none, [] => some ([(name, none)], if spec.ends then [] else rest)
    | none, _ => none
    | some _, [] => (nextValue? rest).map fun (value, rest) => ([(name, some value)], rest)
    | some _, _ :: value => some ([(name, some (String.ofList value))], rest)

/-- Reads letters up to the end of the word; what follows one that takes a value is its value. -/
def readLetters? (specs : List OptionSpec) (rest : List (List Char)) :
    List Char → Option (List Given × List (List Char))
  | [] => some ([], rest)
  | c :: cs =>
    (specs.find? (·.letter == some c)).bind fun spec =>
      if spec.ends then some ([(spec.name, none)], [])
      else if spec.value.isSome then
        match cs with
        | [] => (nextValue? rest).map fun (value, rest) => ([(spec.name, some value)], rest)
        | '=' :: value => some ([(spec.name, some (String.ofList value))], rest)
        | value => some ([(spec.name, some (String.ofList value))], rest)
      else (readLetters? specs rest cs).map fun (given, rest) => ((spec.name, none) :: given, rest)

/-- Reads one word and the value in the next one, if it belongs to it. -/
def readWord? (specs : List OptionSpec) (word : List Char) (rest : List (List Char)) :
    Option (List Given × List (List Char)) :=
  match word with
  | ['-', '-'] => if rest.isEmpty then some ([], []) else none
  | '-' :: '-' :: name => readLong? specs name rest
  | '-' :: c :: cs => readLetters? specs rest (c :: cs)
  | _ => none

@[grind →] theorem length_of_nextValue? {words rest : List (List Char)} {value : String}
    (h : nextValue? words = some (value, rest)) : rest.length ≤ words.length := by
  unfold nextValue? at h
  grind

@[grind →] theorem length_of_readLong? {specs : List OptionSpec} {word : List Char}
    {words rest : List (List Char)} {given : List Given}
    (h : readLong? specs word words = some (given, rest)) : rest.length ≤ words.length := by
  unfold readLong? at h
  grind [Option.bind_eq_some_iff, Option.map_eq_some_iff]

@[grind →] theorem length_of_readLetters? {specs : List OptionSpec} {letters : List Char}
    {words rest : List (List Char)} {given : List Given}
    (h : readLetters? specs words letters = some (given, rest)) :
    rest.length ≤ words.length := by
  induction letters generalizing given with
  | nil => simp only [readLetters?] at h; grind
  | cons c cs ih =>
    rw [readLetters?] at h
    grind [Option.bind_eq_some_iff, Option.map_eq_some_iff]

@[grind →] theorem length_of_readWord? {specs : List OptionSpec} {word : List Char}
    {words rest : List (List Char)} {given : List Given}
    (h : readWord? specs word words = some (given, rest)) : rest.length ≤ words.length := by
  unfold readWord? at h
  grind

/-- Adds an option to those that were given, unless it is a second one where there can be only
one, or its value does not fit. -/
def add? (specs : List OptionSpec) (given : List Given) (new : Given) : Option (List Given) :=
  (specs.find? (·.name == new.1)).bind fun spec =>
    if (!spec.repeats && given.any (·.1 == spec.name)) || !new.2.all spec.fits then none
    else some (given ++ [new])

/-- Reads all words as options, after those that were given before. -/
def readWords? (specs : List OptionSpec) (given : List Given) :
    List (List Char) → Option (List Given)
  | [] => some given
  | word :: rest =>
    match _h : readWord? specs word rest with
    | none => none
    | some (new, rest) =>
      (new.foldlM (add? specs) given).bind fun given => readWords? specs given rest
termination_by words => words.length
decreasing_by
  have := length_of_readWord? _h
  simp only [List.length_cons]
  omega

def values (given : List Given) (name : String) : List String :=
  given.filterMap fun (n, value) => if n = name then value else none

def value? (given : List Given) (name : String) : Option String :=
  (values given name).head?

def switch (given : List Given) (name : String) : Bool :=
  given.any (·.1 == name)

/-- A number that fits 32 bits, perhaps with a sign. -/
def number? (written : String) : Option Nat :=
  match written.toList with
  | '-' :: ds => (Decimal.digits? ds).filter (· == 0)
  | '+' :: ds => (Decimal.digits? ds).filter (· < UInt32.size)
  | ds => (Decimal.digits? ds).filter (· < UInt32.size)

end AdFilter.Command
