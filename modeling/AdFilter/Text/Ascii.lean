/-! # ASCII letters in text

Names, hosts and option words are compared without regard to the case of the ASCII
letters; every other character stands for itself.
-/

namespace AdFilter.Text

def upper (s : String) : String :=
  String.ofList (s.toList.map Char.toUpper)

def lower (s : String) : String :=
  String.ofList (s.toList.map Char.toLower)

def isNameChar (c : Char) : Bool :=
  c.isAlphanum || c == '_' || c == '-'

def isAscii (c : Char) : Bool :=
  c.toNat < 0x80

end AdFilter.Text
