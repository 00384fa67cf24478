import AdFilter.Proofs.Text.Ascii
import AdFilter.Proofs.Url
import Mathlib.Data.Bool.AllAny
import Mathlib.Data.List.TakeWhile
import Mathlib.Data.String.Basic

/-! # Searching the bytes of a URL

In UTF-8 a byte below 128 is always a character of its own. So a search for ASCII characters finds
in the bytes what it finds in the characters, and the position of the host is the length of what
stands in front of it.
-/

namespace AdFilter.Url

/-- No character of the kind is beyond ASCII. -/
def IsAsciiKind (kind : Char → Bool) : Prop :=
  ∀ c, kind c = true → c.toNat < 128

theorem isAsciiKind_beq {c : Char} (small : c.toNat < 128) : IsAsciiKind (· == c) := by
  intro d same
  rwa [eq_of_beq same]

theorem isAsciiKind_isSchemeChar : IsAsciiKind isSchemeChar := by
  intro c isKind
  simp only [isSchemeChar, Bool.or_eq_true, beq_iff_eq] at isKind
  rcases isKind with ((alphanum | rfl) | rfl) | rfl
  · exact of_decide_eq_true (Text.isAscii_of_isAlphanum alphanum)
  all_goals decide

theorem isAsciiKind_endsAuthority : IsAsciiKind endsAuthority := by
  intro c isKind
  simp only [endsAuthority, Bool.or_eq_true, beq_iff_eq] at isKind
  rcases isKind with (rfl | rfl) | rfl <;> decide

def encode (cs : List Char) : List UInt8 :=
  cs.flatMap String.utf8EncodeChar

section Encoding

variable {kind : Char → Bool} {c : Char}

@[simp] theorem encode_nil : encode [] = [] := rfl

@[simp] theorem encode_cons (c : Char) (cs : List Char) :
    encode (c :: cs) = String.utf8EncodeChar c ++ encode cs :=
  List.flatMap_cons

@[simp] theorem encode_append (xs ys : List Char) : encode (xs ++ ys) = encode xs ++ encode ys :=
  List.flatMap_append

@[simp] theorem length_encode (cs : List Char) : (encode cs).length = String.utf8Len cs := by
  induction cs with
  | nil => rfl
  | cons c cs ih =>
      rw [encode_cons, List.length_append, String.length_utf8EncodeChar, ih, String.utf8Len_cons,
        Nat.add_comm]

theorem bytesOf_eq (url : String) : bytesOf url = encode url.toList := by
  conv_lhs => rw [← url.ofList_toList]
  rw [bytesOf, String.toUTF8_eq_toByteArray, String.toByteArray_ofList]
  exact List.toList_data_toByteArray

theorem utf8EncodeChar_of_lt (small : c.toNat < 128) : String.utf8EncodeChar c = [c.toUInt8] := by
  have fits : c.val.toNat ≤ 127 := Nat.le_of_lt_succ small
  simp only [String.utf8EncodeChar, fits, if_true]
  rfl

theorem le_ofNat {n : Nat} (large : 128 ≤ n) (fits : n < 256) : 128 ≤ UInt8.ofNat n := by
  rw [UInt8.le_iff_toNat_le, UInt8.toNat_ofNat_of_lt' fits]
  exact large

theorem le_of_mem_utf8EncodeChar (large : 128 ≤ c.toNat) :
    ∀ b ∈ String.utf8EncodeChar c, 128 ≤ b := by
  intro b member
  have beyond : ¬ c.val.toNat ≤ 127 := Nat.not_le.mpr large
  simp only [String.utf8EncodeChar, beyond, if_false] at member
  split at member <;> [skip; split at member] <;>
    simp only [List.mem_cons, List.not_mem_nil, or_false] at member
  · rcases member with rfl | rfl <;> exact le_ofNat (by omega) (by omega)
  · rcases member with rfl | rfl | rfl <;> exact le_ofNat (by omega) (by omega)
  · rcases member with rfl | rfl | rfl | rfl <;> exact le_ofNat (by omega) (by omega)

theorem ofUInt8_toUInt8 (small : c.toNat < 128) : Char.ofUInt8 c.toUInt8 = c := by
  apply Char.ext
  apply UInt32.toNat_inj.mp
  show c.toNat % 256 = c.toNat
  omega

theorem toUInt8_lt (small : c.toNat < 128) : c.toUInt8 < 128 := by
  rw [UInt8.lt_iff_toNat_lt]
  show c.toNat % 256 < 128
  omega

theorem ascii_toUInt8 (small : c.toNat < 128) : ascii kind c.toUInt8 = kind c := by
  rw [ascii, ofUInt8_toUInt8 small, decide_eq_true (toUInt8_lt small), Bool.true_and]

theorem ascii_of_le {b : UInt8} (large : 128 ≤ b) : ascii kind b = false := by
  rw [ascii, decide_eq_false (UInt8.not_lt.mpr large), Bool.false_and]

theorem ascii_beq (small : c.toNat < 128) (b : UInt8) : ascii (· == c) b = (c.toUInt8 == b) := by
  rw [Bool.eq_iff_iff, ascii, Bool.and_eq_true, decide_eq_true_iff, beq_iff_eq, beq_iff_eq]
  constructor
  · rintro ⟨-, rfl⟩
    exact b.toUInt8_toUInt32
  · rintro rfl
    exact ⟨toUInt8_lt small, ofUInt8_toUInt8 small⟩

/-- The first byte of a character is of a kind exactly if the character is, and no byte behind it
is of the kind. -/
theorem exists_bytes (only : IsAsciiKind kind) (c : Char) :
    ∃ b bs, String.utf8EncodeChar c = b :: bs ∧ ascii kind b = kind c ∧
      (kind c = true → bs = []) ∧ ∀ d ∈ bs, ascii kind d = false := by
  by_cases small : c.toNat < 128
  · exact ⟨c.toUInt8, [], utf8EncodeChar_of_lt small, ascii_toUInt8 small, fun _ => rfl, nofun⟩
  · have large := le_of_mem_utf8EncodeChar (Nat.not_lt.mp small)
    have other : kind c = false := Bool.not_eq_true _ ▸ mt (only c) small
    obtain ⟨b, bs, isCons⟩ := List.exists_cons_of_ne_nil (String.utf8EncodeChar_ne_nil (c := c))
    rw [isCons] at large
    refine ⟨b, bs, isCons, ?_, fun isKind => ?_, fun d member => ?_⟩
    · rw [other, ascii_of_le (large b List.mem_cons_self)]
    · rw [other] at isKind
      cases isKind
    · exact ascii_of_le (large d (List.mem_cons_of_mem b member))

theorem isEmpty_encode (cs : List Char) : (encode cs).isEmpty = cs.isEmpty := by
  cases cs with
  | nil => rfl
  | cons c cs => simp [String.utf8EncodeChar_ne_nil]

end Encoding

section Search

variable {kind : Char → Bool} (only : IsAsciiKind kind)

include only

theorem findIdx?_encode (cs : List Char) :
    (encode cs).findIdx? (ascii kind) =
      if cs.any kind then some (String.utf8Len (cs.takeWhile (!kind ·))) else none := by
  induction cs with
  | nil => rfl
  | cons c cs ih =>
      obtain ⟨b, bs, isCons, first, -, others⟩ := exists_bytes only c
      rw [encode_cons, List.findIdx?_append, ih, String.length_utf8EncodeChar, List.any_cons, isCons,
        List.findIdx?_cons, first, List.findIdx?_eq_none_iff.mpr others]
      cases isKind : kind c with
      | true => simp [isKind]
      | false => cases cs.any kind <;> simp [isKind]

theorem all_encode (cs : List Char) : (encode cs).all (ascii kind) = cs.all kind := by
  induction cs with
  | nil => rfl
  | cons c cs ih =>
      obtain ⟨b, bs, isCons, first, alone, -⟩ := exists_bytes only c
      rw [encode_cons, List.all_append, ih, List.all_cons, isCons, List.all_cons, first]
      cases isKind : kind c with
      | true => simp [alone isKind]
      | false => rfl

theorem any_head?_encode (cs : List Char) :
    (encode cs).head?.any (ascii kind) = cs.head?.any kind := by
  cases cs with
  | nil => rfl
  | cons c cs =>
      obtain ⟨b, bs, isCons, first, -⟩ := exists_bytes only c
      rw [encode_cons, isCons]
      exact first

theorem elim_findIdx?_encode (start : Nat) (cs : List Char) :
    ((encode cs).findIdx? (ascii kind)).elim (start + String.utf8Len cs) (start + ·) =
      start + String.utf8Len (cs.takeWhile (!kind ·)) := by
  rw [findIdx?_encode only]
  cases found : cs.any kind with
  | true => rfl
  | false =>
      have whole : cs.takeWhile (!kind ·) = cs :=
        List.takeWhile_eq_self_iff.mpr (by simpa using found)
      rw [whole]
      rfl

end Search

section Sign

variable {sign : Char} (small : sign.toNat < 128)

include small

theorem findIdx?_encode_append_cons {front : List Char} (absent : sign ∉ front)
    (rest : List Char) :
    (encode (front ++ sign :: rest)).findIdx? (ascii (· == sign)) = some (String.utf8Len front) := by
  have found : (front ++ sign :: rest).any (· == sign) = true := by simp
  have before : (front ++ sign :: rest).takeWhile (! · == sign) = front :=
    takeWhile_bne_append_cons absent rest
  rw [findIdx?_encode (isAsciiKind_beq small), if_pos found, before]

theorem findIdx?_encode_of_not_mem {cs : List Char} (absent : sign ∉ cs) :
    (encode cs).findIdx? (ascii (· == sign)) = none := by
  have nowhere : ¬ cs.any (· == sign) = true := by simpa using absent
  rw [findIdx?_encode (isAsciiKind_beq small), if_neg nowhere]

theorem ascii_of_not_mem {cs : List Char} (absent : sign ∉ cs) :
    ∀ b ∈ encode cs, ascii (· == sign) b = false :=
  List.findIdx?_eq_none_iff.mp (findIdx?_encode_of_not_mem small absent)

end Sign

theorem isPrefixOf_encode {front : List Char} (small : ∀ c ∈ front, c.toNat < 128)
    (cs : List Char) : (encode front).isPrefixOf (encode cs) = front.isPrefixOf cs := by
  induction front generalizing cs with
  | nil => rfl
  | cons a front ih =>
      have smallA : a.toNat < 128 := small a List.mem_cons_self
      have ih := ih fun c member => small c (List.mem_cons_of_mem a member)
      rw [encode_cons, utf8EncodeChar_of_lt smallA]
      cases cs with
      | nil => rfl
      | cons d ds =>
          obtain ⟨b, bs, isCons, first, alone, -⟩ := exists_bytes (isAsciiKind_beq smallA) d
          rw [encode_cons, isCons, List.singleton_append, List.cons_append,
            List.isPrefixOf_cons_cons, List.isPrefixOf_cons_cons, ← ascii_beq smallA, first]
          cases same : d == a with
          | true =>
              rw [alone same, List.nil_append, ih, BEq.comm, same]
          | false =>
              rw [BEq.comm (a := a), same]
              rfl

section Positions

theorem lastIdx?_eq_none {kind : UInt8 → Bool} {bytes : List UInt8}
    (absent : ∀ b ∈ bytes, kind b = false) : lastIdx? kind bytes = none := by
  rw [lastIdx?, List.findIdx?_eq_none_iff.mpr fun b member => absent b (List.mem_reverse.mp member)]
  rfl

theorem lastIdx?_append_cons {kind : UInt8 → Bool} {b : UInt8} {ys : List UInt8}
    (isKind : kind b = true) (absent : ∀ y ∈ ys, kind y = false) (xs : List UInt8) :
    lastIdx? kind (xs ++ b :: ys) = some xs.length := by
  have behind : ys.reverse.findIdx? kind = none :=
    List.findIdx?_eq_none_iff.mpr fun y member => absent y (List.mem_reverse.mp member)
  rw [lastIdx?, List.reverse_append, List.reverse_cons, List.append_assoc, List.findIdx?_append,
    behind, List.singleton_append, List.findIdx?_cons, if_pos isKind]
  simp only [Option.none_or, Option.map_some, List.length_append, List.length_cons,
    List.length_reverse, Option.some.injEq]
  omega

theorem schemeEnd?_of_colon {url : String} {scheme rest : List Char} (noColon : ':' ∉ scheme)
    (whole : url.toList = scheme ++ ':' :: rest) :
    schemeEnd? url =
      if scheme.isEmpty || !scheme.all isSchemeChar then none
      else if "//".toList.isPrefixOf rest then some (String.utf8Len scheme + 3) else none := by
  have front : (encode (scheme ++ ':' :: rest)).take (String.utf8Len scheme) = encode scheme := by
    rw [encode_append, List.take_left' (length_encode scheme)]
  have back : (encode (scheme ++ ':' :: rest)).drop (String.utf8Len scheme) =
      encode (':' :: rest) := by
    rw [encode_append, List.drop_left' (length_encode scheme)]
  have slashes : (encode "://".toList).isPrefixOf (encode (':' :: rest)) =
      "//".toList.isPrefixOf rest :=
    isPrefixOf_encode (List.all_iff_forall_prop.mp (by decide)) _
  rw [schemeEnd?, bytesOf_eq, bytesOf_eq, whole, findIdx?_encode_append_cons (by decide) noColon]
  simp only [Option.bind_some, front, back, slashes, all_encode isAsciiKind_isSchemeChar,
    isEmpty_encode]

theorem schemeEnd?_eq (url : String) :
    schemeEnd? url = (cutScheme? url.toList).map fun cut => String.utf8Len cut.1 := by
  by_cases colon : ':' ∈ url.toList
  · obtain ⟨scheme, rest, whole, noColon⟩ := List.eq_append_cons_of_mem colon
    rw [schemeEnd?_of_colon noColon whole, whole, cutScheme?_of_colon noColon]
    split
    · rfl
    · split
      · rw [Option.map_some, String.utf8Len_append]
        rfl
      · rfl
  · rw [schemeEnd?, bytesOf_eq, findIdx?_encode_of_not_mem (by decide) colon,
      cutScheme?_of_not_mem colon]
    rfl

theorem authorityEnd_append (before rest : List Char) :
    authorityEnd (encode (before ++ rest)) (String.utf8Len before) =
      String.utf8Len before + String.utf8Len (rest.takeWhile (!endsAuthority ·)) := by
  rw [authorityEnd, encode_append, List.drop_left' (length_encode before), List.length_append,
    length_encode, length_encode]
  exact elim_findIdx?_encode isAsciiKind_endsAuthority _ rest

theorem extract_encode (before inner after : List Char) :
    (encode (before ++ inner ++ after)).extract (String.utf8Len before)
      (String.utf8Len before + String.utf8Len inner) = encode inner := by
  rw [List.extract_eq_take_drop, Nat.add_sub_cancel_left, List.append_assoc, encode_append,
    List.drop_left' (length_encode before), encode_append, List.take_left' (length_encode inner)]

theorem hostStart_append {user tail : List Char} (noSign : '@' ∉ tail)
    (ends : ∀ c ∈ user.getLast?, c = '@') (before after : List Char) :
    hostStart (encode (before ++ (user ++ tail) ++ after)) (String.utf8Len before)
        (String.utf8Len before + String.utf8Len (user ++ tail)) =
      String.utf8Len (before ++ user) := by
  rw [hostStart, extract_encode, String.utf8Len_append]
  have noByte := ascii_of_not_mem (by decide) noSign
  rcases List.eq_nil_or_concat' user with rfl | ⟨u, c, rfl⟩
  · rw [List.nil_append, lastIdx?_eq_none noByte]
    rfl
  · obtain rfl : c = '@' := ends c (by simp)
    have parts : encode (u ++ ['@'] ++ tail) = encode u ++ '@'.toUInt8 :: encode tail := by
      simp [utf8EncodeChar_of_lt]
    rw [parts, lastIdx?_append_cons (by decide) noByte, Option.elim_some, length_encode,
      String.utf8Len_append, Nat.add_assoc]
    rfl

theorem hostEnd_append (before tail : List Char) {after : List Char}
    (ends : ∀ c ∈ after.head?, endsAuthority c = true) :
    hostEnd (encode (before ++ tail ++ after)) (String.utf8Len before)
        (String.utf8Len before + String.utf8Len tail) =
      String.utf8Len before + String.utf8Len (hostOf tail) := by
  have start : (encode (before ++ tail ++ after))[String.utf8Len before]? =
      (encode (tail ++ after)).head? := by
    rw [List.append_assoc, encode_append, List.getElem?_append_right (length_encode before).le,
      length_encode, Nat.sub_self, List.head?_eq_getElem?]
  rw [hostEnd, extract_encode, start, any_head?_encode (isAsciiKind_beq (by decide))]
  by_cases open' : tail.head? = some '['
  · obtain ⟨cs, rfl⟩ := List.head?_eq_some_iff.mp open'
    have bracket : ('[' :: cs ++ after).head?.any (· == '[') = true := rfl
    rw [if_pos bracket]
    by_cases closed : ']' ∈ cs
    · obtain ⟨inside, rest, rfl, noBracket⟩ := List.eq_append_cons_of_mem closed
      have outside : ']' ∉ '[' :: inside := by simpa using noBracket
      rw [← List.cons_append, findIdx?_encode_append_cons (by decide) outside,
        hostOf_bracket noBracket, String.utf8Len_append ('[' :: inside) [']']]
      rfl
    · have outside : ']' ∉ '[' :: cs := by simpa using closed
      rw [findIdx?_encode_of_not_mem (by decide) outside, hostOf_unclosed closed]
      rfl
  · have bare : ¬ (tail ++ after).head?.any (· == '[') = true := by
      cases tail with
      | cons c cs => simpa using open'
      | nil =>
          intro bracket
          obtain ⟨c, first, isBracket⟩ := (Option.any_eq_true _ _).mp bracket
          obtain rfl := eq_of_beq isBracket
          cases ends '[' first
    rw [if_neg bare, hostOf_of_head? open']
    exact elim_findIdx?_encode (isAsciiKind_beq (by decide)) _ tail

/-- The search in the bytes finds the host that the characters are cut at. -/
theorem hostPosition?_eq (url : String) :
    hostPosition? url = (cutHost? url.toList).map fun cut =>
      (String.utf8Len cut.1, String.utf8Len cut.1 + String.utf8Len cut.2.1) := by
  rw [hostPosition?, bytesOf_eq, schemeEnd?_eq, cutHost?, Option.map_map, Option.map_map]
  cases cut : cutScheme? url.toList with
  | none => rfl
  | some parts =>
      obtain ⟨scheme, rest⟩ := parts
      obtain ⟨-, -, whole, -⟩ := cutScheme?_eq_some cut
      obtain ⟨user, tail, split, isSplit, noSign, ends⟩ :=
        cutUser_cases (rest.takeWhile (!endsAuthority ·))
      have stops : ∀ c ∈ (rest.dropWhile (!endsAuthority ·)).head?, endsAuthority c = true := by
        intro c first
        have stops := List.head?_dropWhile_not (!endsAuthority ·) rest
        rw [Option.mem_def.mp first] at stops
        simpa using stops
      have parts : url.toList = scheme ++ (user ++ tail) ++ rest.dropWhile (!endsAuthority ·) := by
        rw [← split, List.append_assoc, List.takeWhile_append_dropWhile, whole]
      have stop := authorityEnd_append scheme rest
      have first := hostStart_append noSign ends scheme (rest.dropWhile (!endsAuthority ·))
      have last := hostEnd_append (scheme ++ user) tail stops
      rw [← whole, split] at stop
      rw [← parts] at first
      rw [List.append_assoc scheme, ← parts, ← String.utf8Len_append, List.append_assoc,
        String.utf8Len_append scheme (user ++ tail)] at last
      simp only [Option.map_some, Function.comp_apply, isSplit, stop, first, last]

end Positions

end AdFilter.Url
