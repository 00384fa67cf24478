import AdFilter.Digest.XXH64
import Mathlib.Algebra.Group.Nat.Defs
import Mathlib.Data.List.Nodup
import Mathlib.Logic.Function.Basic

/-! # Digests under different seeds

Each step of the digest of a text that does not fill a stripe can be undone. So such a text has
another digest under each seed, and as many keys as there are seeds.
-/

namespace AdFilter.Digest

open Function

section Words

variable {k : UInt64} (low : 0 < k.toNat) (high : k.toNat < 64)

include low high in
theorem toBitVec_rotate (x : UInt64) : (rotate x k).toBitVec = x.toBitVec.rotateLeft k.toNat := by
  have left : (k.toBitVec % 64).toNat = k.toNat := by
    simpa using Nat.mod_eq_of_lt high
  have right : ((64 - k).toBitVec % 64).toNat = 64 - k.toNat := by
    have rest : (64 - k).toNat = 64 - k.toNat :=
      UInt64.toNat_sub_of_le _ _ (UInt64.le_iff_toNat_le.mpr (Nat.le_of_lt high))
    rw [BitVec.toNat_umod, UInt64.toNat_toBitVec, rest]
    exact Nat.mod_eq_of_lt (show 64 - k.toNat < 64 by omega)
  rw [rotate, UInt64.toBitVec_or, UInt64.toBitVec_shiftLeft, UInt64.toBitVec_shiftRight,
    BitVec.shiftLeft_eq', BitVec.ushiftRight_eq', left, right, BitVec.rotateLeft_def,
    Nat.mod_eq_of_lt high]

include low high in
theorem rotate_injective : Injective (rotate · k) := by
  intro x y same
  have turned : x.toBitVec.rotateLeft k.toNat = y.toBitVec.rotateLeft k.toNat := by
    rw [← toBitVec_rotate low high, ← toBitVec_rotate low high]
    exact congrArg UInt64.toBitVec same
  apply UInt64.eq_of_toBitVec_eq
  apply BitVec.eq_of_getLsbD_eq
  intro i inside
  -- Bit `i` went to the place `k` further up, or came round to the low end.
  by_cases stays : i + k.toNat < 64
  · have bit := congrArg (fun word : BitVec 64 => word.getLsbD (i + k.toNat)) turned
    have above : ¬ i + k.toNat < k.toNat := by omega
    simpa [BitVec.getLsbD_rotateLeft, Nat.mod_eq_of_lt high, stays, above, inside] using bit
  · have bit := congrArg (fun word : BitVec 64 => word.getLsbD (i + k.toNat - 64)) turned
    have wraps : i + k.toNat - 64 < k.toNat := by omega
    have place : 64 - k.toNat + (i + k.toNat - 64) = i := by omega
    simpa [BitVec.getLsbD_rotateLeft, Nat.mod_eq_of_lt high, wraps, place] using bit

theorem mul_injective {p : UInt64} (inverse : UInt64) (unit : p * inverse = 1) :
    Injective (· * p) := by
  intro x y same
  have undone : x * p * inverse = y * p * inverse := congrArg (· * inverse) same
  simpa [UInt64.mul_assoc, unit] using undone

include low high in
theorem xor_shift_injective : Injective fun x : UInt64 => x ^^^ (x >>> k) := by
  intro x y same
  have mixed : ∀ i, (x.toBitVec.getLsbD i ^^ x.toBitVec.getLsbD (k.toNat + i)) =
      (y.toBitVec.getLsbD i ^^ y.toBitVec.getLsbD (k.toNat + i)) := by
    intro i
    have bit := congrArg (fun word : UInt64 => word.toBitVec.getLsbD i) same
    simpa [Nat.mod_eq_of_lt high] using bit
  -- The high bits are not changed, and each bit is known from those above it.
  have bits : ∀ rest i, 64 ≤ i + rest → x.toBitVec.getLsbD i = y.toBitVec.getLsbD i := by
    intro rest
    induction rest with
    | zero =>
        intro i beyond
        have out : 64 ≤ i := beyond
        rw [BitVec.getLsbD_of_ge _ _ out, BitVec.getLsbD_of_ge _ _ out]
    | succ rest ih =>
        intro i near
        have above := ih (k.toNat + i) (by omega)
        have bit := mixed i
        rw [above] at bit
        exact Bool.xor_left_inj.mp bit
  apply UInt64.eq_of_toBitVec_eq
  apply BitVec.eq_of_getLsbD_eq
  intro i _
  exact bits 64 i (by omega)

theorem add_injective (c : UInt64) : Injective (· + c) :=
  fun _ _ => (UInt64.add_left_inj c).mp

theorem xor_injective (c : UInt64) : Injective (· ^^^ c) :=
  fun _ _ => (UInt64.xor_left_inj c).mp

theorem mul_prime₁_injective : Injective (· * prime₁) :=
  mul_injective 0x0887493432BADB37 (by decide)

theorem mul_prime₂_injective : Injective (· * prime₂) :=
  mul_injective 0x0BA79078168D4BAF (by decide)

theorem mul_prime₃_injective : Injective (· * prime₃) :=
  mul_injective 0xE9E9F4C41D6DF849 (by decide)

end Words

theorem stir_injective : Injective stir :=
  (xor_shift_injective (k := 32) (by decide) (by decide)).comp <|
    mul_prime₃_injective.comp <| (xor_shift_injective (k := 29) (by decide) (by decide)).comp <|
      mul_prime₂_injective.comp <| xor_shift_injective (k := 33) (by decide) (by decide)

theorem tailBytes_injective (bytes : List UInt8) : Injective (tailBytes · bytes) := by
  induction bytes with
  | nil => exact injective_id
  | cons b bytes ih =>
      have step : Injective fun acc => rotate (acc ^^^ (b.toUInt64 * prime₅)) 11 * prime₁ :=
        mul_prime₁_injective.comp <| (rotate_injective (by decide) (by decide)).comp <|
          xor_injective _
      exact ih.comp step

theorem tailHalf_injective (bytes : List UInt8) : Injective (tailHalf · bytes) := by
  unfold tailHalf
  split
  · have step : Injective fun acc =>
        rotate (acc ^^^ (littleEndian (bytes.take 4) * prime₁)) 23 * prime₂ + prime₃ :=
      (add_injective _).comp <| mul_prime₂_injective.comp <|
        (rotate_injective (by decide) (by decide)).comp <| xor_injective _
    exact (tailBytes_injective _).comp step
  · exact tailBytes_injective bytes

theorem tail_injective (bytes : List UInt8) : Injective (tail · bytes) := by
  intro x y same
  replace same : tail x bytes = tail y bytes := same
  fun_induction tail x bytes generalizing y with
  | case1 x bytes word ih =>
      rw [tail.eq_def y, if_pos word] at same
      have step : Injective fun acc =>
          rotate (acc ^^^ round 0 (littleEndian (bytes.take 8))) 27 * prime₁ + prime₄ :=
        (add_injective _).comp <| mul_prime₁_injective.comp <|
          (rotate_injective (by decide) (by decide)).comp <| xor_injective _
      exact step (ih same)
  | case2 x bytes noWord =>
      rw [tail.eq_def y, if_neg noWord] at same
      exact tailHalf_injective bytes same

theorem xxh64_injective {bytes : List UInt8} (short : bytes.length < 32) :
    Injective (xxh64 · bytes) := by
  have unfolded : (xxh64 · bytes) = fun seed =>
      stir (tail (seed + prime₅ + UInt64.ofNat bytes.length) bytes) := by
    funext seed
    exact if_neg (by omega)
  rw [unfolded]
  exact stir_injective.comp <| (tail_injective bytes).comp <|
    (add_injective _).comp (add_injective _)

theorem digits_injective {width n m : Nat} (small : n < 16 ^ width) (small' : m < 16 ^ width)
    (same : Text.Hex.digits width n = Text.Hex.digits width m) : n = m := by
  have single : ∀ d < 16, ∀ d' < 16, Text.Hex.digit d = Text.Hex.digit d' → d = d' := by decide
  induction width generalizing n m with
  | zero => omega
  | succ width ih =>
      obtain ⟨front, last⟩ := List.append_inj' same rfl
      have high : n / 16 = m / 16 := by
        refine ih ?_ ?_ front
        · rw [Nat.pow_succ] at small
          omega
        · rw [Nat.pow_succ] at small'
          omega
      have lowest : n % 16 = m % 16 :=
        single _ (Nat.mod_lt n (by omega)) _ (Nat.mod_lt m (by omega)) (List.cons.inj last).1
      omega

theorem hexWord_injective : Injective hexWord := by
  intro v w same
  have digits := String.ofList_injective same
  exact UInt64.toNat_inj.mp (digits_injective v.toNat_lt w.toNat_lt digits)

/-- A text that does not fill a stripe gets another key at each attempt. -/
theorem key_injective {text : String} (short : (bytesOf text).length < 32) :
    Injective (key text) := by
  have shifted : Injective (keySeed + ·) := fun _ _ => (UInt64.add_right_inj keySeed).mp
  exact hexWord_injective.comp ((xxh64_injective short).comp shifted)

/-- The text has `n` different keys. -/
def HasKeys (text : String) (n : Nat) : Prop :=
  ∃ attempts : List UInt64, attempts.length = n ∧ (attempts.map (key text)).Nodup

theorem HasKeys.mono {text : String} {m n : Nat} (h : HasKeys text n) (fewer : m ≤ n) :
    HasKeys text m := by
  obtain ⟨attempts, rfl, nodup⟩ := h
  refine ⟨attempts.take m, by rw [List.length_take, Nat.min_eq_left fewer], ?_⟩
  exact nodup.sublist ((List.take_sublist m attempts).map _)

theorem nodup_keys_of_short {text : String} (short : (bytesOf text).length < 32) {n : Nat}
    (small : n ≤ UInt64.size) : (((List.range n).map UInt64.ofNat).map (key text)).Nodup := by
  have toNat_ofNat : ∀ i ∈ List.range n, (UInt64.ofNat i).toNat = i := by
    intro i inside
    exact UInt64.toNat_ofNat_of_lt' (Nat.lt_of_lt_of_le (List.mem_range.mp inside) small)
  apply List.Nodup.map (key_injective short)
  apply List.Nodup.map_on _ List.nodup_range
  intro i inside j inside' same
  rw [← toNat_ofNat i inside, same, toNat_ofNat j inside']

theorem hasKeys_of_short {text : String} (short : (bytesOf text).length < 32) {n : Nat}
    (small : n ≤ UInt64.size) : HasKeys text n :=
  ⟨(List.range n).map UInt64.ofNat, by simp, nodup_keys_of_short short small⟩

section Spelling

theorem value_append (cs : List Char) (c : Char) :
    Text.Hex.value (cs ++ [c]) = Text.Hex.value cs * 16 + (Text.Hex.digit? c).getD 0 := by
  rw [Text.Hex.value, List.foldl_append]
  rfl

theorem length_digits (width n : Nat) : (Text.Hex.digits width n).length = width := by
  induction width generalizing n with
  | zero => rfl
  | succ width ih => rw [Text.Hex.digits, List.length_append, ih, List.length_singleton]

theorem value_digits (width n : Nat) :
    Text.Hex.value (Text.Hex.digits width n) = n % 16 ^ width := by
  have single : ∀ d < 16, (Text.Hex.digit? (Text.Hex.digit d)).getD 0 = d := by decide
  induction width generalizing n with
  | zero => simp [Text.Hex.digits, Text.Hex.value, Nat.mod_one]
  | succ width ih =>
      rw [Text.Hex.digits, value_append, ih, single _ (Nat.mod_lt n (by decide)), Nat.pow_succ',
        Nat.mod_mul]
      omega

theorem mem_digits {width n : Nat} {c : Char} (member : c ∈ Text.Hex.digits width n) :
    c ∈ "0123456789abcdef".toList := by
  have single : ∀ d < 16, Text.Hex.digit d ∈ "0123456789abcdef".toList := by decide
  induction width generalizing n with
  | zero => cases member
  | succ width ih =>
      rcases List.mem_append.mp member with front | last
      · exact ih front
      · rw [List.mem_singleton.mp last]
        exact single _ (Nat.mod_lt n (by decide))

/-- The text is the word in sixteen lower-case hexadecimal digits. -/
structure Spells (text : String) (w : UInt64) : Prop where
  length : text.toList.length = 16
  digits : ∀ c ∈ text.toList, c ∈ "0123456789abcdef".toList
  value : Text.Hex.value text.toList = w.toNat

theorem spells_hexWord (w : UInt64) : Spells (hexWord w) w := by
  have spelling : (hexWord w).toList = Text.Hex.digits 16 w.toNat := String.toList_ofList
  constructor
  · rw [spelling, length_digits]
  · rw [spelling]
    exact fun c => mem_digits
  · rw [spelling, value_digits]
    exact Nat.mod_eq_of_lt w.toNat_lt

end Spelling

end AdFilter.Digest
