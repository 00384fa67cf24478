import AdFilter.Text.Hex

/-! # A 64-bit digest of bytes

The XXH64 digest. Bytes are taken in stripes of four words, then in words, half words and single
bytes, and the result is stirred until every bit depends on every bit.
-/

namespace AdFilter.Digest

def rotate (x : UInt64) (k : UInt64) : UInt64 :=
  (x <<< k) ||| (x >>> (64 - k))

def prime₁ : UInt64 := 0x9E3779B185EBCA87
def prime₂ : UInt64 := 0xC2B2AE3D27D4EB4F
def prime₃ : UInt64 := 0x165667B19E3779F9
def prime₄ : UInt64 := 0x85EBCA77C2B2AE63
def prime₅ : UInt64 := 0x27D4EB2F165667C5

/-- The number of bytes given lowest first. -/
def littleEndian (bytes : List UInt8) : UInt64 :=
  bytes.foldr (fun b n => (n <<< 8) ||| b.toUInt64) 0

def round (lane input : UInt64) : UInt64 :=
  rotate (lane + input * prime₂) 31 * prime₁

/-- The four lanes that stripes are mixed into. -/
structure Lanes where
  a : UInt64
  b : UInt64
  c : UInt64
  d : UInt64
  deriving Repr, DecidableEq

namespace Lanes

def ofSeed (seed : UInt64) : Lanes :=
  ⟨seed + prime₁ + prime₂, seed + prime₂, seed, seed - prime₁⟩

def stripe (l : Lanes) (bytes : List UInt8) : Lanes :=
  let word (i : Nat) : UInt64 := littleEndian ((bytes.drop (8 * i)).take 8)
  ⟨round l.a (word 0), round l.b (word 1), round l.c (word 2), round l.d (word 3)⟩

def join (acc lane : UInt64) : UInt64 :=
  (acc ^^^ round 0 lane) * prime₁ + prime₄

/-- The digest of the stripes. -/
def converge (l : Lanes) : UInt64 :=
  let acc := rotate l.a 1 + rotate l.b 7 + rotate l.c 12 + rotate l.d 18
  join (join (join (join acc l.a) l.b) l.c) l.d

end Lanes

/-- Mixes in every whole stripe; gives the lanes and the bytes that are left. -/
def stripes (l : Lanes) (bytes : List UInt8) : Lanes × List UInt8 :=
  if 32 ≤ bytes.length then stripes (l.stripe (bytes.take 32)) (bytes.drop 32) else (l, bytes)
termination_by bytes.length
decreasing_by simp only [List.length_drop]; omega

def tailBytes (acc : UInt64) (bytes : List UInt8) : UInt64 :=
  bytes.foldl (fun acc b => rotate (acc ^^^ (b.toUInt64 * prime₅)) 11 * prime₁) acc

/-- Mixes in half a word, if there is one, and single bytes. -/
def tailHalf (acc : UInt64) (bytes : List UInt8) : UInt64 :=
  if 4 ≤ bytes.length then
    tailBytes (rotate (acc ^^^ (littleEndian (bytes.take 4) * prime₁)) 23 * prime₂ + prime₃)
      (bytes.drop 4)
  else tailBytes acc bytes

/-- Mixes in the bytes that fill no stripe. -/
def tail (acc : UInt64) (bytes : List UInt8) : UInt64 :=
  if 8 ≤ bytes.length then
    tail (rotate (acc ^^^ round 0 (littleEndian (bytes.take 8))) 27 * prime₁ + prime₄)
      (bytes.drop 8)
  else tailHalf acc bytes
termination_by bytes.length
decreasing_by simp only [List.length_drop]; omega

/-- Lets every bit of the digest depend on every bit. -/
def stir (h : UInt64) : UInt64 :=
  let h := (h ^^^ (h >>> 33)) * prime₂
  let h := (h ^^^ (h >>> 29)) * prime₃
  h ^^^ (h >>> 32)

/-- The digest of the bytes under a seed. -/
def xxh64 (seed : UInt64) (bytes : List UInt8) : UInt64 :=
  let size := UInt64.ofNat bytes.length
  if 32 ≤ bytes.length then
    let (lanes, rest) := stripes (.ofSeed seed) bytes
    stir (tail (lanes.converge + size) rest)
  else stir (tail (seed + prime₅ + size) bytes)

def bytesOf (s : String) : List UInt8 :=
  s.toUTF8.toList

/-- The seed that keys are made with at the first attempt. -/
def keySeed : UInt64 := 0x9E3779B97F4A7C15

/-- A word as sixteen hexadecimal digits. -/
def hexWord (w : UInt64) : String :=
  String.ofList (Text.Hex.digits 16 w.toNat)

/-- The key of a text. Each attempt uses another seed, so that a key that is taken can be
avoided. -/
def key (text : String) (attempt : UInt64) : String :=
  hexWord (xxh64 (keySeed + attempt) (bytesOf text))

end AdFilter.Digest
