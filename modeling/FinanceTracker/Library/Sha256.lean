import Mathlib.Algebra.Group.Nat.Defs
import Mathlib.Data.List.Basic
import Mathlib.Data.Nat.Notation

/-!
# SHA-256

`hashlib.sha256` on bytes and the text of its digest, as FIPS 180-4 defines it. A word
has 32 bits and a block sixteen words.
-/

namespace FinanceTracker.Library.Sha256

structure Registers where
  a : UInt32
  b : UInt32
  c : UInt32
  d : UInt32
  e : UInt32
  f : UInt32
  g : UInt32
  h : UInt32

def initialRegisters : Registers where
  a := 0x6a09e667
  b := 0xbb67ae85
  c := 0x3c6ef372
  d := 0xa54ff53a
  e := 0x510e527f
  f := 0x9b05688c
  g := 0x1f83d9ab
  h := 0x5be0cd19

def roundConstants : List UInt32 :=
  [0x428a2f98, 0x71374491, 0xb5c0fbcf, 0xe9b5dba5, 0x3956c25b, 0x59f111f1, 0x923f82a4, 0xab1c5ed5,
    0xd807aa98, 0x12835b01, 0x243185be, 0x550c7dc3, 0x72be5d74, 0x80deb1fe, 0x9bdc06a7, 0xc19bf174,
    0xe49b69c1, 0xefbe4786, 0x0fc19dc6, 0x240ca1cc, 0x2de92c6f, 0x4a7484aa, 0x5cb0a9dc, 0x76f988da,
    0x983e5152, 0xa831c66d, 0xb00327c8, 0xbf597fc7, 0xc6e00bf3, 0xd5a79147, 0x06ca6351, 0x14292967,
    0x27b70a85, 0x2e1b2138, 0x4d2c6dfc, 0x53380d13, 0x650a7354, 0x766a0abb, 0x81c2c92e, 0x92722c85,
    0xa2bfe8a1, 0xa81a664b, 0xc24b8b70, 0xc76c51a3, 0xd192e819, 0xd6990624, 0xf40e3585, 0x106aa070,
    0x19a4c116, 0x1e376c08, 0x2748774c, 0x34b0bcb5, 0x391c0cb3, 0x4ed8aa4a, 0x5b9cca4f, 0x682e6ff3,
    0x748f82ee, 0x78a5636f, 0x84c87814, 0x8cc70208, 0x90befffa, 0xa4506ceb, 0xbef9a3f7, 0xc67178f2]

def rotateRight (word count : UInt32) : UInt32 := (word >>> count) ||| (word <<< (32 - count))

/-- The words of the schedule, the newest first, each from those 2, 7, 15 and 16 before it. -/
def extend : ℕ → List UInt32 → List UInt32
  | 0, words => words
  | count + 1, words =>
    let early := words.getD 14 0
    let late := words.getD 1 0
    let small := rotateRight early 7 ^^^ rotateRight early 18 ^^^ (early >>> 3)
    let large := rotateRight late 17 ^^^ rotateRight late 19 ^^^ (late >>> 10)
    extend count ((words.getD 15 0 + small + words.getD 6 0 + large) :: words)

def schedule (block : List UInt32) : List UInt32 := (extend 48 block.reverse).reverse

def round (registers : Registers) (constant word : UInt32) : Registers :=
  let ⟨a, b, c, d, e, f, g, h⟩ := registers
  let choice := (e &&& f) ^^^ (~~~e &&& g)
  let majority := (a &&& b) ^^^ (a &&& c) ^^^ (b &&& c)
  let first := h + (rotateRight e 6 ^^^ rotateRight e 11 ^^^ rotateRight e 25) + choice + constant + word
  let second := (rotateRight a 2 ^^^ rotateRight a 13 ^^^ rotateRight a 22) + majority
  ⟨first + second, a, b, c, d + first, e, f, g⟩

def compress (registers : Registers) (block : List UInt32) : Registers :=
  let mixed := (roundConstants.zip (schedule block)).foldl
    (fun registers step => round registers step.1 step.2) registers
  ⟨registers.a + mixed.a, registers.b + mixed.b, registers.c + mixed.c, registers.d + mixed.d,
    registers.e + mixed.e, registers.f + mixed.f, registers.g + mixed.g, registers.h + mixed.h⟩

/-- A number as bytes, the most significant first. -/
def bytesOf (count value : ℕ) : List UInt8 :=
  ((List.range count).map fun place => UInt8.ofNat (value / 256 ^ place)).reverse

/-- The message, a one bit, zeros to a whole number of blocks and the length in bits. -/
def padded (message : List UInt8) : List UInt8 :=
  message ++ 0x80 :: (List.replicate ((119 - message.length % 64) % 64) 0 ++
    bytesOf 8 (8 * message.length))

def wordsOf : List UInt8 → List UInt32
  | first :: second :: third :: fourth :: rest =>
    ((first.toUInt32 <<< 24) ||| (second.toUInt32 <<< 16) ||| (third.toUInt32 <<< 8) |||
      fourth.toUInt32) :: wordsOf rest
  | _ => []

def absorb : ℕ → Registers → List UInt32 → Registers
  | 0, registers, _ => registers
  | blocks + 1, registers, words => absorb blocks (compress registers (words.take 16)) (words.drop 16)

def sha256 (message : List UInt8) : List UInt8 :=
  let words := wordsOf (padded message)
  let result := absorb (words.length / 16) initialRegisters words
  [result.a, result.b, result.c, result.d, result.e, result.f, result.g, result.h].flatMap
    fun word => bytesOf 4 word.toNat

def hexByte (byte : UInt8) : List Char :=
  [Nat.digitChar (byte.toNat / 16), Nat.digitChar (byte.toNat % 16)]

/-- `hashlib.sha256(message).hexdigest()`. -/
def hexdigest (message : ByteArray) : String :=
  String.ofList ((sha256 message.data.toList).flatMap hexByte)

example : hexdigest "abc".toUTF8 =
    "ba7816bf8f01cfea414140de5dae2223b00361a396177a9cb410ff61f20015ad" := by decide +kernel

end FinanceTracker.Library.Sha256
