import QueryClient.Octets.Inflate
import QueryClient.Text.Lower
import QueryClient.Text.Blank

/-!
# Contents that come encoded

Deflated octets travel in a wrapping, with a sum in which they are checked: `gzip`, or
the one called `deflate`, which is often left out. An encoding may be the name of one
of the two, or a list, of which the last was put on last.

What is wrong with the octets is reported in the words of the library that is in
use nearly everywhere. Octets that follow on a whole `gzip` are another one, and if
they are not they are left alone.
-/

namespace QueryClient

/-! ## Sums -/

namespace Checksum

/-- One step of the remainder: a bit is shifted out. -/
def shifted (sum : UInt32) : UInt32 :=
  if sum &&& 1 = 1 then (sum >>> 1) ^^^ 0xEDB88320 else sum >>> 1

/-- The sum with an octet more. -/
def crcStep (sum : UInt32) (o : UInt8) : UInt32 :=
  Nat.repeat shifted 8 (sum ^^^ o.toUInt32)

/-- The remainder of the octets. -/
def crc32 (octets : List UInt8) : UInt32 :=
  octets.foldl crcStep 0xFFFFFFFF ^^^ 0xFFFFFFFF

/-- The sum of the octets, and the sum of all sums on the way. -/
def adler32 (octets : List UInt8) : Nat :=
  let (a, b) := octets.foldl (fun (a, b) o =>
    let a := (a + o.toNat) % 65521
    (a, (b + a) % 65521)) (1, 0)
  b * 65536 + a

end Checksum

namespace Inflate

/-- Passes over so many octets. -/
def skip : Nat → Inflating Unit
  | 0 => return
  | n + 1 => do
    let _ ← number 8
    skip n

/-- Passes over octets up to a zero; there are at most so many. -/
def skipName : Nat → Inflating Unit
  | 0 => throw .short
  | most + 1 => do
    if (← number 8) = 0 then return else skipName most

/-- What stands in front in `gzip`, given all octets. -/
def gzipHeader (octets : List UInt8) : Inflating Unit := do
  if (← number 16) ≠ 0x8B1F then throw (.fault "incorrect header check")
  let method ← number 8
  let flags ← number 8
  if method ≠ 8 then throw (.fault "unknown compression method")
  if 0x20 ≤ flags then throw (.fault "unknown header flags set")
  skip 6
  if flags.testBit 2 then skip (← number 16)
  if flags.testBit 3 then skipName octets.length
  if flags.testBit 4 then skipName octets.length
  if flags.testBit 1 then
    let header := octets.take (octets.length - (← get).bits.length / 8)
    if (← number 16) ≠ (Checksum.crc32 header).toNat % 65536 then
      throw (.fault "header crc mismatch")

/-- One `gzip`. -/
def gzip (octets : List UInt8) : Inflating Unit := do
  gzipHeader octets
  inflate
  align
  let out := (← get).out
  if (← number 32) ≠ (Checksum.crc32 out.reverse).toNat then
    throw (.fault "incorrect data check")
  if (← number 32) ≠ out.length % Nat.pow 2 32 then
    throw (.fault "incorrect length check")

/-- What is deflated in its wrapping. -/
def zlib : Inflating Unit := do
  let first ← number 8
  let second ← number 8
  if (first * 256 + second) % 31 ≠ 0 then throw (.fault "incorrect header check")
  if first % 16 ≠ 8 then throw (.fault "unknown compression method")
  if 7 < first / 16 then throw (.fault "invalid window size")
  if second.testBit 5 then throw (.fault "need dictionary")
  inflate
  align
  let out := (← get).out.reverse
  let sum := Checksum.adler32 out
  for k in [24, 16, 8, 0] do
    if (← number 8) ≠ sum / Nat.pow 2 k % 256 then
      throw (.fault "incorrect data check")

end Inflate

namespace Encoding

open Inflate

/-- What comes of inflating octets: the octets, with those that are left, or what is
wrong. -/
def run (x : Inflating Unit) (octets : List UInt8) :
    Except String (List UInt8 × List UInt8) :=
  match x.run { bits := bitsOf octets } with
  | .ok _ s =>
    .ok (s.out.reverse, octets.drop (octets.length - s.bits.length / 8))
  | .error .short s => .ok (s.out.reverse, [])
  | .error (.fault what) _ => .error what

/-- The content of `gzip`, and of those that follow; there are at most so many. -/
def gunzipAll : Nat → List UInt8 → Except String (List UInt8)
  | 0, _ => .ok []
  | most + 1, octets => do
    let (content, rest) ← run (gzip octets) octets
    if rest.isEmpty then return content
    return content ++ ((gunzipAll most rest).toOption.getD [])

/-- The content of `gzip`. -/
def gunzip (octets : List UInt8) : Except String (List UInt8) :=
  if octets.isEmpty then .ok [] else gunzipAll octets.length octets

/-- The content of what is deflated, in its wrapping or without. -/
def undeflate (octets : List UInt8) : Except String (List UInt8) :=
  match run zlib octets with
  | .ok (content, _) => .ok content
  | .error _ => (run inflate octets).map (·.1)

/-- The content in an encoding of one name. -/
def decodeOne (name : Text) : List UInt8 → Except String (List UInt8) :=
  if name = "gzip".toList ∨ name = "x-gzip".toList then gunzip else undeflate

/-- Whether an encoding has this name. -/
def isKnown (name : Text) : Bool :=
  ["gzip".toList, "x-gzip".toList, "deflate".toList].contains name

/-- The **content** that octets stand for in an encoding, or what is wrong with them.
In an encoding that is not known, octets stand for themselves. -/
def decode (encoding : Text) (octets : List UInt8) : Except Text (List UInt8) :=
  let small := Text.lower encoding
  let names := (Text.fields ',' small).map Text.trimBlanks
  let names :=
    if isKnown small || (1 < names.length && names.any isKnown) then names else []
  (names.reverse.foldlM (fun octets name => decodeOne name octets) octets).mapError
    fun what =>
      "error(\x27Error -3 while decompressing data: ".toList ++ what.toList
        ++ "\x27)".toList

end Encoding
end QueryClient
