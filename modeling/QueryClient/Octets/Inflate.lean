import QueryClient.Text.Basic

/-!
# Inflating

Deflated octets are a row of **blocks**. A block holds octets as they are, or
**symbols** in a prefix code: an octet, the end of the block, or a length, with
which goes a distance back to octets that are there already. The code is a fixed one,
or it is described in front of the symbols, by the lengths of its words, in a code
of its own.

Everything is read bit by bit. Where the bits end early, what there is so far is all
the same there (`Inflating` leaves it behind); nothing else about the bits is forgiven.
-/

namespace QueryClient.Inflate

/-- Why inflating **stops** early. -/
inductive Stop where
  /-- The bits have come to their end. -/
  | short
  /-- The bits mean nothing. -/
  | fault (what : String)
deriving DecidableEq, Repr

/-- The **state** of inflating. -/
structure State where
  /-- The bits still to come. -/
  bits : List Bool
  /-- The octets so far, the latest first. -/
  out : List UInt8 := []
deriving DecidableEq, Repr

/-- **Inflating** takes bits and adds octets. -/
abbrev Inflating := EStateM Stop State

/-- The bits of octets, of each the lowest first. -/
def bitsOf (octets : List UInt8) : List Bool :=
  octets.flatMap fun o => (List.range 8).map o.toNat.testBit

/-! ## Bits and numbers -/

/-- The next bit. -/
def bit : Inflating Bool := do
  let s ← get
  match s.bits with
  | [] => throw .short
  | b :: rest =>
    set { s with bits := rest }
    return b

/-- The number in so many bits, the lowest first. -/
def number : Nat → Inflating Nat
  | 0 => return 0
  | n + 1 => do
    let low ← bit
    let high ← number n
    return low.toNat + 2 * high

/-- Passes over what is left of an octet. -/
def align : Inflating Unit :=
  modify fun s => { s with bits := s.bits.drop (s.bits.length % 8) }

/-- Adds an octet. -/
def emit (o : UInt8) : Inflating Unit :=
  modify fun s => { s with out := o :: s.out }

/-- Octets as they are. -/
def plainOctets : Nat → Inflating Unit
  | 0 => return
  | n + 1 => do
    emit (UInt8.ofNat (← number 8))
    plainOctets n

/-- Octets that are there already, from so far back. -/
def copied (distance : Nat) : Nat → Inflating Unit
  | 0 => return
  | n + 1 => do
    emit ((← get).out.getD (distance - 1) 0)
    copied distance n

/-! ## Prefix codes -/

/-- A **prefix code**. Its words are numbered by their lengths, and among words of
one length by their symbols. -/
structure Code where
  /-- How many words there are of each length from one on. -/
  counts : List Nat
  /-- The symbols in the order of their words. -/
  symbols : List Nat

/-- The code in which the words of symbols have the lengths given; a symbol of
length zero has no word. -/
def Code.ofLengths (lengths : List Nat) : Code where
  counts := (List.range 15).map fun k => lengths.count (k + 1)
  symbols := (List.range 15).flatMap fun k =>
    (lengths.zipIdx.filter (·.1 == k + 1)).map (·.2)

/-- How much room the words leave, in words of the greatest length; it is below zero
if they are too many. -/
def Code.room (c : Code) : Int :=
  c.counts.foldl (fun (room : Int) (n : Nat) => 2 * room - n) 1

/-- Whether the words leave no room. -/
def Code.isComplete (c : Code) : Bool :=
  c.room == 0

/-- Whether the code can be used all the same: there is no word, or one of one
bit. -/
def Code.isUsable (c : Code) : Bool :=
  c.isComplete || c.symbols.isEmpty || (c.symbols.length == 1 && c.counts.head? == some 1)

/-- The symbol of the next word, given how many words there are of each length to
come, their symbols, the first word of that length, and the bits so far. -/
def wordOf (what : String) (first code : Nat) (symbols : List Nat) :
    List Nat → Inflating Nat
  | [] => throw (.fault what)
  | n :: counts => do
    let code := 2 * code + (← bit).toNat
    if code < first + n then return symbols.getD (code - first) 0
    wordOf what (2 * (first + n)) code (symbols.drop n) counts

/-- The next symbol. -/
def Code.next (c : Code) (what : String) : Inflating Nat :=
  wordOf what 0 0 c.symbols c.counts

/-! ## Blocks -/

/-- The length that a symbol above the end of the block stands for. -/
def lengthOf (symbol : Nat) : Inflating Nat :=
  if symbol < 265 then return symbol - 254
  else if symbol = 285 then return 258
  else do
    let k := symbol - 265
    let more ← number (k / 4 + 1)
    return (4 + k % 4) * Nat.pow 2 (k / 4 + 1) + 3 + more

/-- The distance that a symbol stands for. -/
def distanceOf (symbol : Nat) : Inflating Nat :=
  if symbol < 4 then return symbol + 1
  else do
    let more ← number (symbol / 2 - 1)
    return (2 + symbol % 2) * Nat.pow 2 (symbol / 2 - 1) + 1 + more

/-- A length and a distance. -/
def repetition (distances : Code) (symbol : Nat) : Inflating Unit := do
  if 285 < symbol then throw (.fault "invalid literal/length code")
  let length ← lengthOf symbol
  let back ← distances.next "invalid distance code"
  if 29 < back then throw (.fault "invalid distance code")
  let distance ← distanceOf back
  if (← get).out.length < distance then
    throw (.fault "invalid distance too far back")
  copied distance length

/-- The symbols of a block, at most as many as given. Each takes a bit, so there are
no more symbols than bits. -/
def symbolsOf (literals distances : Code) : Nat → Inflating Unit
  | 0 => throw .short
  | most + 1 => do
    let symbol ← literals.next "invalid literal/length code"
    if symbol < 256 then
      emit (UInt8.ofNat symbol)
      symbolsOf literals distances most
    else if symbol = 256 then return
    else
      repetition distances symbol
      symbolsOf literals distances most

/-- A block of symbols. -/
def coded (literals distances : Code) : Inflating Unit := do
  symbolsOf literals distances (← get).bits.length

/-- A block of octets as they are. -/
def stored : Inflating Unit := do
  align
  let length ← number 16
  let check ← number 16
  if length + check ≠ 0xFFFF then throw (.fault "invalid stored block lengths")
  plainOctets length

/-- A block in the fixed code. -/
def fixed : Inflating Unit :=
  coded (.ofLengths (List.replicate 144 8 ++ List.replicate 112 9
    ++ List.replicate 24 7 ++ List.replicate 8 8))
    (.ofLengths (List.replicate 32 5))

/-- So many numbers of three bits. -/
def triples : Nat → Inflating (List Nat)
  | 0 => return []
  | n + 1 => do return (← number 3) :: (← triples n)

/-- The lengths of words, the latest first, until there are so many. Each step adds
one at least. -/
def wordLengths (c : Code) (total : Nat) : Nat → List Nat → Inflating (List Nat)
  | 0, lengths => return lengths
  | most + 1, lengths => do
    if total ≤ lengths.length then return lengths
    let symbol ← c.next "invalid code lengths set"
    if symbol < 16 then wordLengths c total most (symbol :: lengths)
    else
      let (length, least, width) ← match symbol, lengths with
        | 16, [] => throw (.fault "invalid bit length repeat")
        | 16, length :: _ => pure (length, 3, 2)
        | 17, _ => pure (0, 3, 3)
        | _, _ => pure (0, 11, 7)
      let times := least + (← number width)
      if total < lengths.length + times then
        throw (.fault "invalid bit length repeat")
      wordLengths c total most (List.replicate times length ++ lengths)

/-- The order in which the lengths of the words for lengths are given. -/
def lengthOrder : List Nat :=
  [16, 17, 18, 0, 8, 7, 9, 6, 10, 5, 11, 4, 12, 3, 13, 2, 14, 1, 15]

/-- A block in a code that is described in front. -/
def described : Inflating Unit := do
  let literals := (← number 5) + 257
  let distances := (← number 5) + 1
  let given := (← number 4) + 4
  if 286 < literals ∨ 30 < distances then
    throw (.fault "too many length or distance symbols")
  let pairs := lengthOrder.zip (← triples given)
  let c := Code.ofLengths ((List.range 19).map fun k => (pairs.lookup k).getD 0)
  if c.symbols.isEmpty then
    throw (.fault "invalid code -- missing end-of-block")
  if !c.isComplete then throw (.fault "invalid code lengths set")
  let total := literals + distances
  let lengths := (← wordLengths c total total []).reverse
  if lengths.getD 256 0 = 0 then
    throw (.fault "invalid code -- missing end-of-block")
  let first := Code.ofLengths (lengths.take literals)
  if !first.isUsable then throw (.fault "invalid literal/lengths set")
  let second := Code.ofLengths (lengths.drop literals)
  if !second.isUsable then throw (.fault "invalid distances set")
  coded first second

/-- The blocks, at most as many as given. -/
def blocks : Nat → Inflating Unit
  | 0 => throw .short
  | most + 1 => do
    let last ← bit
    match ← number 2 with
    | 0 => stored
    | 1 => fixed
    | 2 => described
    | _ => throw (.fault "invalid block type")
    if last then return else blocks most

/-- **Inflates** all blocks, the last of which says that it is. -/
def inflate : Inflating Unit := do
  blocks (← get).bits.length

end QueryClient.Inflate
