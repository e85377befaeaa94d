import QueryClient.Text.Basic

/-!
# UTF-8

A character is written in one to four octets, the first of which tells how
many follow. `encode` writes; `scan` reads. Reading never stops: it divides
any octets at all into **pieces**, each a character or the longest start of
one that the next octet breaks off. Two readings rest on it. `decode?` takes
text only, and otherwise reports the first broken piece with its place.
`decodeLossy` puts the replacement character in the place of each broken
piece.
-/

namespace QueryClient.Utf8

/-- The octets of one character. -/
def encodeChar (c : Char) : List UInt8 :=
  let n := c.toNat
  if n < 0x80 then [UInt8.ofNat n]
  else if n < 0x800 then
    [UInt8.ofNat (0xC0 + n / 0x40), UInt8.ofNat (0x80 + n % 0x40)]
  else if n < 0x10000 then
    [UInt8.ofNat (0xE0 + n / 0x1000), UInt8.ofNat (0x80 + n / 0x40 % 0x40),
      UInt8.ofNat (0x80 + n % 0x40)]
  else
    [UInt8.ofNat (0xF0 + n / 0x40000), UInt8.ofNat (0x80 + n / 0x1000 % 0x40),
      UInt8.ofNat (0x80 + n / 0x40 % 0x40), UInt8.ofNat (0x80 + n % 0x40)]

/-- The octets of a text. -/
def encode (t : Text) : List UInt8 :=
  t.flatMap encodeChar

/-- Why octets are no character. -/
inductive Defect where
  /-- No character begins with this octet. -/
  | start
  /-- The octet that follows does not go on with the character begun. -/
  | continuation
  /-- The octets end inside a character. -/
  | ending
deriving DecidableEq, Repr

/-- A **piece** of scanned octets. -/
inductive Piece where
  /-- A whole character. -/
  | char (c : Char)
  /-- The start of a character that is broken off, with its octets. -/
  | broken (why : Defect) (octets : List UInt8)
deriving DecidableEq, Repr

/-- A character **begun**: how many octets are still missing, between which
bounds the next one has to lie, the bits read so far, and the octets read so
far, the latest first. -/
structure Begun where
  /-- How many octets are still missing after the next one. -/
  further : Nat
  /-- The least next octet. -/
  low : Nat
  /-- The greatest next octet. -/
  high : Nat
  /-- The bits read so far. -/
  bits : Nat
  /-- The octets read so far, the latest first. -/
  octets : List UInt8

/-- What a first octet says: a whole character, one begun, or nothing. -/
inductive Lead where
  /-- The octet is a character of its own. -/
  | whole (c : Char)
  /-- The octet begins a longer character. -/
  | begun (b : Begun)
  /-- No character begins with this octet. -/
  | none

/-- The **lead** of an octet. The bounds on the second octet keep out
needless length, the surrogates, and code points beyond the last. -/
def lead (o : UInt8) : Lead :=
  let n := o.toNat
  if n < 0x80 then .whole (Char.ofNat n)
  else if n < 0xC2 then .none
  else if n < 0xE0 then .begun ⟨0, 0x80, 0xBF, n - 0xC0, [o]⟩
  else if n = 0xE0 then .begun ⟨1, 0xA0, 0xBF, 0, [o]⟩
  else if n = 0xED then .begun ⟨1, 0x80, 0x9F, 0xD, [o]⟩
  else if n < 0xF0 then .begun ⟨1, 0x80, 0xBF, n - 0xE0, [o]⟩
  else if n = 0xF0 then .begun ⟨2, 0x90, 0xBF, 0, [o]⟩
  else if n < 0xF4 then .begun ⟨2, 0x80, 0xBF, n - 0xF0, [o]⟩
  else if n = 0xF4 then .begun ⟨2, 0x80, 0x8F, 4, [o]⟩
  else .none

/-- An octet where no character is begun: the pieces it completes and the
character it begins. -/
def start (o : UInt8) : List Piece × Option Begun :=
  match lead o with
  | .whole c => ([.char c], none)
  | .begun b => ([], some b)
  | .none => ([.broken .start [o]], none)

/-- An octet inside a character begun: it goes on with the character if it
lies within the bounds, and otherwise breaks it off and starts anew. -/
def proceed (b : Begun) (o : UInt8) : List Piece × Option Begun :=
  if b.low ≤ o.toNat ∧ o.toNat ≤ b.high then
    let bits := b.bits * 0x40 + (o.toNat - 0x80)
    match b.further with
    | 0 => ([.char (Char.ofNat bits)], none)
    | k + 1 => ([], some ⟨k, 0x80, 0xBF, bits, o :: b.octets⟩)
  else
    (.broken .continuation b.octets.reverse :: (start o).1, (start o).2)

/-- One octet more, with a character begun or not. -/
def step (begun : Option Begun) (o : UInt8) : List Piece × Option Begun :=
  begun.elim (start o) (proceed · o)

/-- Scanning, with a character begun or not. -/
def scanFrom : Option Begun → List UInt8 → List Piece
  | none, [] => []
  | some b, [] => [.broken .ending b.octets.reverse]
  | begun, o :: rest => (step begun o).1 ++ scanFrom (step begun o).2 rest

/-- The octets divided into **pieces**. -/
def scan (octets : List UInt8) : List Piece :=
  scanFrom none octets

/-- Where and why octets are not text. -/
structure Fault where
  /-- Why the piece is broken. -/
  why : Defect
  /-- How many octets stand before the piece. -/
  position : Nat
  /-- The octets of the piece. -/
  octets : List UInt8
deriving DecidableEq, Repr

/-- The text of the pieces, or the first fault, with `before` octets in
front. -/
def gather (before : Nat) : List Piece → Except Fault Text
  | [] => .ok []
  | .char c :: rest =>
    (gather (before + (encodeChar c).length) rest).map (c :: ·)
  | .broken why octets :: _ => .error ⟨why, before, octets⟩

/-- The **text** of the octets, or the first fault. -/
def decode (octets : List UInt8) : Except Fault Text :=
  gather 0 (scan octets)

/-- The character that stands for a piece. -/
def Piece.shown : Piece → Char
  | .char c => c
  | .broken _ _ => Char.ofNat 0xFFFD

/-- The text of the octets with the replacement character in the place of
each broken piece. -/
def decodeLossy (octets : List UInt8) : Text :=
  (scan octets).map Piece.shown

/-- What a defect is called. -/
def Defect.name : Defect → String
  | .start => "invalid start byte"
  | .continuation => "invalid continuation byte"
  | .ending => "unexpected end of data"

/-- The message of a fault: it names the octet if there is one, and the
first and last place if there are more. -/
def Fault.message (f : Fault) : Text :=
  let place := match f.octets with
    | [o] => "byte 0x".toList ++ Text.padded 16 2 o.toNat
        ++ " in position ".toList ++ Text.ofNat f.position
    | more => "bytes in position ".toList ++ Text.ofNat f.position ++ ['-']
        ++ Text.ofNat (f.position + more.length - 1)
  "\x27utf-8\x27 codec can\x27t decode ".toList ++ place ++ ": ".toList
    ++ f.why.name.toList

/-! ## Writing, then reading -/

theorem scanFrom_cons (b : Option Begun) (o : UInt8) (rest : List UInt8) :
    scanFrom b (o :: rest) = (step b o).1 ++ scanFrom (step b o).2 rest := by
  cases b <;> rfl

/-- An octet keeps its value. -/
theorem toNat_octet {n : Nat} (h : n < 256) : (UInt8.ofNat n).toNat = n := by
  rw [UInt8.toNat_ofNat']
  exact Nat.mod_eq_of_lt h

/-- An octet of continuation within the bounds goes on with the
character. -/
theorem proceed_octet {b : Begun} {n : Nat} (h : n < 0x40)
    (low : b.low ≤ 0x80 + n) (high : 0x80 + n ≤ b.high) :
    proceed b (UInt8.ofNat (0x80 + n)) = match b.further with
      | 0 => ([.char (Char.ofNat (b.bits * 0x40 + n))], none)
      | k + 1 => ([], some ⟨k, 0x80, 0xBF, b.bits * 0x40 + n,
          UInt8.ofNat (0x80 + n) :: b.octets⟩) := by
  have hn : (UInt8.ofNat (0x80 + n)).toNat = 0x80 + n := toNat_octet (by omega)
  rw [proceed, hn, if_pos ⟨low, high⟩, Nat.add_sub_cancel_left]

/-- The lead of a character of two octets. -/
theorem lead_two {n : Nat} (h : 0x80 ≤ n) (h' : n < 0x800) :
    lead (UInt8.ofNat (0xC0 + n / 0x40))
      = .begun ⟨0, 0x80, 0xBF, n / 0x40, [UInt8.ofNat (0xC0 + n / 0x40)]⟩ := by
  have hn : (UInt8.ofNat (0xC0 + n / 0x40)).toNat = 0xC0 + n / 0x40 :=
    toNat_octet (by omega)
  rw [lead, hn]
  rw [if_neg (by omega), if_neg (by omega), if_pos (by omega),
    Nat.add_sub_cancel_left]

/-- The lead of a character of three octets: the bounds on the second octet
hold for the characters there are. -/
theorem lead_three {n : Nat} (h : 0x800 ≤ n) (h' : n < 0x10000)
    (hs : n < 0xD800 ∨ 0xDFFF < n) :
    ∃ low high, lead (UInt8.ofNat (0xE0 + n / 0x1000))
        = .begun ⟨1, low, high, n / 0x1000, [UInt8.ofNat (0xE0 + n / 0x1000)]⟩
      ∧ low ≤ 0x80 + n / 0x40 % 0x40 ∧ 0x80 + n / 0x40 % 0x40 ≤ high := by
  have hn : (UInt8.ofNat (0xE0 + n / 0x1000)).toNat = 0xE0 + n / 0x1000 :=
    toNat_octet (by omega)
  rw [lead, hn]
  rw [if_neg (by omega), if_neg (by omega), if_neg (by omega)]
  split
  · rename_i h0
    rw [show n / 0x1000 = 0 by omega]
    exact ⟨_, _, rfl, by omega, by omega⟩
  split
  · rename_i h0
    rw [show n / 0x1000 = 0xD by omega]
    exact ⟨_, _, rfl, by omega, by omega⟩
  · rw [if_pos (by omega), Nat.add_sub_cancel_left]
    exact ⟨_, _, rfl, by omega, by omega⟩

/-- The lead of a character of four octets. -/
theorem lead_four {n : Nat} (h : 0x10000 ≤ n) (h' : n < 0x110000) :
    ∃ low high, lead (UInt8.ofNat (0xF0 + n / 0x40000))
        = .begun ⟨2, low, high, n / 0x40000, [UInt8.ofNat (0xF0 + n / 0x40000)]⟩
      ∧ low ≤ 0x80 + n / 0x1000 % 0x40 ∧ 0x80 + n / 0x1000 % 0x40 ≤ high := by
  have hn : (UInt8.ofNat (0xF0 + n / 0x40000)).toNat = 0xF0 + n / 0x40000 :=
    toNat_octet (by omega)
  rw [lead, hn]
  rw [if_neg (by omega), if_neg (by omega), if_neg (by omega),
    if_neg (by omega), if_neg (by omega), if_neg (by omega)]
  split
  · rename_i h0
    rw [show n / 0x40000 = 0 by omega]
    exact ⟨_, _, rfl, by omega, by omega⟩
  split
  · rw [Nat.add_sub_cancel_left]
    exact ⟨_, _, rfl, by omega, by omega⟩
  · rw [if_pos (by omega), show n / 0x40000 = 4 by omega]
    exact ⟨_, _, rfl, by omega, by omega⟩

/-- **A character is scanned as itself**, whatever follows. -/
theorem scanFrom_encodeChar (c : Char) (rest : List UInt8) :
    scanFrom none (encodeChar c ++ rest) = .char c :: scanFrom none rest := by
  have hv : c.toNat < 0xD800 ∨ 0xDFFF < c.toNat ∧ c.toNat < 0x110000 := c.valid
  have hc : Char.ofNat c.toNat = c := Char.ofNat_toNat c
  rw [encodeChar]
  generalize c.toNat = n at hv hc
  subst hc
  by_cases h1 : n < 0x80
  · have hn : (UInt8.ofNat n).toNat = n := toNat_octet (by omega)
    rw [if_pos h1, List.cons_append, scanFrom_cons, step, Option.elim, start,
      lead, hn, if_pos h1]
    rfl
  by_cases h2 : n < 0x800
  · rw [if_neg h1, if_pos h2, List.cons_append, scanFrom_cons, step,
      Option.elim, start, lead_two (by omega) h2]
    show scanFrom _ (_ :: rest) = _
    rw [scanFrom_cons, step, Option.elim,
      proceed_octet (by omega) (by simp) (by simp; omega)]
    show [Piece.char (Char.ofNat (n / 0x40 * 0x40 + n % 0x40))] ++ _ = _
    rw [show n / 0x40 * 0x40 + n % 0x40 = n by omega]
    rfl
  by_cases h3 : n < 0x10000
  · obtain ⟨low, high, hl, hlow, hhigh⟩ := lead_three (by omega) h3 (by omega)
    rw [if_neg h1, if_neg h2, if_pos h3, List.cons_append, scanFrom_cons, step,
      Option.elim, start, hl]
    show scanFrom _ (_ :: _ :: rest) = _
    rw [scanFrom_cons, step, Option.elim, proceed_octet (by omega) hlow hhigh]
    show scanFrom _ (_ :: rest) = _
    rw [scanFrom_cons, step, Option.elim,
      proceed_octet (by omega) (by simp) (by simp; omega)]
    show [Piece.char (Char.ofNat ((n / 0x1000 * 0x40 + n / 0x40 % 0x40) * 0x40
      + n % 0x40))] ++ _ = _
    rw [show (n / 0x1000 * 0x40 + n / 0x40 % 0x40) * 0x40 + n % 0x40 = n by omega]
    rfl
  · obtain ⟨low, high, hl, hlow, hhigh⟩ := lead_four (n := n) (by omega) (by omega)
    rw [if_neg h1, if_neg h2, if_neg h3, List.cons_append, scanFrom_cons, step,
      Option.elim, start, hl]
    show scanFrom _ (_ :: _ :: _ :: rest) = _
    rw [scanFrom_cons, step, Option.elim, proceed_octet (by omega) hlow hhigh]
    show scanFrom _ (_ :: _ :: rest) = _
    rw [scanFrom_cons, step, Option.elim,
      proceed_octet (by omega) (by simp) (by simp; omega)]
    show scanFrom _ (_ :: rest) = _
    rw [scanFrom_cons, step, Option.elim,
      proceed_octet (by omega) (by simp) (by simp; omega)]
    show [Piece.char (Char.ofNat (((n / 0x40000 * 0x40 + n / 0x1000 % 0x40) * 0x40
      + n / 0x40 % 0x40) * 0x40 + n % 0x40))] ++ _ = _
    rw [show ((n / 0x40000 * 0x40 + n / 0x1000 % 0x40) * 0x40 + n / 0x40 % 0x40)
      * 0x40 + n % 0x40 = n by omega]
    rfl

@[simp] theorem encode_nil : encode [] = [] := rfl

@[simp] theorem encode_cons (c : Char) (t : Text) :
    encode (c :: t) = encodeChar c ++ encode t := rfl

/-- **What is written is scanned** as the characters it is. -/
theorem scan_encode (t : Text) : scan (encode t) = t.map .char := by
  induction t with
  | nil => rfl
  | cons c t ih =>
    rw [encode_cons, scan, scanFrom_encodeChar, List.map_cons, ← ih]
    rfl

/-- The characters of whole pieces are gathered. -/
theorem gather_map_char (before : Nat) (t : Text) :
    gather before (t.map .char) = .ok t := by
  induction t generalizing before with
  | nil => rfl
  | cons c t ih =>
    rw [List.map_cons, gather, ih]
    rfl

/-- Decoding undoes encoding. -/
theorem decode_encode (t : Text) : decode (encode t) = .ok t := by
  rw [decode, scan_encode, gather_map_char]

/-- So does the reading that never fails. -/
theorem decodeLossy_encode (t : Text) : decodeLossy (encode t) = t := by
  rw [decodeLossy, scan_encode, List.map_map]
  exact List.map_id t

end QueryClient.Utf8
