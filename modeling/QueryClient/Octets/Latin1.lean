import QueryClient.Text.Quoted

/-!
# Latin-1

Latin-1 writes each character up to U+00FF as the one octet of its code
point. A text with a character beyond has no octets; what is reported then
is the first run of such characters.
-/

namespace QueryClient.Latin1

/-- Whether the character has an octet. -/
def hasOctet (c : Char) : Bool :=
  c.toNat < 0x100

/-- The first run of characters without an octet. -/
structure Fault where
  /-- How many characters stand before the run. -/
  position : Nat
  /-- The characters of the run. -/
  run : Text
deriving DecidableEq, Repr

/-- The octets of a text, or the first run that has none. -/
def encode (t : Text) : Except Fault (List UInt8) :=
  match t.dropWhile hasOctet with
  | [] => .ok (t.map fun c => UInt8.ofNat c.toNat)
  | c :: rest =>
    .error ⟨(t.takeWhile hasOctet).length, c :: rest.takeWhile (!hasOctet ·)⟩

/-- The text whose characters have the octets as code points. -/
def decode (octets : List UInt8) : Text :=
  octets.map fun o => Char.ofNat o.toNat

/-- The message of a fault: it shows the character if there is one, and the
first and last place if there are more. -/
def Fault.message (f : Fault) : Text :=
  let place := match f.run with
    | [c] => "character \x27".toList ++ Text.codePoint c
        ++ "\x27 in position ".toList ++ Text.ofNat f.position
    | more => "characters in position ".toList ++ Text.ofNat f.position
        ++ ['-'] ++ Text.ofNat (f.position + more.length - 1)
  "\x27latin-1\x27 codec can\x27t encode ".toList ++ place
    ++ ": ordinal not in range(256)".toList

end QueryClient.Latin1
