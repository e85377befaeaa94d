import QueryClient.Text.Basic

/-!
# Loose text

What comes from outside is not always text. Octets that are none, met where text
was expected, are handed on as **surrogates** that stand alone, and a value with
such a surrogate in it is **loose text**: it can be kept, compared and passed on,
but it has no octets. `LooseText.toText` takes it for text, if it is, and
otherwise reports the first run of surrogates.
-/

namespace QueryClient

/-- A **code point** of loose text. -/
inductive CodePoint where
  /-- A character. -/
  | char (c : Char)
  /-- A surrogate that stands alone, by its place behind the first of them,
  U+D800. -/
  | lone (place : Fin 0x800)
deriving DecidableEq, Repr

namespace CodePoint

/-- The character that the code point is, if it is one. -/
def char? : CodePoint → Option Char
  | .char c => some c
  | .lone _ => none

/-- Whether the code point is a character. -/
def isChar (p : CodePoint) : Bool :=
  p.char?.isSome

/-- The number of the code point. -/
def number : CodePoint → Nat
  | .char c => c.toNat
  | .lone place => 0xD800 + place.val

end CodePoint

/-- **Loose text** is a finite sequence of code points. -/
abbrev LooseText := List CodePoint

/-- Text as loose text. -/
def Text.loose (t : Text) : LooseText :=
  t.map .char

instance : Coe Text LooseText := ⟨Text.loose⟩

namespace LooseText

/-- The first run of surrogates that stand alone. -/
structure Fault where
  /-- How many code points stand before the run. -/
  position : Nat
  /-- The surrogates of the run. -/
  run : LooseText
deriving DecidableEq, Repr

/-- The message of a fault: it shows the surrogate if there is one, and the
first and last place if there are more. -/
def Fault.message (f : Fault) : Text :=
  let place := match f.run with
    | [p] => "character \x27\\u".toList ++ Text.padded 16 4 p.number
        ++ "\x27 in position ".toList ++ Text.ofNat f.position
    | more => "characters in position ".toList ++ Text.ofNat f.position
        ++ ['-'] ++ Text.ofNat (f.position + more.length - 1)
  "\x27utf-8\x27 codec can\x27t encode ".toList ++ place
    ++ ": surrogates not allowed".toList

/-- The text that it is, or the first run of surrogates in it. -/
def toText (t : LooseText) : Except Fault Text :=
  match t.dropWhile CodePoint.isChar with
  | [] => .ok (t.filterMap CodePoint.char?)
  | p :: rest =>
    .error ⟨(t.takeWhile CodePoint.isChar).length,
      p :: rest.takeWhile (!CodePoint.isChar ·)⟩

@[simp] theorem dropWhile_loose (t : Text) :
    t.loose.dropWhile CodePoint.isChar = [] := by
  induction t with
  | nil => rfl
  | cons c t ih => exact ih

/-- What has no surrogate in it is text. -/
theorem eq_loose_of_dropWhile {l : LooseText}
    (h : l.dropWhile CodePoint.isChar = []) :
    l = Text.loose (l.filterMap CodePoint.char?) := by
  induction l with
  | nil => rfl
  | cons p l ih =>
    cases p with
    | char c => exact congrArg (CodePoint.char c :: ·) (ih h)
    | lone place => cases h

/-- Text is text. -/
@[simp] theorem toText_loose (t : Text) : toText t.loose = .ok t := by
  rw [toText, dropWhile_loose, Text.loose, List.filterMap_map]
  exact congrArg Except.ok List.filterMap_some

/-- **Nothing but text is.** -/
theorem toText_eq_ok_iff {l : LooseText} {t : Text} :
    toText l = .ok t ↔ l = t.loose := by
  refine ⟨fun h => ?_, fun h => h ▸ toText_loose t⟩
  unfold toText at h
  split at h
  · rename_i hall
    cases h
    exact eq_loose_of_dropWhile hall
  · cases h

end LooseText

/-! ## Named values -/

/-- Named values whose values are text, as they are handed on. -/
def loosePairs (pairs : List (Text × Text)) : List (Text × LooseText) :=
  pairs.map fun p => (p.1, Text.loose p.2)

/-- The named values as text, if all values are. -/
def readPairs (pairs : List (Text × LooseText)) :
    Except LooseText.Fault (List (Text × Text)) :=
  pairs.mapM fun p => p.2.toText.map (p.1, ·)

end QueryClient
