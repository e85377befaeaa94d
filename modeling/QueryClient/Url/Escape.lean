import QueryClient.Octets.Utf8

/-!
# Percent escapes

An address is written in few characters. Any other is written by the octets
of its UTF-8 form, each as an **escape**: a percent sign and two hexadecimal
digits. `escape` leaves the characters of a chosen set as they are;
`unescape` reads the octets back and takes a percent sign that begins no
escape for itself.
-/

namespace QueryClient.Url

/-- The capital hexadecimal digit of a value below sixteen. -/
def hexDigit (n : Nat) : Char :=
  if n < 10 then Char.ofNat (48 + n) else Char.ofNat (55 + n)

/-- The **escape** of an octet. -/
def escapeOctet (o : UInt8) : Text :=
  ['%', hexDigit (o.toNat / 16), hexDigit (o.toNat % 16)]

/-- The escapes of the octets of a character. -/
def escapeChar (c : Char) : Text :=
  (Utf8.encodeChar c).flatMap escapeOctet

/-- The text with every character outside the set `keep` escaped. -/
def escape (keep : Char → Bool) (t : Text) : Text :=
  t.flatMap fun c => if keep c then [c] else escapeChar c

/-- The octet that two hexadecimal digits write. -/
def octet? (high low : Char) : Option UInt8 := do
  return UInt8.ofNat ((← Text.hexValue? high) * 16 + (← Text.hexValue? low))

/-- The octets of a text with its escapes read. -/
def unescape : Text → List UInt8
  | '%' :: high :: low :: rest =>
    match octet? high low with
    | some o => o :: unescape rest
    | none => Utf8.encodeChar '%' ++ unescape (high :: low :: rest)
  | c :: rest => Utf8.encodeChar c ++ unescape rest
  | [] => []

/-- The text with its escapes read; octets that are no text become
replacement characters. -/
def unescapeText (t : Text) : Text :=
  Utf8.decodeLossy (unescape t)

/-- The **unreserved** characters, which mean the same escaped or not:
letters, digits, and four marks. -/
def isUnreserved (c : Char) : Bool :=
  c.isAlphanum || "-._~".toList.contains c

/-! ## Escaping, then reading -/

@[simp] theorem escape_nil (keep : Char → Bool) : escape keep [] = [] := rfl

theorem escape_cons (keep : Char → Bool) (c : Char) (t : Text) :
    escape keep (c :: t)
      = (if keep c then [c] else escapeChar c) ++ escape keep t := rfl

@[simp] theorem escape_append (keep : Char → Bool) (s t : Text) :
    escape keep (s ++ t) = escape keep s ++ escape keep t :=
  List.flatMap_append

/-- A hexadecimal digit reads back. -/
theorem hexValue_hexDigit {n : Nat} (h : n < 16) :
    Text.hexValue? (hexDigit n) = some n := by
  have : ∀ k : Fin 16, Text.hexValue? (hexDigit k) = some k.val := by decide
  exact this ⟨n, h⟩

/-- The two digits of an octet read back. -/
theorem octet_hexDigits (o : UInt8) :
    octet? (hexDigit (o.toNat / 16)) (hexDigit (o.toNat % 16)) = some o := by
  have h := o.toNat_lt
  rw [octet?, hexValue_hexDigit (by omega), hexValue_hexDigit (by omega)]
  show some (UInt8.ofNat (o.toNat / 16 * 16 + o.toNat % 16)) = some o
  rw [Nat.div_add_mod', UInt8.ofNat_toNat]

/-- An escape is read as its octet, whatever follows. -/
theorem unescape_escapeOctet (o : UInt8) (rest : Text) :
    unescape (escapeOctet o ++ rest) = o :: unescape rest := by
  show unescape ('%' :: _ :: _ :: rest) = _
  rw [unescape, octet_hexDigits]

/-- Escapes are read as their octets, whatever follows. -/
theorem unescape_flatMap_escapeOctet (l : List UInt8) (rest : Text) :
    unescape (l.flatMap escapeOctet ++ rest) = l ++ unescape rest := by
  induction l with
  | nil => rfl
  | cons o l ih =>
    rw [List.flatMap_cons, List.append_assoc, unescape_escapeOctet, ih]
    rfl

/-- A character that is no percent sign is read as itself. -/
theorem unescape_cons_of_ne {c : Char} (h : c ≠ '%') (rest : Text) :
    unescape (c :: rest) = Utf8.encodeChar c ++ unescape rest := by
  rw [unescape]
  intro _ _ _ hc
  exact absurd hc h

/-- **Escaping is undone by reading**, as long as the percent sign is
escaped too. -/
theorem unescape_escape {keep : Char → Bool} (h : keep '%' = false)
    (t rest : Text) :
    unescape (escape keep t ++ rest) = Utf8.encode t ++ unescape rest := by
  induction t with
  | nil => rfl
  | cons c t ih =>
    rw [escape_cons, List.append_assoc, Utf8.encode_cons, List.append_assoc,
      ← ih]
    split
    · rename_i hc
      rw [List.singleton_append,
        unescape_cons_of_ne fun e => by rw [e, h] at hc; cases hc]
    · exact unescape_flatMap_escapeOctet _ _

end QueryClient.Url
