import QueryClient.Url.Escape

/-!
# Form text

A list of named values travels as **form text**: the pairs joined by `&`,
name and value by `=`, a space written as `+`, and every other character but
the unreserved ones escaped. Since the three joining characters are always
escaped inside names and values, `decode` finds the pairs again in their
order.
-/

namespace QueryClient.Url.Form

/-- A character of a name or value. -/
def encodeChar (c : Char) : Text :=
  if c = ' ' then ['+'] else if isUnreserved c then [c] else escapeChar c

/-- A name or value. -/
def encodeText (t : Text) : Text :=
  t.flatMap encodeChar

/-- One pair. -/
def encodePair (pair : Text × Text) : Text :=
  encodeText pair.1 ++ '=' :: encodeText pair.2

/-- The **form text** of the pairs. -/
def encode (pairs : List (Text × Text)) : Text :=
  Text.joinFields ['&'] (pairs.map encodePair)

/-- A plus sign as the space it stands for. -/
def plusToSpace (c : Char) : Char :=
  if c = '+' then ' ' else c

/-- A name or value read back: plus signs are spaces, and escapes are
read. -/
def decodeText (t : Text) : Text :=
  unescapeText (t.map plusToSpace)

/-- One pair read back. A pair without `=` has an empty value. -/
def decodePair (t : Text) : Text × Text :=
  let (name, value) := Text.cut '=' t
  (decodeText name, decodeText (value.getD []))

/-- The pairs of a form text. -/
def decode (t : Text) : List (Text × Text) :=
  (Text.fields '&' t).map decodePair

/-! ## Writing, then reading -/

@[simp] theorem encodeText_nil : encodeText [] = [] := rfl

theorem encodeText_cons (c : Char) (t : Text) :
    encodeText (c :: t) = encodeChar c ++ encodeText t := rfl

/-- The characters of form text inside a name or value: unreserved ones,
plus and percent signs. -/
def isFormChar (c : Char) : Bool :=
  isUnreserved c || c == '+' || c == '%'

theorem isFormChar_hexDigit {n : Nat} (h : n < 16) :
    isFormChar (hexDigit n) = true := by
  have : ∀ k : Fin 16, isFormChar (hexDigit k) = true := by decide
  exact this ⟨n, h⟩

/-- Escapes are made of form characters. -/
theorem all_isFormChar_escapeOctet (o : UInt8) :
    (escapeOctet o).all isFormChar = true := by
  have h := o.toNat_lt
  rw [escapeOctet, List.all_cons, List.all_cons, List.all_cons,
    isFormChar_hexDigit (by omega), isFormChar_hexDigit (by omega)]
  rfl

/-- **A written name or value holds form characters only**, so none of the
characters that join pairs. -/
theorem isFormChar_of_mem_encodeText {t : Text} {c : Char}
    (h : c ∈ encodeText t) : isFormChar c = true := by
  obtain ⟨d, _, hd⟩ := List.mem_flatMap.mp h
  rw [encodeChar] at hd
  split at hd
  · rw [List.mem_singleton] at hd
    rw [hd]
    rfl
  split at hd
  · rename_i hu
    rw [List.mem_singleton] at hd
    rw [hd, isFormChar, hu]
    rfl
  · obtain ⟨o, _, ho⟩ := List.mem_flatMap.mp hd
    exact List.all_eq_true.mp (all_isFormChar_escapeOctet o) c ho

/-- Reading what was written of a character, whatever follows. -/
theorem unescape_encodeChar (c : Char) (rest : Text) :
    unescape ((encodeChar c).map plusToSpace ++ rest)
      = Utf8.encodeChar c ++ unescape rest := by
  rw [encodeChar]
  split
  · rename_i hc
    rw [hc]
    exact unescape_cons_of_ne (by decide) rest
  split
  · rename_i hu
    have h1 : c ≠ '+' := fun e => by rw [e] at hu; exact absurd hu (by decide)
    have h2 : c ≠ '%' := fun e => by rw [e] at hu; exact absurd hu (by decide)
    rw [List.map_singleton, plusToSpace, if_neg h1, List.singleton_append,
      unescape_cons_of_ne h2]
  · have h : ∀ d ∈ escapeChar c, plusToSpace d = d := by
      intro d hd
      obtain ⟨o, _, ho⟩ := List.mem_flatMap.mp hd
      have hx : ∀ n, n < 16 → plusToSpace (hexDigit n) = hexDigit n := by decide
      have ho' := o.toNat_lt
      rw [escapeOctet, List.mem_cons, List.mem_cons, List.mem_singleton] at ho
      obtain rfl | rfl | rfl := ho
      · rfl
      · exact hx _ (by omega)
      · exact hx _ (by omega)
    rw [List.map_congr_left h, List.map_id']
    exact unescape_flatMap_escapeOctet _ _

/-- **A name or value reads back.** -/
theorem decodeText_encodeText (t : Text) : decodeText (encodeText t) = t := by
  have h : unescape ((encodeText t).map plusToSpace) = Utf8.encode t := by
    induction t with
    | nil => rfl
    | cons c t ih =>
      rw [encodeText_cons, List.map_append, unescape_encodeChar, ih]
      rfl
  rw [decodeText, unescapeText, h, Utf8.decodeLossy_encode]

/-- A pair reads back. -/
theorem decodePair_encodePair (pair : Text × Text) :
    decodePair (encodePair pair) = pair := by
  have h : '=' ∉ encodeText pair.1 := fun h =>
    absurd (isFormChar_of_mem_encodeText h) (by decide)
  rw [decodePair, encodePair, Text.cut_append_cons h]
  show (decodeText (encodeText pair.1), decodeText (encodeText pair.2)) = pair
  rw [decodeText_encodeText, decodeText_encodeText]

/-- **The pairs read back in their order**, when there are any. -/
theorem decode_encode {pairs : List (Text × Text)} (h : pairs ≠ []) :
    decode (encode pairs) = pairs := by
  obtain ⟨p, rest, rfl⟩ := List.exists_cons_of_ne_nil h
  have hn : ∀ t ∈ (p :: rest).map encodePair, '&' ∉ t := by
    intro t ht hm
    obtain ⟨q, _, rfl⟩ := List.mem_map.mp ht
    rw [encodePair, List.mem_append, List.mem_cons] at hm
    obtain hm | hm | hm := hm
    · exact absurd (isFormChar_of_mem_encodeText hm) (by decide)
    · exact absurd hm (by decide)
    · exact absurd (isFormChar_of_mem_encodeText hm) (by decide)
  rw [decode, encode]
  rw [List.map_cons] at hn ⊢
  rw [Text.fields_joinFields hn, ← List.map_cons, List.map_map,
    show decodePair ∘ encodePair = id from funext decodePair_encodePair]
  exact List.map_id _

end QueryClient.Url.Form
