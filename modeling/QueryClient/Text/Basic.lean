/-!
# Text

Whatever the client reads or writes in words is **text**: a finite sequence
of Unicode characters. Addresses, queries and messages are cut, joined and
trimmed here one character at a time; nothing in this module knows what the
characters mean.

Cutting comes in three forms. `cut` divides a text at the first separator,
`cutLast` at the last, and `fields` at every one; each keeps all characters
but the separators it divides at. `trimEnd` takes a run of one character off
the end and leaves such runs everywhere else.
-/

namespace QueryClient

/-- **Text** is a finite sequence of Unicode characters. -/
abbrev Text := List Char

namespace Text

/-- The text without the run of `c` at its end. -/
def trimEnd (c : Char) (t : Text) : Text :=
  (t.reverse.dropWhile (· == c)).reverse

/-- The text **cut** at the first `sep`: what stands before it, and what
follows it if it occurs at all. -/
def cut (sep : Char) (t : Text) : Text × Option Text :=
  (t.takeWhile (· != sep), (t.dropWhile (· != sep)).tail?)

/-- The text cut at the last `sep`: what stands before it if it occurs at
all, and what follows it. -/
def cutLast (sep : Char) (t : Text) : Option Text × Text :=
  ((cut sep t.reverse).2.map List.reverse, (cut sep t.reverse).1.reverse)

/-- One more character in front of the first field, or of an only one. -/
def pushField (sep c : Char) (parts : List Text) : List Text :=
  if c = sep then [] :: parts else (c :: parts.headD []) :: parts.tail

/-- The **fields** between the separators: one more than there are
separators, and never none. -/
def fields (sep : Char) (t : Text) : List Text :=
  t.foldr (pushField sep) [[]]

/-- The fields with the separator back between them. -/
def joinFields (sep : Text) (parts : List Text) : Text :=
  sep.intercalate parts

/-- The decimal digits of a number. -/
def ofNat (n : Nat) : Text :=
  Nat.toDigits 10 n

/-- The decimal digits of a number, with a minus sign before a negative
one. -/
def ofInt : Int → Text
  | .ofNat n => ofNat n
  | .negSucc n => '-' :: ofNat (n + 1)

/-- The number in the notation of base `base`, in at least `width` digits. -/
def padded (base width n : Nat) : Text :=
  (Nat.toDigits base n).leftpad width '0'

/-- ASCII lower case: a letter from `A` to `Z` becomes its small form and
every other character stays. -/
def lowerAscii (t : Text) : Text :=
  t.map Char.toLower

/-- Whether every character is of the ASCII range. -/
def isAscii (t : Text) : Bool :=
  t.all (·.toNat < 128)

/-- The value of a hexadecimal digit of either case. -/
def hexValue? (c : Char) : Option Nat :=
  if c.isDigit then some (c.toNat - 48)
  else if 'a' ≤ c ∧ c ≤ 'f' then some (c.toNat - 87)
  else if 'A' ≤ c ∧ c ≤ 'F' then some (c.toNat - 55)
  else none

/-- Whether the character is a hexadecimal digit of either case. -/
def isHexDigit (c : Char) : Bool :=
  (hexValue? c).isSome

/-- The number that the digits write in base ten; characters that are no
digits count by their code point and are kept away by the callers. -/
def digitsValue (t : Text) : Nat :=
  t.foldl (fun n c => n * 10 + (c.toNat - 48)) 0

/-- Whether the text is a non-empty run of ASCII digits. -/
def isNumeral (t : Text) : Bool :=
  !t.isEmpty && t.all Char.isDigit

@[simp] theorem fields_nil (sep : Char) : fields sep [] = [[]] := rfl

@[simp] theorem fields_cons (sep c : Char) (t : Text) :
    fields sep (c :: t) = pushField sep c (fields sep t) := rfl

/-- There is always a first field. -/
theorem fields_ne_nil (sep : Char) (t : Text) : fields sep t ≠ [] := by
  cases t with
  | nil => simp
  | cons c t => rw [fields_cons, pushField]; split <;> simp

@[simp] theorem trimEnd_nil (c : Char) : trimEnd c [] = [] := rfl

/-- The character itself goes from the end. -/
@[simp] theorem trimEnd_append_self (c : Char) (t : Text) :
    trimEnd c (t ++ [c]) = trimEnd c t := by
  rw [trimEnd, trimEnd, List.reverse_append, List.reverse_singleton,
    List.singleton_append, List.dropWhile_cons_of_pos (by simp)]

/-- Any other character stays, and all before it. -/
theorem trimEnd_append_of_ne {c d : Char} (h : d ≠ c) (t : Text) :
    trimEnd c (t ++ [d]) = t ++ [d] := by
  rw [trimEnd, List.reverse_append, List.reverse_singleton,
    List.singleton_append, List.dropWhile_cons_of_neg (by simpa using h),
    ← List.reverse_concat, List.reverse_reverse]

@[simp] theorem cut_nil (sep : Char) : cut sep [] = ([], none) := rfl

/-- The cut at a separator in front. -/
@[simp] theorem cut_cons_self (sep : Char) (t : Text) :
    cut sep (sep :: t) = ([], some t) := by
  rw [cut, List.takeWhile_cons_of_neg (by simp),
    List.dropWhile_cons_of_neg (by simp)]
  rfl

/-- Another character in front stays in front. -/
theorem cut_cons_of_ne {sep c : Char} (h : c ≠ sep) (t : Text) :
    cut sep (c :: t) = (c :: (cut sep t).1, (cut sep t).2) := by
  rw [cut, List.takeWhile_cons_of_pos (by simpa using h),
    List.dropWhile_cons_of_pos (by simpa using h), cut]

/-- A text without the separator is not cut. -/
theorem cut_of_notMem {sep : Char} {t : Text} (h : sep ∉ t) :
    cut sep t = (t, none) := by
  induction t with
  | nil => rfl
  | cons c t ih =>
    rw [List.mem_cons, not_or] at h
    rw [cut_cons_of_ne (Ne.symm h.1), ih h.2]

/-- The cut falls at the first separator. -/
theorem cut_append_cons {sep : Char} {a : Text} (h : sep ∉ a) (b : Text) :
    cut sep (a ++ sep :: b) = (a, some b) := by
  induction a with
  | nil => exact cut_cons_self sep b
  | cons c a ih =>
    rw [List.mem_cons, not_or] at h
    rw [List.cons_append, cut_cons_of_ne (Ne.symm h.1), ih h.2]

/-- A text without the separator is one field. -/
theorem fields_of_notMem {sep : Char} {t : Text} (h : sep ∉ t) :
    fields sep t = [t] := by
  induction t with
  | nil => rfl
  | cons c t ih =>
    rw [List.mem_cons, not_or] at h
    rw [fields_cons, ih h.2, pushField, if_neg (Ne.symm h.1)]
    rfl

/-- The first separator ends the first field. -/
theorem fields_append_cons {sep : Char} {a : Text} (h : sep ∉ a) (b : Text) :
    fields sep (a ++ sep :: b) = a :: fields sep b := by
  induction a with
  | nil => rw [List.nil_append, fields_cons, pushField, if_pos rfl]
  | cons c a ih =>
    rw [List.mem_cons, not_or] at h
    rw [List.cons_append, fields_cons, ih h.2, pushField,
      if_neg (Ne.symm h.1)]
    rfl

@[simp] theorem joinFields_nil (sep : Text) : joinFields sep [] = [] := rfl

@[simp] theorem joinFields_singleton (sep t : Text) :
    joinFields sep [t] = t := by
  simp [joinFields]

/-- The separator stands between the first field and the others. -/
theorem joinFields_cons_cons (sep a b : Text) (rest : List Text) :
    joinFields sep (a :: b :: rest)
      = a ++ sep ++ joinFields sep (b :: rest) := by
  simp [joinFields, List.append_assoc]

/-- Joining undoes the division into fields. -/
theorem joinFields_fields (sep : Char) (t : Text) :
    joinFields [sep] (fields sep t) = t := by
  induction t with
  | nil => rfl
  | cons c t ih =>
    obtain ⟨a, rest, h⟩ := List.exists_cons_of_ne_nil (fields_ne_nil sep t)
    rw [h] at ih
    rw [fields_cons, h, pushField]
    split
    · rename_i hc
      rw [joinFields_cons_cons, ih, hc]
      rfl
    · cases rest with
      | nil =>
        rw [joinFields_singleton] at ih
        rw [← ih]
        exact joinFields_singleton _ _
      | cons b rest =>
        rw [joinFields_cons_cons] at ih
        show joinFields [sep] ((c :: a) :: b :: rest) = _
        rw [joinFields_cons_cons, ← ih]
        rfl

/-- Fields without the separator are found again. -/
theorem fields_joinFields {sep : Char} {a : Text} {rest : List Text}
    (h : ∀ t ∈ a :: rest, sep ∉ t) :
    fields sep (joinFields [sep] (a :: rest)) = a :: rest := by
  induction rest generalizing a with
  | nil =>
    rw [joinFields_singleton]
    exact fields_of_notMem (h a (List.mem_cons_self ..))
  | cons b rest ih =>
    rw [joinFields_cons_cons, List.append_assoc, List.singleton_append,
      fields_append_cons (h a (List.mem_cons_self ..)),
      ih fun t ht => h t (List.mem_cons_of_mem _ ht)]

end Text
end QueryClient
