import QueryClient.Text.Basic

/-!
# Numeric hosts

A host may be given by number. An **IPv4** address is four decimal octets.
An **IPv6** address is eight groups of up to four hexadecimal digits; one
run of zero groups may be left out as `::`, and the last two groups may be
written as an IPv4 address.

How strictly that embedded address is read differs between readers, so the
grammar of the groups takes the reader of the tail as a parameter: a reader
of addresses knows octets (`isOctet`), a reader of shapes only runs of one
to three digits (`isShortNumeral`).
-/

namespace QueryClient.Url

/-- A run of one to three digits. -/
def isShortNumeral (t : Text) : Bool :=
  Text.isNumeral t && t.length ≤ 3

/-- A decimal octet: at most 255, without needless zeros in front. -/
def isOctet (t : Text) : Bool :=
  isShortNumeral t && (t.length == 1 || t.head? != some '0')
    && Text.digitsValue t ≤ 255

/-- Four numerals between points, each as `octet` wants them. -/
def isDotted (octet : Text → Bool) (t : Text) : Bool :=
  (Text.fields '.' t).length == 4 && (Text.fields '.' t).all octet

/-- An **IPv4** address. -/
def isIpv4 (t : Text) : Bool :=
  isDotted isOctet t

/-- A group of one to four hexadecimal digits. -/
def isGroup (t : Text) : Bool :=
  !t.isEmpty && t.length ≤ 4 && t.all Text.isHexDigit

/-- How many groups the fields stand for, if they are groups and at most the
last is a tail of two groups' length. -/
def groupCount? (tail : Text → Bool) : List Text → Option Nat
  | [] => some 0
  | [last] =>
    if isGroup last then some 1 else if tail last then some 2 else none
  | group :: rest =>
    if isGroup group then (groupCount? tail rest).map (· + 1) else none

/-- The number of groups between colons in a text that may be empty. -/
def groupsOf? (tail : Text → Bool) (t : Text) : Option Nat :=
  if t.isEmpty then some 0 else groupCount? tail (Text.fields ':' t)

/-- The text cut at the first double colon. -/
def cutElision : Text → Option (Text × Text)
  | ':' :: ':' :: rest => some ([], rest)
  | c :: rest => (cutElision rest).map fun (a, b) => (c :: a, b)
  | [] => none

/-- Whether the groups make an address: eight of them, or at most seven
with the others left out. -/
def isGrouped (tail : Text → Bool) (t : Text) : Bool :=
  match cutElision t with
  | none => groupsOf? tail t == some 8
  | some (before, after) =>
    match groupsOf? (fun _ => false) before, groupsOf? tail after with
    | some m, some n => m + n ≤ 7
    | _, _ => false

/-- An **IPv6** address, perhaps with a zone behind a percent sign. -/
def isIpv6 (t : Text) : Bool :=
  let (address, zone) := Text.cut '%' t
  isGrouped isIpv4 address
    && zone.all fun z => !z.isEmpty && !z.contains '%'

end QueryClient.Url
