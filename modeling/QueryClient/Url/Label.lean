import QueryClient.Url.HostLetter
import QueryClient.Url.Punycode

/-!
# Host labels

A host name is a sequence of **labels** between points. A label in ASCII is
used in lower case. One with other letters travels as `xn--` and its
Punycode, provided that it is well formed: host letters only, no hyphen at
either end or in third and fourth place, no combining mark in front, and
not too long.
-/

namespace QueryClient.Url

/-- Whether the hyphens of the label stand where they may. -/
def hyphensFit (label : Text) : Bool :=
  label.head? != some '-' && label.getLast? != some '-'
    && (label.drop 2).take 2 != ['-', '-']

/-- Whether the label, in lower case, may be used with its letters. -/
def isHostLabel (label : Text) : Bool :=
  !label.isEmpty && label.length ≤ 63 && label.all isHostLetter
    && hyphensFit label && !(label.head?.any Text.marks.contains)
    && !(label.any joiningMarks.contains)

/-- The form in which a label beyond ASCII travels, if it is well formed. -/
def encodeLabel? (label : Text) : Option Text :=
  let small := Text.lower label
  if isHostLabel small then
    let encoded := "xn--".toList ++ Punycode.encode small
    if encoded.length ≤ 63 then some encoded else none
  else none

/-- The form in which a host name beyond ASCII travels, if all its labels
are well formed. The full stops of other scripts count as points. -/
def encodeName? (name : Text) : Option Text :=
  let points := [0x3002, 0xFF0E, 0xFF61]
  let plain := (Text.lower name).map fun c =>
    if points.contains c.toNat then '.' else c
  let labels := Text.fields '.' plain
  let rooted := 1 < labels.length && labels.getLast? == some []
  let encode (label : Text) : Option Text :=
    if Text.isAscii label then if isHostLabel label then some label else none
    else encodeLabel? label
  ((if rooted then labels.dropLast else labels).mapM encode).map fun encoded =>
    Text.joinFields ['.'] (encoded ++ if rooted then [[]] else [])

end QueryClient.Url
