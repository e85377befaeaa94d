import QueryClient.Text.Basic

/-!
# Dot segments

In a path the segment `.` means the place itself and `..` the place above.
`resolveDots` carries both out on a list of segments; nothing lies above the
first. `removeDots` does so on a path as text, and sees to it that a path
that began with a slash still does, and that one which ended in a dot
segment ends in a slash.
-/

namespace QueryClient.Url

/-- The segments with `.` and `..` resolved, `taken` being those before,
the latest first. There is nothing above the first segment. -/
def resolveDots (taken : List Text) : List Text → List Text
  | [] => taken.reverse
  | segment :: rest =>
    if segment = ['.', '.'] then resolveDots taken.tail rest
    else if segment = ['.'] then resolveDots taken rest
    else resolveDots (segment :: taken) rest

/-- Whether the segment is one of the two with dots. -/
def isDotSegment (segment : Text) : Bool :=
  segment == ['.'] || segment == ['.', '.']

/-- The path without dot segments. -/
def removeDots (path : Text) : Text :=
  let segments := Text.fields '/' path
  let resolved := resolveDots [] segments
  let rooted := path.head? = some '/'
  let front := if rooted && !(resolved.head?.any List.isEmpty) then [[]] else []
  let back :=
    if 1 < segments.length && segments.getLast?.any isDotSegment then [[]]
    else []
  Text.joinFields ['/'] (front ++ resolved ++ back)

end QueryClient.Url
