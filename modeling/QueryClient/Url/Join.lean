import QueryClient.Url.Path
import QueryClient.Url.Reference

/-!
# Joining references

A relative reference is meant from a **base** address: what it does not say
itself it takes from there. If it has a relative path, that replaces the
last segment of the base's path, and then the segments `.` and `..` are
resolved. A reference with another scheme, or with an authority, owes
nothing to the base.
-/

namespace QueryClient.Url

/-- The segments without the empty ones between the first and the last. -/
def dropEmptyInside (segments : List Text) : List Text :=
  match segments with
  | [] => []
  | first :: rest =>
    first :: ((rest.dropLast.filter (!·.isEmpty))
      ++ rest.drop (rest.length - 1))

/-- The segments of the path `path` meant from the path `base`. -/
def joinSegments (base path : Text) : List Text :=
  if path.head? = some '/' then Text.fields '/' path
  else
    let parts := Text.fields '/' base
    let kept := if parts.getLast? = some [] then parts else parts.dropLast
    dropEmptyInside (kept ++ Text.fields '/' path)

/-- The path `path` meant from the path `base`. A path that ends in a dot
segment ends in a slash. -/
def joinPath (base path : Text) : Text :=
  let segments := joinSegments base path
  let dotted := segments.getLast?.any isDotSegment
  let joined := Text.joinFields ['/']
    (resolveDots [] segments ++ if dotted then [[]] else [])
  if joined.isEmpty then ['/'] else joined

/-- The **address** that `t` means from the address `base`. -/
def join (base t : Text) : Except AuthorityFault Text := do
  if base.isEmpty then return t
  if t.isEmpty then return base
  let b ← Reference.parse [] base
  let r ← Reference.parse b.scheme t
  if r.scheme != b.scheme || !isHierarchical r.scheme then return t
  if hasAuthority r.scheme && !r.authority.isEmpty then return r.print
  let authority := if hasAuthority r.scheme then b.authority else r.authority
  if r.path.isEmpty && r.params.isEmpty then
    return { r with
      authority, path := b.path, params := b.params
      query := if r.query.isEmpty then b.query else r.query }.print
  return { r with authority, path := joinPath b.path r.path }.print

end QueryClient.Url
