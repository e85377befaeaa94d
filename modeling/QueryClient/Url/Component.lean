import QueryClient.Url.Escape

/-!
# Components

The user, the path, the query and the fragment of an address are its
**components**. Each allows its own set of characters. A component may come
escaped or not: it counts as escaped if every percent sign in it begins an
escape, and then the escapes stay, in capitals; otherwise its percent signs
are escaped like any other character that may not stand there.
-/

namespace QueryClient.Url

/-- The text with its escapes in capitals. -/
def upperEscapes : Text → Text
  | '%' :: high :: low :: rest =>
    if (octet? high low).isSome then
      '%' :: high.toUpper :: low.toUpper :: upperEscapes rest
    else '%' :: upperEscapes (high :: low :: rest)
  | c :: rest => c :: upperEscapes rest
  | [] => []

/-- Whether every percent sign begins an escape. -/
def isEscaped : Text → Bool
  | '%' :: high :: low :: rest => (octet? high low).isSome && isEscaped rest
  | c :: rest => c != '%' && isEscaped rest
  | [] => true

/-- The component with all characters outside the set `allowed` escaped. -/
def encodeComponent (allowed : Char → Bool) (t : Text) : Text :=
  if isEscaped t then escape (fun c => allowed c || c == '%') (upperEscapes t)
  else escape allowed (upperEscapes t)

/-- The characters of a user part. -/
def isUserChar (c : Char) : Bool :=
  isUnreserved c || "!$&'()*+,;=:".toList.contains c

/-- The characters of a path. -/
def isPathChar (c : Char) : Bool :=
  isUserChar c || c == '@' || c == '/'

/-- The characters of a query or a fragment. -/
def isQueryChar (c : Char) : Bool :=
  isPathChar c || c == '?'

end QueryClient.Url
