import QueryClient.Url.Authority

/-!
# References

A **reference** is an address divided at its punctuation: a scheme before
the first colon, an authority after `//`, a path with parameters after a
semicolon, a query after `?`, a fragment after `#`. Parts that are not there
are empty. `Reference.parse` divides without looking into the parts, the
authority aside; `Reference.print` puts them together again and leaves out
the punctuation of empty parts.
-/

namespace QueryClient.Url

/-- A **reference**: an address in its parts. -/
structure Reference where
  /-- The scheme, in lower case. -/
  scheme : Text
  /-- The authority. -/
  authority : Text
  /-- The path, without the parameters of its last segment. -/
  path : Text
  /-- The parameters of the last segment. -/
  params : Text
  /-- The query. -/
  query : Text
  /-- The fragment. -/
  fragment : Text
deriving DecidableEq, Repr

/-- Whether the scheme, given in lower case, is one of those named. -/
def isOneOf (names : List String) (scheme : Text) : Bool :=
  names.any fun name => name.toList == scheme

/-- The schemes whose addresses may have an authority without saying so. -/
def hasAuthority : Text → Bool :=
  isOneOf ["", "ftp", "http", "gopher", "nntp", "telnet", "imap", "wais",
    "file", "mms", "https", "shttp", "snews", "prospero", "rtsp", "rtspu",
    "rsync", "svn", "svn+ssh", "sftp", "nfs", "git", "git+ssh", "ws", "wss"]

/-- The schemes whose addresses can be relative to one another. -/
def isHierarchical : Text → Bool :=
  isOneOf ["", "ftp", "http", "gopher", "nntp", "imap", "wais", "file",
    "https", "shttp", "mms", "prospero", "rtsp", "rtspu", "sftp", "svn",
    "svn+ssh", "ws", "wss"]

/-- The schemes whose last path segment may have parameters. -/
def hasParams : Text → Bool :=
  isOneOf ["", "ftp", "hdl", "prospero", "http", "https", "shttp", "rtsp",
    "rtspu", "sip", "sips", "mms", "sftp", "tel"]

/-- Whether the character may stand in a scheme. -/
def isSchemeChar (c : Char) : Bool :=
  c.isAlphanum || "+-.".toList.contains c

namespace Reference

/-- The text without the controls and spaces in front and without the tabs
and line ends anywhere. -/
def clean (t : Text) : Text :=
  (t.dropWhile (·.toNat ≤ 32)).filter fun c => c != '\t' && c != '\r' && c != '\n'

/-- The scheme in front, if there is one, and the rest. -/
def cutScheme (fallback t : Text) : Text × Text :=
  match Text.cut ':' t with
  | (c :: rest, some after) =>
    if c.isAlpha && rest.all isSchemeChar then
      (Text.lowerAscii (c :: rest), after)
    else (fallback, t)
  | _ => (fallback, t)

/-- Whether the character ends an authority. -/
def endsAuthority (c : Char) : Bool :=
  c == '/' || c == '?' || c == '#'

/-- The authority in front, if there is one, and the rest. -/
def cutAuthority : Text → Text × Text
  | '/' :: '/' :: rest =>
    (rest.takeWhile (!endsAuthority ·), rest.dropWhile (!endsAuthority ·))
  | t => ([], t)

/-- The path cut at the first semicolon of its last segment. -/
def cutParams (path : Text) : Text × Text :=
  let last := (Text.cutLast '/' path).2
  match Text.cut ';' last with
  | (before, some params) =>
    (path.take (path.length - last.length) ++ before, params)
  | (_, none) => (path, [])

/-- The parts of an address, the parameters left in the path. An address
without a scheme of its own has the scheme `fallback`. -/
def split (fallback t : Text) : Except AuthorityFault Reference := do
  let (scheme, afterScheme) := cutScheme fallback (clean t)
  let (authority, afterAuthority) := cutAuthority afterScheme
  Authority.check authority
  let (beforeFragment, fragment) := Text.cut '#' afterAuthority
  let (path, query) := Text.cut '?' beforeFragment
  return {
    scheme, authority, path
    params := []
    query := query.getD []
    fragment := fragment.getD [] }

/-- The **parts** of an address. -/
def parse (fallback t : Text) : Except AuthorityFault Reference :=
  (split fallback t).map fun r =>
    if hasParams r.scheme then
      let (path, params) := cutParams r.path
      { r with path, params }
    else r

/-- A part with its punctuation in front, or nothing if it is empty. -/
def marked (mark : Char) (part : Text) : Text :=
  if part.isEmpty then [] else mark :: part

/-- The path with the authority in front. A scheme that may have an
authority is shown with an empty one. -/
def printPath (r : Reference) : Text :=
  let path := r.path ++ marked ';' r.params
  if !r.authority.isEmpty || (!r.scheme.isEmpty && hasAuthority r.scheme
      && path.take 2 != ['/', '/']) then
    ['/', '/'] ++ r.authority
      ++ (if path.isEmpty || path.head? = some '/' then path else '/' :: path)
  else path

/-- The **address** of the parts. -/
def print (r : Reference) : Text :=
  (if r.scheme.isEmpty then [] else r.scheme ++ [':'])
    ++ printPath r ++ marked '?' r.query ++ marked '#' r.fragment

end Reference
end QueryClient.Url
