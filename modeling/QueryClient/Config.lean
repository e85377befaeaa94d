import QueryClient.Binary64.Basic
import QueryClient.Text.Loose
import QueryClient.Text.Quoted

/-!
# What is asked, and where

A **config** says where the query goes and what it asks for. From it the
client derives a **job**: the address to get, the named values to send along,
and how long to wait. The job is all that an invocation looks at.

A config never changes. `Config.edited` makes another one from it, and does
so only when every edit names a field there is.
-/

namespace QueryClient

/-- The address of a local server. -/
def defaultBaseUrl : Text := "http://localhost:8086".toList

/-- The path that queries go to. -/
def queryPath : Text := "/query".toList

/-- The database asked unless another is named. -/
def defaultDatabase : Text := "mydb".toList

/-- The query asked unless another is given. -/
def defaultQuery : Text :=
  "SELECT * FROM cpu WHERE host=\x27server03\x27 AND time < now() - 1d".toList

/-- A **config**: where the query goes and what it asks for. -/
structure Config where
  /-- The address of the server. -/
  baseUrl : Text := defaultBaseUrl
  /-- The path on the server. -/
  path : Text := queryPath
  /-- The database asked. -/
  database : LooseText := defaultDatabase
  /-- The query. -/
  query : LooseText := defaultQuery
  /-- Whether the answer shall be laid out for reading. -/
  pretty : Bool := true
  /-- How many seconds to wait; without a number as long as it takes. -/
  timeout : Option Binary64 := none
deriving DecidableEq

/-- How long to wait for an answer. -/
inductive Timeout where
  /-- As long as it takes. -/
  | unlimited
  /-- So many seconds. -/
  | seconds (x : Binary64)
  /-- No length of time was given where one was announced. -/
  | void
deriving DecidableEq

/-- A **job**: what one invocation does. -/
structure Job where
  /-- The address to get. -/
  url : Text
  /-- The named values to send along. -/
  params : List (Text × LooseText)
  /-- How long to wait. -/
  timeout : Timeout
deriving DecidableEq

namespace Config

/-- The address of the query: the base without slashes at its end, then the
path. -/
def url (c : Config) : Text :=
  Text.trimEnd '/' c.baseUrl ++ c.path

/-- The named values of the query. -/
def params (c : Config) : List (Text × LooseText) :=
  (if c.pretty then [("pretty".toList, Text.loose "true".toList)] else [])
    ++ [("db".toList, c.database), ("q".toList, c.query)]

/-- The **job** of a config. -/
def job (c : Config) : Job :=
  ⟨c.url, c.params, c.timeout.elim .unlimited .seconds⟩

/-- Whether two configs ask the same. Their waiting times are compared as
numbers. -/
def same (c d : Config) : Bool :=
  c.baseUrl == d.baseUrl && c.path == d.path && c.database == d.database
    && c.query == d.query && c.pretty == d.pretty
    && match c.timeout, d.timeout with
      | none, none => true
      | some x, some y => x.sameNumber y
      | _, _ => false

/-- An **edit** of one field, by its name. -/
inductive Edit where
  /-- Another server. -/
  | baseUrl (t : Text)
  /-- Another path. -/
  | path (t : Text)
  /-- Another database. -/
  | database (t : LooseText)
  /-- Another query. -/
  | query (t : LooseText)
  /-- Another choice of layout. -/
  | pretty (b : Bool)
  /-- Another waiting time. -/
  | timeout (x : Option Binary64)
  /-- A field that there is not. -/
  | unknown (name : Text)
deriving DecidableEq

/-- Why a config is not made or not changed. -/
inductive Fault where
  /-- There is no such field. -/
  | unknownField (name : Text)
  /-- Fields are not assigned to. -/
  | assigned (name : Text)
  /-- Fields are not deleted. -/
  | deleted (name : Text)
deriving DecidableEq

/-- The message of a fault. -/
def Fault.message : Fault → Text
  | .unknownField name =>
    "QueryConfig.__init__() got an unexpected keyword argument \x27".toList
      ++ name ++ ['\x27']
  | .assigned name => "cannot assign to field ".toList ++ Text.quoted name
  | .deleted name => "cannot delete field ".toList ++ Text.quoted name

/-- The config with one edit made. -/
def apply (c : Config) : Edit → Except Fault Config
  | .baseUrl t => .ok { c with baseUrl := t }
  | .path t => .ok { c with path := t }
  | .database t => .ok { c with database := t }
  | .query t => .ok { c with query := t }
  | .pretty b => .ok { c with pretty := b }
  | .timeout x => .ok { c with timeout := x }
  | .unknown name => .error (.unknownField name)

/-- The config **edited**, if all edits can be made. -/
def edited (c : Config) (edits : List Edit) : Except Fault Config :=
  edits.foldlM apply c

end Config

/-- The base of a query address that may already have the query path: the
text without slashes at its end, and then without that path at its end. -/
def baseOf (url : Text) : Text :=
  let trimmed := Text.trimEnd '/' url
  if queryPath.isSuffixOf trimmed then
    trimmed.take (trimmed.length - queryPath.length)
  else trimmed

end QueryClient
