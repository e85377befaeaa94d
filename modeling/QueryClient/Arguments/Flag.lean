import QueryClient.Text.Basic

/-!
# Flags

The command line knows seven **flags**. Each has one or two spellings; some
take a value and some do not. Long spellings may be cut short as long as it
stays clear which is meant.
-/

namespace QueryClient.Arguments

/-- The **flags** of the command line. -/
inductive Flag where
  /-- Asks for help. -/
  | help
  /-- The address of the server. -/
  | url
  /-- The database. -/
  | db
  /-- The query. -/
  | query
  /-- Asks for an answer that is not laid out for reading. -/
  | noPretty
  /-- How long to wait. -/
  | timeout
  /-- The threshold of the log. -/
  | logLevel
deriving DecidableEq, Repr

namespace Flag

/-- The flags in the order in which they are explained. -/
def all : List Flag :=
  [help, url, db, query, noPretty, timeout, logLevel]

/-- The spellings of a flag, the short one first. -/
def spellings : Flag → List Text
  | help => ["-h".toList, "--help".toList]
  | url => ["--url".toList]
  | db => ["--db".toList]
  | query => ["-q".toList, "--query".toList]
  | noPretty => ["--no-pretty".toList]
  | timeout => ["--timeout".toList]
  | logLevel => ["--log-level".toList]

/-- Whether the flag takes a value. -/
def takesValue : Flag → Bool
  | help | noPretty => false
  | _ => true

/-- The flag as messages name it. -/
def name (f : Flag) : Text :=
  Text.joinFields ['/'] f.spellings

/-- All spellings with what they mean. -/
def table : List (Text × Flag) :=
  all.flatMap fun f => f.spellings.map (·, f)

/-- The flag of an exact spelling. -/
def ofSpelling? (t : Text) : Option Flag :=
  (table.find? (·.1 == t)).map (·.2)

/-- Whether the text begins with two hyphens. -/
def isLong (t : Text) : Bool :=
  ['-', '-'].isPrefixOf t

end Flag
end QueryClient.Arguments
