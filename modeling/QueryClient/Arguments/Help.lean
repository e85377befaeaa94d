import QueryClient.Arguments.Reading

/-!
# Usage and help

What the command line answers by itself: the usage, the help, and the usage
with a sentence about what is wrong.
-/

namespace QueryClient.Arguments

/-- The lines, each with its end. -/
def lines (l : List String) : Text :=
  l.flatMap fun line => line.toList ++ ['\n']

/-- The **usage**. -/
def usageText : Text :=
  lines [
    "usage: influx-query [-h] [--url URL] [--db DB] [-q QUERY] [--no-pretty]",
    "                    [--timeout TIMEOUT]",
    "                    [--log-level \x7bDEBUG,INFO,WARNING,ERROR,CRITICAL\x7d]"]

/-- The **help**. -/
def helpText : Text :=
  usageText ++ lines [
    "",
    "Run an InfluxQL query against InfluxDB\x27s /query endpoint",
    "",
    "options:",
    "  -h, --help            show this help message and exit",
    "  --url URL             InfluxDB scheme, host and port, e.g.",
    "                        http://localhost:8086 (the /query path is added)",
    "  --db DB               Database name",
    "  -q QUERY, --query QUERY",
    "                        InfluxQL query text",
    "  --no-pretty           Do not ask the server for pretty-printed JSON",
    "  --timeout TIMEOUT     Request timeout in seconds (default: wait",
    "                        indefinitely)",
    "  --log-level \x7bDEBUG,INFO,WARNING,ERROR,CRITICAL\x7d",
    "                        Logging level (logs go to stderr)"]

/-- The usage with a sentence about what is wrong. -/
def complaint (f : Fault) : Text :=
  usageText ++ "influx-query: error: ".toList ++ f.message ++ ['\n']

/-- How reading that stops short is **answered**: the exit status, what goes
to the output, and what goes to the stream for errors. -/
structure Answer where
  /-- The exit status. -/
  status : Nat
  /-- What goes to the output. -/
  output : Text
  /-- What goes to the stream for errors. -/
  errors : Text
deriving DecidableEq, Repr

/-- The **answer** to reading that stops short. -/
def Stop.answer : Stop → Answer
  | .help => ⟨0, helpText, []⟩
  | .fault f => ⟨2, [], complaint f⟩

end QueryClient.Arguments
