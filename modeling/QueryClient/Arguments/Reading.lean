import QueryClient.Arguments.Token
import QueryClient.Binary64.Reader
import QueryClient.Config

/-!
# Reading a command line

The tokens are gone through from left to right. A flag with its value sets
one field of the **arguments**, and the last one of its kind counts. Help,
once it is reached, ends the reading, and so does the first fault; what
belongs to no flag is collected and is a fault at the end.

A value that is exactly `--` is dropped, and the field is then left without
a value.
-/

namespace QueryClient

/-- The **arguments** of a command line. A field is `none` where its value
was dropped. -/
structure Arguments where
  /-- The address of the server. -/
  url : Option Text := some defaultBaseUrl
  /-- The database. -/
  db : Option LooseText := some defaultDatabase
  /-- The query. -/
  query : Option LooseText := some defaultQuery
  /-- Whether the answer shall be laid out for reading. -/
  pretty : Bool := true
  /-- How long to wait. -/
  timeout : Timeout := .unlimited
  /-- The threshold of the log, as the name of a level. -/
  logLevel : Option Text := some Severity.warning.name
deriving DecidableEq

namespace Arguments

/-- Why reading **stops** short. -/
inductive Stop where
  /-- Help was asked for. -/
  | help
  /-- Something is wrong. -/
  | fault (f : Fault)
deriving DecidableEq, Repr

/-- The waiting time that a value writes. -/
def readTimeout : Option Text → Except Fault Timeout
  | none => .ok .void
  | some t => (Binary64.ofText? t).elim (.error (.notNumber t)) (.ok ∘ .seconds)

/-- The name of the level that a value writes, in capitals. -/
def readLevel : Option Text → Except Fault (Option Text)
  | none => .ok none
  | some t =>
    let upper := Text.upper t
    if (Severity.ofName? upper).isSome then .ok (some upper)
    else .error (.notLevel upper)

/-- A value, unless it is to be dropped. -/
def kept (value : Text) : Option Text :=
  if value = Token.separatorText then none else some value

/-- The arguments with the value of a flag set. -/
def set (a : Arguments) (f : Flag) (value : Text) : Except Fault Arguments :=
  match f with
  | .url => .ok { a with url := kept value }
  | .db => .ok { a with db := (kept value).map Text.loose }
  | .query => .ok { a with query := (kept value).map Text.loose }
  | .timeout => (readTimeout (kept value)).map fun t => { a with timeout := t }
  | .logLevel => (readLevel (kept value)).map fun l => { a with logLevel := l }
  | .help | .noPretty => .ok a

/-- The arguments with a flag without a value set; help stops. -/
def mark (a : Arguments) : Flag → Except Stop Arguments
  | .help => .error .help
  | .noPretty => .ok { a with pretty := false }
  | _ => .ok a

/-- Whether the next token is a value. -/
def valueFollows : List Token → Bool
  | .value _ :: _ => true
  | _ => false

/-- Goes through the short flags run together behind the flag `f`, which
takes no value; `follows` says whether a value follows. -/
def checkRun (f : Flag) (follows : Bool) : Text → Except Fault Unit
  | [] => .ok ()
  | c :: rest =>
    match Flag.ofSpelling? ['-', c] with
    | none => .error (.ignoredValue f (c :: rest))
    | some g =>
      if !g.takesValue then checkRun g follows rest
      else if rest.isEmpty && !follows then .error (.expectedValue g)
      else .ok ()

/-- What a value attached to a flag that takes none comes to: short flags
may be run together, anything else is refused. -/
def checkAttached (f : Flag) (spelling : Text) (follows : Bool)
    (attached : Text) : Except Fault Unit :=
  if Flag.isLong spelling || attached.isEmpty then
    .error (.ignoredValue f attached)
  else checkRun f follows attached

/-- The state of reading: the arguments so far, and what belongs to no
flag. -/
structure Reading where
  /-- The arguments so far. -/
  arguments : Arguments := {}
  /-- What belongs to no flag, the latest first. -/
  strays : List Text := []

/-- The reading with a stray more. -/
def Reading.stray (r : Reading) (t : Text) : Reading :=
  { r with strays := t :: r.strays }

/-- The reading with the value of a flag set. -/
def Reading.set (r : Reading) (f : Flag) (value : Text) :
    Except Stop Reading :=
  ((r.arguments.set f value).mapError .fault).map fun a =>
    { r with arguments := a }

/-- The reading with a flag without a value set. -/
def Reading.mark (r : Reading) (f : Flag) : Except Stop Reading :=
  (r.arguments.mark f).map fun a => { r with arguments := a }

/-- **Reads** the tokens from left to right. -/
def readTokens (r : Reading) : List Token → Except Stop Reading
  | [] => .ok r
  | .value t :: rest => readTokens (r.stray t) rest
  | .unknown t :: rest => readTokens (r.stray t) rest
  | .separator :: rest => readTokens (r.stray Token.separatorText) rest
  | .flag f spelling (some attached) :: rest =>
    if f.takesValue then do readTokens (← r.set f attached) rest
    else do
      (checkAttached f spelling (valueFollows rest) attached).mapError .fault
      readTokens (← r.mark f) rest
  | .flag f _ none :: .value v :: rest =>
    if f.takesValue then do readTokens (← r.set f v) rest
    else do readTokens (← r.mark f) (.value v :: rest)
  | .flag f _ none :: rest =>
    if f.takesValue then .error (.fault (.expectedValue f))
    else do readTokens (← r.mark f) rest

/-- The arguments of a finished reading, if there are no strays. -/
def Reading.finish (r : Reading) : Except Stop Arguments :=
  if r.strays.isEmpty then .ok r.arguments
  else .error (.fault (.unrecognized r.strays.reverse))

/-- **Reads** a command line. -/
def read (arguments : List Text) : Except Stop Arguments := do
  let tokens ← (Token.ofArguments arguments).mapError .fault
  (← readTokens {} tokens).finish

end Arguments
end QueryClient
