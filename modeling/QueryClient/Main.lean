import QueryClient.Exchange.PlainCarrier
import QueryClient.Run
import Std.Time.DateTime.Timestamp

/-!
# The program

The program reads its arguments from the command line and writes the answer
to its output. Speaking to a network is no part of this library, so the
standard input stands for the server: what is read there is the body of the
one reply that comes back.
-/

namespace QueryClient

/-- The reply whose body is given. -/
def replyOf (body : List UInt8) : Reply :=
  { status := 200, reason := some "OK".toList, headers := [], body }

/-- All octets of a stream, with those already read in front. -/
partial def readAll (stream : IO.FS.Stream) (before : ByteArray) :
    IO ByteArray := do
  let more ← stream.read 65536
  if more.isEmpty then return before else readAll stream (before ++ more)

/-- The milliseconds since the beginning of 1970. -/
def currentMoment : IO Nat := do
  let now ← Std.Time.Timestamp.now
  return now.toMillisecondsSinceUnixEpoch.toInt.toNat

end QueryClient

open QueryClient in
/-- **The program**: one run, with its effects carried out. -/
def main (arguments : List String) : IO UInt32 := do
  let words := arguments.map String.toList
  let body ← match Arguments.read words with
    | .ok _ => readAll (← IO.getStdin) .empty
    | .error _ => pure .empty
  let now ← currentMoment
  let run := letI := Carrier.plain
    Run.start Run.logger {} now words .output [.reply (replyOf body.toList)]
  let output ← IO.getStdout
  output.write (ByteArray.mk run.output.toArray)
  output.flush
  let errors ← IO.getStderr
  errors.putStr (String.ofList (textOn .errors run.streams))
  match run.ending with
  | .returned status | .exited status => return UInt32.ofNat status
  | .raised failure =>
    errors.putStrLn (String.ofList failure.message)
    return 1
