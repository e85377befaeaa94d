import QueryClient.Arguments.Flag
import QueryClient.Log.Level
import QueryClient.Text.Quoted

/-!
# What is wrong with a command line

A command line that is not accepted is answered with the usage and one
sentence about the first thing that is wrong.
-/

namespace QueryClient.Arguments

/-- What is **wrong** with a command line. -/
inductive Fault where
  /-- The spelling could be cut short from several. -/
  | ambiguous (written : Text) (candidates : List Text)
  /-- The flag lacks its value. -/
  | expectedValue (f : Flag)
  /-- A value is attached to a flag that takes none. -/
  | ignoredValue (f : Flag) (value : Text)
  /-- The waiting time is no number. -/
  | notNumber (written : Text)
  /-- The threshold of the log, in capitals, is no level. -/
  | notLevel (upper : Text)
  /-- There are arguments that belong to no flag. -/
  | unrecognized (arguments : List Text)
deriving DecidableEq, Repr

/-- A sentence about one flag. -/
def aboutFlag (f : Flag) (sentence : Text) : Text :=
  "argument ".toList ++ f.name ++ ": ".toList ++ sentence

/-- The sentence about what is wrong. -/
def Fault.message : Fault → Text
  | .ambiguous written candidates =>
    "ambiguous option: ".toList ++ written ++ " could match ".toList
      ++ Text.joinFields ", ".toList candidates
  | .expectedValue f => aboutFlag f "expected one argument".toList
  | .ignoredValue f value =>
    aboutFlag f ("ignored explicit argument ".toList ++ Text.quoted value)
  | .notNumber written =>
    aboutFlag .timeout ("invalid float value: ".toList ++ Text.quoted written)
  | .notLevel upper =>
    aboutFlag .logLevel ("invalid choice: ".toList ++ Text.quoted upper
      ++ " (choose from ".toList
      ++ Text.joinFields ", ".toList
        (Severity.all.map fun s => Text.quoted s.name)
      ++ [')'])
  | .unrecognized arguments =>
    "unrecognized arguments: ".toList ++ Text.joinFields [' '] arguments

end QueryClient.Arguments
