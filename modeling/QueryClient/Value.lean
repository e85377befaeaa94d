import QueryClient.Binary64.Style
import QueryClient.Text.Quoted

/-!
# Values

A level for the log, or an argument of an error, may come as a **value** of
any kind that structured data knows. Values are here only to be shown: by
themselves, where a text stands without quotes, or inside another value,
where it is quoted.
-/

namespace QueryClient

/-- A **value** of structured data. -/
inductive Value where
  /-- Nothing. -/
  | null
  /-- A truth value. -/
  | bool (b : Bool)
  /-- A whole number. -/
  | int (n : Int)
  /-- A binary number. -/
  | float (x : Binary64)
  /-- A text. -/
  | text (t : Text)
  /-- A list of values. -/
  | list (items : List Value)
  /-- Named values in their order. -/
  | object (entries : List (Text × Value))

namespace Value

mutual

/-- The value as it stands inside another. -/
def quoted : Value → Text
  | .null => "None".toList
  | .bool true => "True".toList
  | .bool false => "False".toList
  | .int n => Text.ofInt n
  | .float x => x.shown
  | .text t => Text.quoted t
  | .list items => '[' :: Text.joinFields ", ".toList (quotedItems items) ++ [']']
  | .object entries =>
    '\x7b' :: Text.joinFields ", ".toList (quotedEntries entries) ++ ['\x7d']

/-- The items of a list, each as it stands there. -/
def quotedItems : List Value → List Text
  | [] => []
  | v :: rest => v.quoted :: quotedItems rest

/-- The entries of an object, each name with its value. -/
def quotedEntries : List (Text × Value) → List Text
  | [] => []
  | (name, v) :: rest =>
    (Text.quoted name ++ ": ".toList ++ v.quoted) :: quotedEntries rest

end

/-- The value **by itself**: a text without quotes, anything else as it
stands inside another value. -/
def shown : Value → Text
  | .text t => t
  | v => v.quoted

end Value
end QueryClient
