import QueryClient.Url.Escape

/-!
# Names beyond ASCII

A host name may be written in any script, but it travels in ASCII. Which names
there are and in what form they travel is settled by tables that grow with every
edition of Unicode, and by rules that have changed before. None of this is decided
here: it comes with the library in use, as `Names`.

What is relied on is that a form in which something travels can be put anywhere in
an address. It is not empty, and all its characters are unreserved.
-/

namespace QueryClient.Url

/-- A text that may **travel** as a host, or as a label of one. -/
structure Travels (t : Text) : Prop where
  /-- It is not empty. -/
  ne_nil : t ≠ []
  /-- Its characters mean the same wherever they stand. -/
  unreserved : ∀ c ∈ t, isUnreserved c = true

/-- How **names** beyond ASCII travel. -/
class Names where
  /-- The form in which a label travels, if it is one. -/
  label? : Text → Option Text
  /-- The form in which a whole name travels, if it is one. It is looked at in
  another way than a label by itself. -/
  name? : Text → Option Text
  /-- The form of a label may travel. -/
  travels_label : ∀ {label out : Text}, label? label = some out → Travels out
  /-- The form of a name may travel. -/
  travels_name : ∀ {name out : Text}, name? name = some out → Travels out

end QueryClient.Url
