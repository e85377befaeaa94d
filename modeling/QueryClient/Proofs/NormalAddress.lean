import Mathlib.Data.List.DropRight
import QueryClient.Proofs.CommandLine
import QueryClient.Run

/-!
# The normal form of an address

A server may be given by its base, by its base with slashes behind it, or by the
whole address of the query. What is asked in the end is one address,
`normalAddress`. Two functions make it: `baseOf` takes slashes off the end and
then the query path, and `Config.url` takes slashes off once more, because there
may be some in front of the path. Neither is enough alone, and applied twice
`baseOf` can take off two paths.

Together they give a **normal form**: the query path behind a text that does not
end in a slash. `isNormalAddress_normalAddress` says that what they give is of this
form, and `normalAddress_of_isNormalAddress` that they leave such a text as it is.
All else comes from these two and from what happens to the two ends that can be
written behind an address.
-/

namespace QueryClient

/-! ## Trimmed texts -/

namespace Text

/-- What has been **trimmed** does not end in the character. -/
theorem getLast?_trimEnd_ne (c : Char) (t : Text) :
    (trimEnd c t).getLast? ≠ some c := by
  induction t using List.reverseRecOn with
  | nil => simp
  | append_singleton t d ih =>
    by_cases hd : d = c
    · rw [hd, trimEnd_append_self]
      exact ih
    · rw [trimEnd_append_of_ne hd, List.getLast?_concat]
      exact fun h => hd (Option.some.inj h)

/-- What does not end in the character is trimmed. -/
theorem trimEnd_of_getLast?_ne {c : Char} {t : Text}
    (h : t.getLast? ≠ some c) : trimEnd c t = t := by
  induction t using List.reverseRecOn with
  | nil => rfl
  | append_singleton t d _ =>
    rw [List.getLast?_concat] at h
    exact trimEnd_append_of_ne (fun hd => h (congrArg some hd)) t

/-- Trimming shortens a text or leaves it as it is. -/
theorem length_trimEnd_le (c : Char) (t : Text) :
    (trimEnd c t).length ≤ t.length := by
  have hprefix : trimEnd c t <+: t := List.rdropWhile_prefix (· == c) t
  exact hprefix.length_le

end Text

/-- The query path does not end in a slash, so nothing that ends in it is
trimmed. -/
theorem trimEnd_append_queryPath (front : Text) :
    Text.trimEnd '/' (front ++ queryPath) = front ++ queryPath := by
  refine Text.trimEnd_of_getLast?_ne ?_
  rw [List.getLast?_append_of_ne_nil _ (by decide)]
  decide

/-! ## The normal form -/

/-- The **normal address** for a server given as a text: the address of the query
to it. -/
def normalAddress (s : Text) : Text :=
  ({ baseUrl := baseOf s, path := queryPath } : Config).url

/-- Whether an address is **normal**: the query path, behind a text that does not
end in a slash. -/
def IsNormalAddress (u : Text) : Prop :=
  ∃ r : Text, u = r ++ queryPath ∧ r.getLast? ≠ some '/'

/-- **One query path is taken off**, and the slashes in front of it. -/
theorem normalAddress_of_trimEnd_eq {s front : Text}
    (h : Text.trimEnd '/' s = front ++ queryPath) :
    normalAddress s = Text.trimEnd '/' front ++ queryPath := by
  have hbase : baseOf s = front := by
    unfold baseOf
    rw [h]
    dsimp only
    rw [if_pos (List.isSuffixOf_iff_suffix.mpr (List.suffix_append ..)),
      List.length_append, Nat.add_sub_cancel, List.take_left]
  rw [normalAddress, hbase]
  rfl

/-- **Without a query path**, slashes are all that is taken off. -/
theorem normalAddress_of_not_suffix {s : Text}
    (h : ¬queryPath <:+ Text.trimEnd '/' s) :
    normalAddress s = Text.trimEnd '/' s ++ queryPath := by
  have hbase : baseOf s = Text.trimEnd '/' s :=
    if_neg (mt List.isSuffixOf_iff_suffix.mp h)
  have htrimmed : Text.trimEnd '/' (Text.trimEnd '/' s) = Text.trimEnd '/' s :=
    Text.trimEnd_of_getLast?_ne (Text.getLast?_trimEnd_ne '/' s)
  rw [normalAddress, hbase]
  unfold Config.url
  dsimp only
  rw [htrimmed]

/-- **What is asked is normal.** -/
theorem isNormalAddress_normalAddress (s : Text) :
    IsNormalAddress (normalAddress s) := by
  by_cases h : queryPath <:+ Text.trimEnd '/' s
  · obtain ⟨front, hfront⟩ := h
    exact ⟨_, normalAddress_of_trimEnd_eq hfront.symm,
      Text.getLast?_trimEnd_ne '/' front⟩
  · exact ⟨_, normalAddress_of_not_suffix h, Text.getLast?_trimEnd_ne '/' s⟩

/-- **What is normal stays as it is.** -/
theorem normalAddress_of_isNormalAddress {u : Text} (h : IsNormalAddress u) :
    normalAddress u = u := by
  obtain ⟨r, rfl, hr⟩ := h
  rw [normalAddress_of_trimEnd_eq (trimEnd_append_queryPath r),
    Text.trimEnd_of_getLast?_ne hr]

/-- Just what is normal does. -/
theorem normalAddress_eq_self_iff {u : Text} :
    normalAddress u = u ↔ IsNormalAddress u :=
  ⟨fun h => h ▸ isNormalAddress_normalAddress u, normalAddress_of_isNormalAddress⟩

/-! ## What is written behind an address -/

/-- **Slashes behind an address** make no difference. -/
theorem normalAddress_append_replicate (s : Text) (k : Nat) :
    normalAddress (s ++ List.replicate k '/') = normalAddress s := by
  unfold normalAddress baseOf
  rw [Text.trimEnd_append_replicate]

/-- **A query path behind an address**, and slashes behind that, come off. -/
theorem normalAddress_append_queryPath (t : Text) (k : Nat) :
    normalAddress (t ++ queryPath ++ List.replicate k '/')
      = Text.trimEnd '/' t ++ queryPath := by
  rw [normalAddress_append_replicate,
    normalAddress_of_trimEnd_eq (trimEnd_append_queryPath t)]

/-- **A query path behind an address makes no difference just if there is none
already.** Of two paths one stays. -/
theorem normalAddress_append_queryPath_eq_iff {t : Text} (k : Nat) :
    normalAddress (t ++ queryPath ++ List.replicate k '/') = normalAddress t
      ↔ ¬queryPath <:+ Text.trimEnd '/' t := by
  rw [normalAddress_append_queryPath]
  constructor
  · rintro h ⟨front, hfront⟩
    rw [normalAddress_of_trimEnd_eq hfront.symm] at h
    have hlonger : front ++ queryPath = Text.trimEnd '/' front :=
      hfront.trans (List.append_cancel_right h)
    have hlength := congrArg List.length hlonger
    have hle := Text.length_trimEnd_le '/' front
    have hpos : 0 < queryPath.length := by decide
    rw [List.length_append] at hlength
    omega
  · exact fun h => (normalAddress_of_not_suffix h).symm

/-! ## Runs -/

/-- **A run asks the normal address** for its server. -/
theorem job?_url (a : Arguments) (s : Text) :
    { a with url := some s }.job?
      = some ⟨normalAddress s, a.params, a.timeout⟩ := rfl

/-- So nothing else about the text for the server makes a difference to a run. -/
theorem Run.ofArguments_congr [Carrier] {s s' : Text}
    (h : normalAddress s = normalAddress s') (logger : Text) (root : Root)
    (now : Nat) (a : Arguments) (outlet : Outlet) (events : List Event) :
    ofArguments logger root now { a with url := some s } outlet events
      = ofArguments logger root now { a with url := some s' } outlet events := by
  unfold ofArguments
  rw [job?_url, job?_url, h]
  rfl

/-- **Every address has one normal form.** The address asked for a server given as
a text is the query path behind a text that does not end in a slash. It is not
changed by slashes behind the text, and it is not changed by a query path there,
unless one is there already; so a path is never doubled. The address asked is itself
another way to give the server: it stands for itself, as every normal address does
and no other, and a run is the same with it. -/
theorem normalAddress_isNormalForm [Carrier] (s : Text) :
    normalAddress (normalAddress s) = normalAddress s
      ∧ (∃ r : Text, normalAddress s = r ++ queryPath ∧ r.getLast? ≠ some '/')
      ∧ (∀ k, normalAddress (s ++ List.replicate k '/') = normalAddress s)
      ∧ (∀ k, normalAddress (s ++ queryPath ++ List.replicate k '/')
          = normalAddress s ↔ ¬queryPath <:+ Text.trimEnd '/' s)
      ∧ (normalAddress s = s ↔ IsNormalAddress s)
      ∧ ∀ (logger : Text) (root : Root) (now : Nat) (a : Arguments)
          (outlet : Outlet) (events : List Event),
        Run.ofArguments logger root now { a with url := some (normalAddress s) }
            outlet events
          = Run.ofArguments logger root now { a with url := some s } outlet
            events := by
  have hnormal := isNormalAddress_normalAddress s
  have hidem := normalAddress_of_isNormalAddress hnormal
  exact ⟨hidem, hnormal, normalAddress_append_replicate s,
    normalAddress_append_queryPath_eq_iff, normalAddress_eq_self_iff,
    Run.ofArguments_congr hidem⟩

/-- Slashes in front of the path come off, and of two paths one stays. -/
example : normalAddress "http://h//query/".toList = "http://h/query".toList
    ∧ normalAddress "http://h/query/query".toList
      = "http://h/query/query".toList := by
  decide

end QueryClient
