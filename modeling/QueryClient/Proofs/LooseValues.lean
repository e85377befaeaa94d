import QueryClient.Proofs.Attempt
import QueryClient.Request

/-!
# Named values that are no text

The named values of a query come from outside, and nothing makes sure that they
are text. They are looked at when the address is known to be usable, and the first
one that is none is the failure of the request. An address that is taken as it is
gets no named values, so there they are not looked at.

`Request.prepareUrl_eq_ok_iff` and `Request.prepareUrl_eq_error_iff` say this of
any named values, and `Request.prepareUrl_loosePairs` what is left of it where they
are text.
-/

namespace QueryClient

open Url

/-- Named values that are text are read as what they are. -/
@[simp] theorem readPairs_loosePairs (pairs : List (Text × Text)) :
    readPairs (loosePairs pairs) = .ok pairs := by
  induction pairs with
  | nil => rfl
  | cons p pairs ih =>
    unfold readPairs loosePairs at ih ⊢
    rw [List.map_cons, List.mapM_cons, ih, LooseText.toText_loose]
    rfl

/-- **No others are read.** -/
theorem readPairs_eq_ok_iff {params : List (Text × LooseText)}
    {pairs : List (Text × Text)} :
    readPairs params = .ok pairs ↔ params = loosePairs pairs := by
  refine ⟨fun h => ?_, fun h => h ▸ readPairs_loosePairs pairs⟩
  induction params generalizing pairs with
  | nil =>
    cases h
    rfl
  | cons p params ih =>
    obtain ⟨name, value⟩ := p
    unfold readPairs at h
    rw [List.mapM_cons] at h
    obtain ⟨_, hp, h⟩ := bind_eq_ok_iff.mp h
    obtain ⟨rest, hrest, h⟩ := bind_eq_ok_iff.mp h
    obtain ⟨t, ht, rfl⟩ := map_eq_ok_iff.mp hp
    cases h
    have hvalue : value = t.loose := LooseText.toText_eq_ok_iff.mp ht
    rw [hvalue, ih hrest]
    rfl

namespace Request

variable {url full : Text} {params : List (Text × LooseText)}
  {f : RequestFault}

/-- **The address of a request**: taken as it is, or put together from a usable
one and from named values that are text. -/
theorem prepareUrl_eq_ok_iff [Names] :
    prepareUrl url params = .ok full
      ↔ (isForeign (Text.trimBlankStart url) = true
          ∧ full = Text.trimBlankStart url)
        ∨ (isForeign (Text.trimBlankStart url) = false
          ∧ ∃ a host pairs, usable (Text.trimBlankStart url) = .ok (a, host)
            ∧ params = loosePairs pairs
            ∧ full = assemble a host (Form.encode pairs)) := by
  unfold prepareUrl
  dsimp only
  cases isForeign (Text.trimBlankStart url) with
  | true => simp [eq_comm]
  | false =>
    simp only [Bool.false_eq_true, if_false, false_and, false_or, true_and]
    constructor
    · intro h
      obtain ⟨⟨a, host⟩, husable, h⟩ := bind_eq_ok_iff.mp h
      obtain ⟨pairs, hpairs, h⟩ := bind_eq_ok_iff.mp h
      cases h
      rw [mapError_eq_ok_iff, readPairs_eq_ok_iff] at hpairs
      exact ⟨a, host, pairs, husable, hpairs, rfl⟩
    · rintro ⟨a, host, pairs, husable, rfl, rfl⟩
      rw [husable, ok_bind, readPairs_loosePairs]
      rfl

/-- **It is not there exactly if** the address that is given is not taken as it is
and either is not usable or meets a named value that is no text. -/
theorem prepareUrl_eq_error_iff [Names] :
    prepareUrl url params = .error f
      ↔ isForeign (Text.trimBlankStart url) = false
        ∧ (usable (Text.trimBlankStart url) = .error f
          ∨ ∃ found g, usable (Text.trimBlankStart url) = .ok found
            ∧ readPairs params = .error g ∧ f = .value g) := by
  unfold prepareUrl
  dsimp only
  cases isForeign (Text.trimBlankStart url) with
  | true => simp
  | false =>
    simp only [Bool.false_eq_true, if_false, true_and]
    rw [bind_eq_error_iff]
    refine or_congr_right ⟨?_, ?_⟩
    · rintro ⟨found, husable, h⟩
      obtain h | ⟨pairs, -, h⟩ := bind_eq_error_iff.mp h
      · obtain ⟨g, hg, rfl⟩ := mapError_eq_error_iff.mp h
        exact ⟨found, g, husable, hg, rfl⟩
      · cases h
    · rintro ⟨found, g, husable, hg, rfl⟩
      refine ⟨found, husable, ?_⟩
      rw [hg]
      rfl

/-- An address that gets named values gets text. -/
theorem exists_pairs_of_prepareUrl [Names]
    (hforeign : isForeign (Text.trimBlankStart url) = false)
    (h : prepareUrl url params = .ok full) :
    ∃ pairs, params = loosePairs pairs := by
  obtain ⟨hf, -⟩ | ⟨-, a, host, pairs, -, hparams, -⟩ := prepareUrl_eq_ok_iff.mp h
  · rw [hforeign] at hf
    cases hf
  · exact ⟨pairs, hparams⟩

/-- With named values that are text, only the address can be at fault. -/
theorem prepareUrl_loosePairs [Names] (url : Text) (pairs : List (Text × Text)) :
    prepareUrl url (loosePairs pairs)
      = if isForeign (Text.trimBlankStart url) then
          .ok (Text.trimBlankStart url)
        else (usable (Text.trimBlankStart url)).map fun found =>
          assemble found.1 found.2 (Form.encode pairs) := by
  unfold prepareUrl
  dsimp only
  rw [readPairs_loosePairs]
  split
  · rfl
  · cases usable (Text.trimBlankStart url) <;> rfl

end Request

/-! ## Configs -/

namespace Config

/-- There are always named values. -/
theorem params_ne_nil (c : Config) : c.params ≠ [] :=
  List.append_ne_nil_of_right_ne_nil _ (List.cons_ne_nil _ _)

theorem ne_nil_of_params (c : Config) {pairs : List (Text × Text)}
    (h : c.params = loosePairs pairs) : pairs ≠ [] := by
  rintro rfl
  exact c.params_ne_nil h

end Config
end QueryClient
