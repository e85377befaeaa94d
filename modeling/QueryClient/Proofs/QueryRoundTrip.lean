import QueryClient.Proofs.LooseValues
import QueryClient.Proofs.WebAddress
import QueryClient.Url.PlainNames

/-!
# The query of a prepared address reads back

The named values are written as form text, and the form text goes into an
address together with a user, a host and a path that somebody wrote. Then
the whole address is requoted, and how that is done depends on every percent
sign in it. So the question is whether a path with a stray percent sign can
change what the query says.

It cannot. By the time the address is requoted its other parts are tidy
(`Address.parse_webAddress`), so the percent signs in them never trip up the
reading, and form text is settled. What is requoted is the front of the
address alone, and a reader who divides the address again finds the form
text where it was put: `query_prepared_eq_encode`.
-/

namespace QueryClient

open Url

namespace Url

/-- **An address of the web is printed as one would write it.** -/
theorem Reference.print_webAddress {secure : Bool}
    {authority path query : Text} (ha : authority ≠ [])
    (hp : path.head? = some '/') (hq : query ≠ []) :
    print ⟨webScheme secure, authority, path, [], query, []⟩
      = webScheme secure ++ ':' :: '/' :: '/'
        :: (authority ++ path ++ '?' :: query) := by
  have hs : webScheme secure ≠ [] := by cases secure <;> decide
  have hmarked : marked '?' query = '?' :: query := by
    rw [marked, List.isEmpty_eq_false_iff.mpr hq]
    rfl
  rw [print_joined hs ha hp, hmarked]
  show _ = _ ++ ':' :: '/' :: '/' :: _
  rw [show marked '#' [] = [] from rfl, List.append_nil]

end Url

namespace Request

/-- The authority of the address is tidy, and not empty. -/
theorem isTidy_writtenAuthority {a : Address} {host : Text}
    (huser : IsTidy a.user) (hhost : IsTidy host) (hne : host ≠ []) :
    IsTidy (writtenAuthority a host) ∧ writtenAuthority a host ≠ [] := by
  unfold writtenAuthority
  refine ⟨(IsTidy.append ?_ hhost).append ?_, ?_⟩
  · split
    · exact .nil
    · exact huser.append (.cons (by decide) rfl .nil)
  · split
    · exact .nil
    · exact .nil
    · refine .cons (by decide) rfl (.of_isUnreserved fun c hc => ?_)
      have hdigit : c.isDigit = true :=
        Nat.isDigit_of_mem_toDigits (by decide) (by decide) hc
      exact isUnreserved_of_isAlphanum (Text.isAlphanum_of_isDigit hdigit)
  · simp [hne]

/-- The path of the address is tidy, and rooted. -/
theorem isTidy_writtenPath {a : Address} (hpath : IsTidy a.path)
    (hroot : ∀ c ∈ a.path.head?, c = '/') :
    IsTidy (writtenPath a) ∧ (writtenPath a).head? = some '/' := by
  unfold writtenPath
  cases hp : a.path with
  | nil => exact ⟨.cons (by decide) rfl .nil, rfl⟩
  | cons c rest =>
    rw [hp] at hpath hroot
    exact ⟨hpath, congrArg some (hroot c rfl)⟩

/-- **The address that is put together**: its front is requoted, and the
named values stand behind it as they were written. -/
theorem assemble_webAddress {a : Address} {secure : Bool} {host : Text}
    {pairs : List (Text × Text)} (hs : a.scheme = webScheme secure)
    (hq : a.query = []) (hf : a.fragment = [])
    (hfront : IsTidy (writtenAuthority a host ++ writtenPath a))
    (hauthority : writtenAuthority a host ≠ [])
    (hroot : (writtenPath a).head? = some '/') (hpairs : pairs ≠ []) :
    assemble a host (Form.encode pairs)
      = webScheme secure ++ ':' :: '/' :: '/'
        :: (requote (writtenAuthority a host ++ writtenPath a)
          ++ '?' :: Form.encode pairs) := by
  have hform := Form.encode_ne_nil hpairs
  have hquery : writtenQuery a.query (Form.encode pairs) = Form.encode pairs := by
    rw [writtenQuery, hq, List.isEmpty_eq_false_iff.mpr hform]
    rfl
  have hsettled : IsSettled ('?' :: Form.encode pairs) :=
    (IsSettled.singleton (c := '?') (by decide)).append
      (Form.isSettled_encode pairs)
  have hkept : ∀ c ∈ '?' :: Form.encode pairs, isPlain c = true ∨ c = '%' := by
    rw [List.forall_mem_cons]
    exact ⟨.inl (by decide), fun c hc => Form.isPlain_of_mem_encode hc⟩
  show requote (Reference.print ⟨a.scheme, writtenAuthority a host,
    writtenPath a, [], writtenQuery a.query _, a.fragment⟩) = _
  rw [hs, hf, hquery, Reference.print_webAddress hauthority hroot hform,
    (isScheme_webScheme secure).1.requote_front,
    requote_append_of_isSettled hfront.escaped hsettled hkept]

/-- **The address of a job that is prepared.** -/
theorem prepareUrl_webAddress [Names] {url full : Text} {secure : Bool}
    {pairs : List (Text × Text)}
    (hs : Address.schemeOf (Text.trimBlankStart url) = webScheme secure)
    (hmark : '?' ∉ url) (hhash : '#' ∉ url)
    (hz : Address.isZoned (Text.trimBlankStart url) = false)
    (hpairs : pairs ≠ []) (h : prepareUrl url (loosePairs pairs) = .ok full) :
    ∃ front, IsTidy front
      ∧ full = webScheme secure ++ ':' :: '/' :: '/'
        :: (requote front ++ '?' :: Form.encode pairs) := by
  have hwithin : ∀ c ∈ Text.trimBlankStart url, endsPath c = false := by
    intro c hc
    have hc := List.dropWhile_subset _ hc
    unfold endsPath
    rw [Bool.or_eq_false_iff, beq_eq_false_iff_ne, beq_eq_false_iff_ne]
    exact ⟨fun e => hmark (e ▸ hc), fun e => hhash (e ▸ hc)⟩
  rw [prepareUrl_loosePairs, Address.isForeign_of_schemeOf hs] at h
  obtain ⟨⟨a, host⟩, husable, rfl⟩ := map_eq_ok_iff.mp h
  unfold usable at husable
  obtain ⟨parsed, hparse, husable⟩ := bind_eq_ok_iff.mp husable
  rw [mapError_eq_ok_iff] at hparse
  dsimp only at husable
  split at husable
  · cases husable
  split at husable
  · cases husable
  rename_i hhost
  obtain ⟨out, hout, husable⟩ := bind_eq_ok_iff.mp husable
  cases husable
  have hhost : a.host ≠ [] := fun hnil => hhost (by rw [hnil]; rfl)
  obtain ⟨hscheme, hq, hf, huser, htidy, hpath, hroot⟩ :=
    Address.parse_webAddress hs hwithin hz hparse
  obtain ⟨hauthority, hne⟩ := isTidy_writtenAuthority huser
    (isTidy_of_writtenHost hout htidy) (ne_nil_of_writtenHost hout hhost)
  obtain ⟨hpath, hroot⟩ := isTidy_writtenPath hpath hroot
  have hfront := hauthority.append hpath
  exact ⟨_, hfront,
    assemble_webAddress hscheme hq hf hfront hne hroot hpairs⟩

end Request

/-- **The query of a prepared address is the form text of the named
values**, and reads back as them. It does not matter what else the address
says: which characters its user and its path hold, and whether the percent
signs in them begin escapes. The named values are text, or there would be no
request. -/
theorem query_prepared_eq_encode [Names] {c : Config} {secure : Bool} {q : Request}
    (hs : Address.schemeOf (Text.trimBlankStart c.url) = webScheme secure)
    (hmark : '?' ∉ c.url) (hhash : '#' ∉ c.url)
    (hz : Address.isZoned (Text.trimBlankStart c.url) = false)
    (hq : c.job.request = .ok q) :
    ∃ r pairs, c.params = loosePairs pairs
      ∧ Reference.parse [] q.url = .ok r
      ∧ r.query = Form.encode pairs
      ∧ Form.decode r.query = pairs := by
  unfold Job.request Request.prepare at hq
  obtain ⟨full, hfull, hq⟩ := bind_eq_ok_iff.mp hq
  obtain ⟨authorization, hauth, hq⟩ := bind_eq_ok_iff.mp hq
  cases hq
  unfold Request.authorizationOf at hauth
  obtain ⟨r, hr, -⟩ := bind_eq_ok_iff.mp hauth
  rw [mapError_eq_ok_iff] at hr
  obtain ⟨pairs, hparams⟩ : ∃ pairs, c.params = loosePairs pairs :=
    Request.exists_pairs_of_prepareUrl
      (Address.isForeign_of_schemeOf hs) hfull
  have hpairs : pairs ≠ [] := by
    rintro rfl
    exact c.params_ne_nil hparams
  rw [show c.job.params = loosePairs pairs from hparams] at hfull
  obtain ⟨front, hfront, rfl⟩ :=
    Request.prepareUrl_webAddress hs hmark hhash hz hpairs hfull
  have hquery : r.query = Form.encode pairs := by
    -- where the front is divided again makes no difference to the query
    obtain ⟨r', hr', -, hsame⟩ := Reference.split_of_parse hr
    have hvisible : ∀ d ∈ requote front ++ Form.encode pairs,
        32 < d.toNat := by
      intro d hd
      obtain hd | hd := List.mem_append.mp hd
      · exact lt_toNat_of_mem_requote hd
      · exact lt_toNat_of_mem_encode hd
    rw [Reference.split_of_within secure
      (fun d hd => endsPath_of_mem_requote hfront.within hd)
      hash_notMem_encode hvisible] at hr'
    obtain ⟨-, -, rfl⟩ := map_eq_ok_iff.mp hr'
    exact hsame.symm
  refine ⟨r, pairs, hparams, hr, hquery, ?_⟩
  rw [hquery, Form.decode_encode hpairs]

section Plain
attribute [local instance] Names.plain

/-- A config with stray percent signs in front of the query, and with a
query that looks like form text itself. -/
def strayConfig : Config where
  baseUrl := "http://us%er@localhost:8086".toList
  path := "/100%/%41".toList
  database := "%zz".toList
  query := "a=%41&b=+ #?".toList

/-- The stray percent signs are escaped, and the query still reads back. -/
theorem query_prepared_eq_encode_stray :
    ∃ q r, strayConfig.job.request = .ok q
      ∧ Reference.parse [] q.url = .ok r
      ∧ strayConfig.params = loosePairs (Form.decode r.query) := by
  have hsome : strayConfig.job.request.toOption.isSome = true := by
    decide +kernel
  obtain ⟨q, hq⟩ := Option.isSome_iff_exists.mp hsome
  have hq := eq_ok_of_toOption hq
  have hs : Address.schemeOf (Text.trimBlankStart strayConfig.url)
      = webScheme false := by
    decide +kernel
  obtain ⟨r, pairs, hparams, hr, -, hdecode⟩ :=
    query_prepared_eq_encode hs (by decide +kernel) (by decide +kernel)
      (by decide +kernel) hq
  exact ⟨q, r, hq, hr, by rw [hdecode, hparams]⟩

end Plain

end QueryClient
