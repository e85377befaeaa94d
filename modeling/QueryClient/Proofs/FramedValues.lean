import QueryClient.Proofs.RequotedParts
import QueryClient.Proofs.UsableAddress
import QueryClient.Proofs.WrittenAddress
import QueryClient.Url.PlainNames

/-!
# The frame around the named values

The named values of a query come from anybody, and the address they are put
into from somebody who is trusted. So it matters that they stay in their
place. The address with the place left open is a `Frame`: what stands in
front of the form text and what stands behind it. It is worked out from the
address alone (`Request.exists_frame`), and whatever form text is filled in,
a reader finds it in the query, behind the same text, and everything else
where it was (`Frame.split_fill`).

Requoting looks at the whole address, form text included, so at first sight
it could carry something over. But the address is parted around the form
text, and form text is settled: whether a percent sign is misused somewhere
is decided by the frame.

A request therefore fails or succeeds with any values as it does with others,
and two requests for the same address differ in the values only:
`request_of_same_address`.
-/

namespace QueryClient

open Url

/-- A **frame**: an address with a place for form text in its query. -/
structure Frame where
  /-- The scheme. -/
  scheme : Text
  /-- The authority and the path. -/
  front : Text
  /-- The query in front of the place. -/
  before : Text
  /-- What follows the query. -/
  back : Text
  /-- Whether a percent sign was misused. -/
  misused : Bool
  /-- The scheme is one. -/
  isScheme : IsScheme scheme
  /-- It is in lower case. -/
  lower : Text.lowerAscii scheme = scheme
  /-- Nothing in front of the query ends a path. -/
  within : ∀ c ∈ front, endsPath c = false
  /-- Nothing in front of the place begins a fragment. -/
  hash : '#' ∉ before
  /-- The place is at the beginning of the query, or behind a mark. -/
  marked : before = [] ∨ before.getLast? = some '&'
  /-- A fragment follows, or nothing. -/
  fragment : ∀ c ∈ back.head?, c = '#'
  /-- All of it is written. -/
  written : IsWritten (front ++ before ++ back)

namespace Frame

/-- Form text as it stands in an address: as it is, or with its percent
signs escaped once more. -/
def write (misused : Bool) (form : Text) : Text :=
  if misused then escape isPlain form else form

/-- The address with form text in its place. -/
def fill (f : Frame) (form : Text) : Text :=
  f.scheme ++ ':' :: '/' :: '/'
    :: (f.front ++ '?' :: (f.before ++ write f.misused form ++ f.back))

/-- The authority of a frame. -/
def authority (f : Frame) : Text :=
  f.front.takeWhile (!Reference.endsAuthority ·)

/-- The parts of a frame with form text in its place. -/
def parts (f : Frame) (form : Text) : Reference where
  scheme := f.scheme
  authority := f.authority
  path := f.front.dropWhile (!Reference.endsAuthority ·)
  params := []
  query := f.before ++ write f.misused form
  fragment := f.back.tail

/-- Form text in an address is written, and begins no fragment. -/
theorem isWritten_write (misused : Bool) (pairs : List (Text × Text)) :
    IsWritten (write misused (Form.encode pairs))
      ∧ '#' ∉ write misused (Form.encode pairs) := by
  unfold write
  split
  · refine ⟨fun c hc => ?_, fun hh => ?_⟩
    · obtain ⟨-, hc⟩ | rfl | hc := mem_escape hc
      · exact .inl hc
      · exact .inr rfl
      · exact .inl (isPlain_of_isUnreserved hc)
    · obtain ⟨hh, -⟩ | hh | hh := mem_escape hh
      · exact hash_notMem_encode hh
      · exact absurd hh (by decide)
      · exact absurd hh (by decide)
  · exact ⟨fun c hc => Form.isPlain_of_mem_encode hc, hash_notMem_encode⟩

/-- **Form text is found where it was filled in**, and all else where it
was. -/
theorem split_fill (f : Frame) (pairs : List (Text × Text)) :
    Reference.split [] (f.fill (Form.encode pairs))
      = (Authority.check f.authority).map fun _ =>
        f.parts (Form.encode pairs) := by
  obtain ⟨hform, hhash⟩ := isWritten_write f.misused pairs
  have hq : '#' ∉ f.before ++ write f.misused (Form.encode pairs) := by
    rw [List.mem_append, not_or]
    exact ⟨f.hash, hhash⟩
  have hwritten : IsWritten (f.front ++ '?'
      :: (f.before ++ write f.misused (Form.encode pairs) ++ f.back)) := by
    have hw := f.written
    have hfront : IsWritten f.front := hw.subset (by simp)
    have hbefore : IsWritten f.before := hw.subset (by simp)
    have hback : IsWritten f.back := hw.subset (by simp)
    exact hfront.append (.cons (by decide)
      ((hbefore.append hform).append hback))
  have hmark : ∀ c ∈ ('?' :: (f.before ++ write f.misused (Form.encode pairs)
      ++ f.back)).head?, endsPath c = true := by
    intro c hc
    cases hc
    rfl
  obtain ⟨hquery, hfragment⟩ := Reference.cut_query _ hq f.fragment
  unfold fill
  rw [Reference.split_joined [] f.isScheme f.within hmark hwritten.lt_toNat,
    f.lower, hquery, hfragment]
  rfl

end Frame

namespace Url.Reference

/-- Reading an address any further does not change its authority. -/
theorem map_authority_parse (fallback t : Text) :
    (parse fallback t).map (·.authority)
      = (split fallback t).map (·.authority) := by
  unfold parse
  cases split fallback t with
  | error f => rfl
  | ok r =>
    simp only [map_ok]
    split
    · rfl
    · rfl

end Url.Reference

/-- **Form text in an address is requoted by itself**, and so is what stands
around it. -/
theorem Url.requote_framed {front before form back : Text} {misused : Bool}
    (hbefore : ∀ t, IsParted before t) (hform : IsSettled form)
    (hplain : ∀ c ∈ form, isPlain c = true ∨ c = '%')
    (hm : misused = (isMisused front || (isMisused before || isMisused back))) :
    requote (front ++ '?' :: (before ++ (form ++ back)))
      = requoteAs misused front ++ '?' :: (requoteAs misused before
        ++ Frame.write misused form ++ requoteAs misused back) := by
  have hfront : IsParted front ('?' :: (before ++ (form ++ back))) :=
    .of_head fun c hc => by
      cases hc
      rfl
  have hback := IsParted.of_isSettled hform back
  -- the form text has no say in whether a percent sign is misused
  have hm4 : isMisused (form ++ back) = isMisused back := by
    rw [isMisused_append hback, isMisused_of_isSettled hform, Bool.false_or]
  have hm3 : isMisused (before ++ (form ++ back))
      = (isMisused before || isMisused back) := by
    rw [isMisused_append (hbefore _), hm4]
  have hm2 : isMisused ('?' :: (before ++ (form ++ back)))
      = (isMisused before || isMisused back) := by
    rw [isMisused_cons (by decide), hm3]
  have hm1 : isMisused (front ++ '?' :: (before ++ (form ++ back)))
      = misused := by
    rw [isMisused_append hfront, hm2, hm]
  have hle : (isMisused before || isMisused back) = true → misused = true := by
    intro he
    rw [hm, he, Bool.or_true]
  rw [requote_eq_requoteAs, hm1, requoteAs_append hfront (hm1 ▸ id),
    requoteAs_cons (by decide) (hm2 ▸ hle), requoteAs_append (hbefore _) (hm3 ▸ hle),
    requoteAs_append hback fun he => hle (by rw [← hm4, he, Bool.or_true]),
    requoteAs_of_isSettled hform hplain, List.append_assoc (requoteAs _ before)]
  rfl

namespace Request

/-- The credentials that an address carries are those of its authority. -/
theorem authorizationOf_congr {url url' : Text}
    (h : (Reference.split [] url').map (·.authority)
      = (Reference.split [] url).map (·.authority)) :
    authorizationOf url' = authorizationOf url := by
  rw [← Reference.map_authority_parse, ← Reference.map_authority_parse] at h
  unfold authorizationOf
  cases hr : Reference.parse [] url with
  | error f =>
    cases hr' : Reference.parse [] url' with
    | error f' =>
      rw [hr, hr'] at h
      cases h
      rfl
    | ok r' =>
      rw [hr, hr'] at h
      cases h
  | ok r =>
    cases hr' : Reference.parse [] url' with
    | error f' =>
      rw [hr, hr'] at h
      cases h
    | ok r' =>
      rw [hr, hr'] at h
      have hsame : r'.authority = r.authority := Except.ok.inj h
      simp only [mapError_ok, ok_bind, hsame]

/-- They can be told of addresses that have parts. -/
theorem exists_split_of_authorizationOf {url : Text} {x : Option Text}
    (h : authorizationOf url = .ok x) : ∃ r, Reference.split [] url = .ok r := by
  obtain ⟨r, hr, -⟩ := bind_eq_ok_iff.mp h
  rw [mapError_eq_ok_iff] at hr
  obtain ⟨r, hr, -⟩ := Reference.split_of_parse hr
  exact ⟨r, hr⟩

/-- They do not depend on what is filled in. -/
theorem authorizationOf_fill (f : Frame) (pairs pairs' : List (Text × Text)) :
    authorizationOf (f.fill (Form.encode pairs'))
      = authorizationOf (f.fill (Form.encode pairs)) := by
  refine authorizationOf_congr ?_
  rw [f.split_fill, f.split_fill]
  cases Authority.check f.authority with
  | error f => rfl
  | ok u => rfl

/-- The query of the address in front of the named values. -/
def queryFront (a : Address) : Text :=
  if a.query.isEmpty then [] else a.query ++ ['&']

/-- The named values stand behind it. -/
theorem writtenQuery_eq {a : Address} {form : Text} (h : form ≠ []) :
    writtenQuery a.query form = queryFront a ++ form := by
  unfold writtenQuery queryFront
  rw [List.isEmpty_eq_false_iff.mpr h]
  cases a.query with
  | nil => rfl
  | cons c query => simp

/-- The address is parted behind the query that was there. -/
theorem isParted_queryFront (a : Address) (t : Text) :
    IsParted (queryFront a) t := by
  unfold queryFront
  split
  · exact .nil t
  · exact .concat (by decide) (by decide) _ t

/-- What follows the query begins with a hash, requoted or not. -/
theorem requoteAs_marked (misused : Bool) (fragment : Text)
    (hm : isMisused (Reference.marked '#' fragment) = true → misused = true) :
    ∀ c ∈ (requoteAs misused (Reference.marked '#' fragment)).head?, c = '#' := by
  refine head?_requoteAs (p := (· = '#')) (fun c hc => ?_)
    (Reference.eq_of_head?_marked '#' fragment) hm
  rw [hc]
  rfl

/-- The place for the named values is still marked when the query in front of
it is requoted. -/
theorem requoteAs_queryFront (misused : Bool) (a : Address)
    (hm : isMisused (queryFront a) = true → misused = true) :
    requoteAs misused (queryFront a) = []
      ∨ (requoteAs misused (queryFront a)).getLast? = some '&' := by
  unfold queryFront at hm ⊢
  split
  · exact .inl (requoteAs_of_isPlain (List.forall_mem_nil _) _)
  · rename_i hne
    rw [if_neg hne] at hm
    have hparted : IsParted a.query ['&'] := .of_head fun c hc => by
      cases hc
      rfl
    rw [requoteAs_append hparted hm,
      requoteAs_of_isPlain (t := ['&']) (List.forall_mem_singleton.mpr rfl)]
    exact .inr List.getLast?_concat

/-- An address with named values, as it is written before it is requoted. -/
theorem print_of_isUsable {a : Address} {host form : Text} (h : IsUsable a host)
    (hform : form ≠ []) :
    Reference.print ⟨a.scheme, writtenAuthority a host, writtenPath a, [],
        writtenQuery a.query form, a.fragment⟩
      = a.scheme ++ ':' :: '/' :: '/' :: (writtenAuthority a host ++ writtenPath a
        ++ '?' :: (queryFront a ++ (form ++ Reference.marked '#' a.fragment))) := by
  have hquery : Reference.marked '?' (queryFront a ++ form)
      = '?' :: (queryFront a ++ form) := by
    rw [Reference.marked, List.isEmpty_eq_false_iff.mpr
      (List.append_ne_nil_of_right_ne_nil _ hform)]
    rfl
  rw [Reference.print_joined h.scheme.ne_nil h.authority h.rooted,
    writtenQuery_eq hform, hquery]
  simp only [List.append_assoc, List.cons_append]

/-- **The frame of an address**: whatever the named values are, they are
filled into the same. -/
theorem exists_frame {a : Address} {host : Text} (h : IsUsable a host) :
    ∃ f : Frame, ∀ pairs : List (Text × Text), pairs ≠ [] →
      assemble a host (Form.encode pairs) = f.fill (Form.encode pairs) := by
  generalize hfront : writtenAuthority a host ++ writtenPath a = front
  generalize hback : Reference.marked '#' a.fragment = back
  generalize hmisused : (isMisused front || (isMisused (queryFront a)
    || isMisused back)) = misused
  have hm : ∀ {t : Text}, (isMisused t = true → isMisused front = true
      ∨ isMisused (queryFront a) = true ∨ isMisused back = true) →
      isMisused t = true → misused = true := by
    intro t ht he
    rw [← hmisused, Bool.or_eq_true, Bool.or_eq_true]
    exact ht he
  refine ⟨{
    scheme := a.scheme
    front := requoteAs misused front
    before := requoteAs misused (queryFront a)
    back := requoteAs misused back
    misused
    isScheme := h.scheme
    lower := h.lower
    within := fun c hc =>
      endsPath_of_mem_requoteAs (hfront ▸ h.endsPath_of_mem) hc
    hash := fun hh => ?_
    marked := requoteAs_queryFront misused a (hm fun he => .inr (.inl he))
    fragment := ?_
    written := ?_ }, fun pairs hpairs => ?_⟩
  · have hmem := mem_of_mem_requoteAs hh (by decide) (by decide)
    unfold queryFront at hmem
    split at hmem
    · cases hmem
    · obtain hmem | hmem := List.mem_append.mp hmem
      · exact h.query hmem
      · exact absurd (List.mem_singleton.mp hmem) (by decide)
  · rw [← hback]
    exact requoteAs_marked misused _ (hm fun he => .inr (.inr (hback ▸ he)))
  · intro c hc
    rw [List.mem_append, List.mem_append] at hc
    obtain (hc | hc) | hc := hc
    · exact (isPlain_of_mem_requoteAs hc).symm
    · exact (isPlain_of_mem_requoteAs hc).symm
    · exact (isPlain_of_mem_requoteAs hc).symm
  · have htext := print_of_isUsable h (Form.encode_ne_nil hpairs)
    rw [hfront, hback] at htext
    unfold assemble Frame.fill
    rw [htext, h.scheme.requote_front,
      requote_framed (isParted_queryFront a) (Form.isSettled_encode pairs)
        (fun c hc => Form.isPlain_of_mem_encode hc) hmisused.symm]

/-- An address of a foreign scheme is taken as it is, whatever the values. -/
theorem prepare_of_isForeign [Names] {url : Text}
    (hf : isForeign (Text.trimBlankStart url) = true)
    (pairs : List (Text × Text)) :
    prepare url (loosePairs pairs)
      = (authorizationOf (Text.trimBlankStart url)).map fun x =>
        ⟨getMethod, Text.trimBlankStart url, x, none⟩ := by
  unfold prepare
  rw [prepareUrl_loosePairs, if_pos hf, ok_bind]
  cases authorizationOf (Text.trimBlankStart url) <;> rfl

/-- An address that is not usable is refused, whatever the values. -/
theorem prepare_of_not_usable [Names] {url : Text} {f : RequestFault}
    (hf : ¬isForeign (Text.trimBlankStart url) = true)
    (husable : usable (Text.trimBlankStart url) = .error f)
    (pairs : List (Text × Text)) :
    prepare url (loosePairs pairs) = .error f := by
  unfold prepare
  rw [prepareUrl_loosePairs, if_neg hf, husable]
  rfl

/-- A usable address has a frame that the values are filled into. -/
theorem exists_prepare_eq_fill [Names] {url : Text} {found : Address × Text}
    (hf : ¬isForeign (Text.trimBlankStart url) = true)
    (husable : usable (Text.trimBlankStart url) = .ok found) :
    ∃ frame : Frame, ∀ pairs : List (Text × Text), pairs ≠ [] →
      prepare url (loosePairs pairs)
        = (authorizationOf (frame.fill (Form.encode []))).map fun x =>
          ⟨getMethod, frame.fill (Form.encode pairs), x, none⟩ := by
  obtain ⟨frame, hframe⟩ := exists_frame (isUsable_of_usable husable)
  refine ⟨frame, fun pairs hpairs => ?_⟩
  unfold prepare
  rw [prepareUrl_loosePairs, if_neg hf, husable, map_ok, ok_bind,
    hframe pairs hpairs, authorizationOf_fill frame [] pairs]
  cases authorizationOf (frame.fill (Form.encode [])) <;> rfl

/-- **What a request can come to**, with any named values that are text: always the
same failure, always the same request, or one address with the values filled into
the same frame. -/
theorem prepare_cases [Names] (url : Text) :
    (∃ f, ∀ pairs : List (Text × Text), pairs ≠ [] →
        prepare url (loosePairs pairs) = .error f)
      ∨ (∃ q r, Reference.split [] q.url = .ok r
        ∧ ∀ pairs : List (Text × Text), pairs ≠ [] →
          prepare url (loosePairs pairs) = .ok q)
      ∨ ∃ (frame : Frame) (authorization : Option Text),
        Authority.check frame.authority = .ok ()
        ∧ ∀ pairs : List (Text × Text), pairs ≠ [] →
          prepare url (loosePairs pairs)
            = .ok ⟨getMethod, frame.fill (Form.encode pairs), authorization,
                none⟩ := by
  by_cases hf : isForeign (Text.trimBlankStart url) = true
  · cases hauth : authorizationOf (Text.trimBlankStart url) with
    | error f =>
      refine .inl ⟨f, fun pairs _ => ?_⟩
      rw [prepare_of_isForeign hf, hauth]
      rfl
    | ok authorization =>
      obtain ⟨r, hr⟩ := exists_split_of_authorizationOf hauth
      refine .inr (.inl ⟨⟨getMethod, _, authorization, none⟩, r, hr,
        fun pairs _ => ?_⟩)
      rw [prepare_of_isForeign hf, hauth]
      rfl
  · cases husable : usable (Text.trimBlankStart url) with
    | error f =>
      exact .inl ⟨f, fun pairs _ => prepare_of_not_usable hf husable pairs⟩
    | ok found =>
      obtain ⟨frame, hframe⟩ := exists_prepare_eq_fill hf husable
      cases hauth : authorizationOf (frame.fill (Form.encode [])) with
      | error f =>
        refine .inl ⟨f, fun pairs hpairs => ?_⟩
        rw [hframe pairs hpairs, hauth]
        rfl
      | ok authorization =>
        refine .inr (.inr ⟨frame, authorization, ?_, fun pairs hpairs => ?_⟩)
        · obtain ⟨r, hr⟩ := exists_split_of_authorizationOf hauth
          rw [frame.split_fill] at hr
          obtain ⟨u, hcheck, -⟩ := map_eq_ok_iff.mp hr
          exact hcheck
        · rw [hframe pairs hpairs, hauth]
          rfl

end Request

/-- **The named values stay in their place.** For two configs with the same
address, whose named values are text, the requests fail with the same failure, or
both succeed. Then they have the same method, body and credentials, and their
addresses have the same parts but for the query; and of the query the same text
stands in front of the values, which are written in the same way. -/
theorem request_of_same_address [Names] {c d : Config} (hb : c.baseUrl = d.baseUrl)
    (hp : c.path = d.path) {pairs pairs' : List (Text × Text)}
    (hc : c.params = loosePairs pairs) (hd : d.params = loosePairs pairs') :
    (∃ f, c.job.request = .error f ∧ d.job.request = .error f)
      ∨ ∃ q q' r r', c.job.request = .ok q ∧ d.job.request = .ok q'
        ∧ q' = { q with url := q'.url }
        ∧ Reference.split [] q.url = .ok r
        ∧ Reference.split [] q'.url = .ok r'
        ∧ r' = { r with query := r'.query }
        ∧ (q'.url = q.url ∨ ∃ before misused,
          (before = [] ∨ before.getLast? = some '&')
            ∧ r.query = before ++ Frame.write misused (Form.encode pairs)
            ∧ r'.query = before ++ Frame.write misused (Form.encode pairs')) := by
  have hurl : d.url = c.url := by rw [Config.url, Config.url, hb, hp]
  have hcr : c.job.request = Request.prepare c.url (loosePairs pairs) :=
    congrArg (Request.prepare c.url) hc
  have hdr : d.job.request = Request.prepare c.url (loosePairs pairs') :=
    hurl ▸ congrArg (Request.prepare d.url) hd
  rw [hcr, hdr]
  have hcp := c.ne_nil_of_params hc
  have hdp := d.ne_nil_of_params hd
  obtain ⟨f, hf⟩ | ⟨q, r, hr, hq⟩ | ⟨frame, authorization, hcheck, hq⟩ :=
    Request.prepare_cases c.url
  · exact .inl ⟨f, hf _ hcp, hf _ hdp⟩
  · exact .inr ⟨q, q, r, r, hq _ hcp, hq _ hdp, rfl, hr, hr, rfl, .inl rfl⟩
  · have hsplit : ∀ pairs, Reference.split [] (frame.fill (Form.encode pairs))
        = .ok (frame.parts (Form.encode pairs)) := by
      intro pairs
      rw [frame.split_fill, hcheck]
      rfl
    exact .inr ⟨_, _, _, _, hq _ hcp, hq _ hdp, rfl, hsplit _, hsplit _, rfl,
      .inr ⟨frame.before, frame.misused, frame.marked, rfl, rfl⟩⟩

section Plain
attribute [local instance] Names.plain

/-- A config whose database has a surrogate in it that stands alone. -/
def surrogateConfig : Config where
  database := [.lone 0x80]

/-- A surrogate in a named value is a failure that other values for the same
address do not meet. -/
theorem request_of_same_address_surrogate :
    surrogateConfig.baseUrl = ({} : Config).baseUrl
      ∧ surrogateConfig.path = ({} : Config).path
      ∧ (∃ q, ({} : Config).job.request = .ok q)
      ∧ surrogateConfig.job.request = .error (.value ⟨0, [.lone 0x80]⟩) := by
  refine ⟨rfl, rfl, ?_, ?_⟩
  · have hsome : ({} : Config).job.request.toOption.isSome = true := by
      decide +kernel
    obtain ⟨q, hq⟩ := Option.isSome_iff_exists.mp hsome
    exact ⟨q, eq_ok_of_toOption hq⟩
  · have hsome :
        (Request.usable (Text.trimBlankStart surrogateConfig.url)).toOption.isSome
          = true := by
      decide +kernel
    obtain ⟨found, hfound⟩ := Option.isSome_iff_exists.mp hsome
    have hfault : Request.prepareUrl surrogateConfig.url surrogateConfig.params
        = .error (.value ⟨0, [.lone 0x80]⟩) :=
      Request.prepareUrl_eq_error_iff.mpr ⟨by decide +kernel,
        .inr ⟨found, _, eq_ok_of_toOption hfound, rfl, rfl⟩⟩
    exact congrArg (· >>= _) hfault

/-- A config whose host has a zone, with a percent sign in front that begins
no escape. -/
def zonedConfig : Config where
  baseUrl := "http://[fe80::1%eth0]".toList
  path := "/query?u=1#f".toList
  database := Text.loose "x&db=y#".toList
  query := Text.loose "%41".toList

/-- The same config with other values. -/
def rezonedConfig : Config :=
  { zonedConfig with database := [], query := Text.loose "?".toList, pretty := false }

/-- The percent sign of the zone is misused, so the values are escaped once
more. They still stay in their place, whatever they are. -/
theorem request_of_same_address_zoned :
    zonedConfig.baseUrl = rezonedConfig.baseUrl
      ∧ zonedConfig.path = rezonedConfig.path
      ∧ zonedConfig.params = loosePairs [("pretty".toList, "true".toList),
        ("db".toList, "x&db=y#".toList), ("q".toList, "%41".toList)]
      ∧ rezonedConfig.params
        = loosePairs [("db".toList, []), ("q".toList, "?".toList)]
      ∧ ∃ q q' r r', zonedConfig.job.request = .ok q
        ∧ rezonedConfig.job.request = .ok q'
        ∧ Reference.split [] q.url = .ok r
        ∧ Reference.split [] q'.url = .ok r'
        ∧ r' = { r with query := r'.query }
        ∧ r.query = "u=1&pretty=true&db=x%2526db%253Dy%2523&q=%252541".toList
        ∧ r'.query = "u=1&db=&q=%253F".toList := by
  have hvalues : zonedConfig.params = loosePairs [("pretty".toList, "true".toList),
      ("db".toList, "x&db=y#".toList), ("q".toList, "%41".toList)] := rfl
  have hothers : rezonedConfig.params
      = loosePairs [("db".toList, []), ("q".toList, "?".toList)] := rfl
  refine ⟨rfl, rfl, hvalues, hothers, ?_⟩
  have hqueries :
      (zonedConfig.job.request.toOption.bind fun q =>
          (Reference.split [] q.url).toOption.map (·.query))
        = some "u=1&pretty=true&db=x%2526db%253Dy%2523&q=%252541".toList
      ∧ (rezonedConfig.job.request.toOption.bind fun q =>
          (Reference.split [] q.url).toOption.map (·.query))
        = some "u=1&db=&q=%253F".toList := by
    decide +kernel
  obtain ⟨f, hf, -⟩ | ⟨q, q', r, r', hq, hq', -, hr, hr', hsame, -⟩ :=
    request_of_same_address (c := zonedConfig) (d := rezonedConfig) rfl rfl hvalues
      hothers
  · rw [hf] at hqueries
    cases hqueries.1
  · rw [hq, hq'] at hqueries
    dsimp only [Except.toOption, Option.bind_some] at hqueries
    rw [hr, hr'] at hqueries
    obtain ⟨hquery, hquery'⟩ := hqueries
    exact ⟨q, q', r, r', hq, hq', hr, hr', hsame, Option.some.inj hquery,
      Option.some.inj hquery'⟩

end Plain

end QueryClient
