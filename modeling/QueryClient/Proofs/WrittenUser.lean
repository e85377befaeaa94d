import QueryClient.Proofs.MeantText
import QueryClient.Proofs.PrintedPath

/-!
# The user part of an address

The credentials of a request are read off its own address, after everything that
is done to it: the user part was put into its normal form, printed in front of
the host, and requoted with the rest. `Request.authorization_of_prepare` says
what they are in terms of the address as it was written. The user part is cut at
its first colon, and the two pieces are what they mean, `Address.meant`; without
a colon there are no credentials, and without a user part there are none either.

There is one thing that reaches the user part from outside. A zone of the host
is written behind a percent sign that is not escaped, and if that makes a misused
percent sign, no escape in the whole address is read.
-/

namespace QueryClient

namespace Url.Address

/-- The **user part** of an address, as it is written. -/
def userOf (t : Text) : Text :=
  (Text.cutLast '@' (authorityOf (announced t))).1.getD []

/-- What a piece of a user part **means**. In a part that is escaped throughout
the escapes are read; in any other it means what is written, escapes in
capitals. Where a percent sign is misused in the address, it means what its
normal form is. -/
def meant (misused escaped : Bool) (t : Text) : Text :=
  if misused then encodeAs isUserChar escaped t
  else if escaped then unescapeText t
  else upperEscapes t

/-- The user and the password that a user part says. There are none without a
colon, and none if both say nothing. -/
def credentialsIn? (misused : Bool) (info : Text) : Option (Text × Text) := do
  let user := meant misused (isEscaped info) (Text.cut ':' info).1
  let password := meant misused (isEscaped info) (← (Text.cut ':' info).2)
  if user.isEmpty && password.isEmpty then none else some (user, password)

/-- **What an address of the web is made of**: its user part in normal form, a
host that no user stands in, and components that are escaped. -/
theorem of_parse_web [Names] {t : Text} {a : Address} {secure : Bool}
    (h : parse t = .ok a) (hs : a.scheme = webScheme secure) :
    a.user = encodeComponent isUserChar (userOf t) ∧ '@' ∉ a.host
      ∧ isEscaped a.path = true ∧ isEscaped a.query = true
      ∧ isEscaped a.fragment = true := by
  unfold parse at h
  dsimp only at h
  obtain ⟨⟨host, port⟩, hhost, h⟩ := bind_eq_ok_iff.mp h
  obtain ⟨out, hout, h⟩ := bind_eq_ok_iff.mp h
  obtain ⟨written, hcut⟩ := cutPort?_of_hostAndPort hhost
  cases h
  change schemeOf (announced t) = webScheme secure at hs
  have hcomponent (allowed : Char → Bool) (part : Text) :
      component (schemeOf (announced t)) allowed part
        = encodeComponent allowed part := by
    rw [component, hs, if_pos (normalizes_webScheme secure)]
  have hquery (part : Text) :
      isEscaped (component (schemeOf (announced t)) isQueryChar part) = true := by
    rw [hcomponent]
    exact isEscaped_encodeComponent (by decide)
      (fun _ => isQueryChar_of_isUnreserved) part
  refine ⟨hcomponent _ _, fun hat => ?_, ?_, hquery _, hquery _⟩
  · obtain hat | hat | hat := mem_checkedHost hcut hout hat
    · exact Text.notMem_cutLast '@' _ hat
    · exact absurd hat (by decide)
    · exact absurd hat (by decide)
  · show isEscaped (normalPath (schemeOf (announced t)) _) = true
    rw [hs]
    exact (isTidy_normalPath secure _).1.escaped

end Url.Address

open Url

namespace Request

variable {a : Address} {host form : Text}

/-! ## The authority of a request -/

/-- What stands behind the host in an authority: nothing, or a port. -/
theorem exists_writtenPort (a : Address) (host : Text) :
    ∃ port : Text, (∀ c ∈ port, c = ':' ∨ c.isDigit = true)
      ∧ (∀ c ∈ port.head?, c = ':')
      ∧ writtenAuthority a host
        = (if a.user.isEmpty then [] else a.user ++ ['@']) ++ host ++ port := by
  refine ⟨_, ?_, ?_, rfl⟩
  · intro c hc
    split at hc
    · cases hc
    · cases hc
    · exact (List.mem_cons.mp hc).imp_right
        (Nat.isDigit_of_mem_toDigits (by decide) (by decide))
  · intro c hc
    split at hc
    · cases hc
    · cases hc
    · exact (Option.some.inj hc).symm

/-- **A percent sign is misused in the authority only if it is in the host.** -/
theorem isMisused_writtenAuthority (huser : isEscaped a.user = true)
    (host : Text) :
    isMisused (writtenAuthority a host) = isMisused host := by
  obtain ⟨port, hport, hhead, hwritten⟩ := exists_writtenPort a host
  have hsettled : IsSettled port := .of_notMem fun hm =>
    (hport '%' hm).elim (absurd · (by decide)) (absurd · (by decide))
  have hparted (s : Text) : IsParted s port := .of_head fun c hc => by
    rw [hhead c hc]
    rfl
  rw [hwritten, isMisused_append (hparted _), isMisused_of_isSettled hsettled,
    Bool.or_false]
  by_cases hempty : a.user.isEmpty = true
  · rw [if_pos hempty, List.nil_append]
  · rw [if_neg hempty, List.append_assoc, List.singleton_append,
      isMisused_append_cons (by decide) (by decide),
      isMisused_of_isEscaped huser, Bool.false_or]

/-- **The user part is found in front of the host**, requoted. -/
theorem userInfo?_requoteAs (huser : isEscaped a.user = true)
    (hat : '@' ∉ host) {m : Bool} (hm : isMisused host = m) :
    Authority.userInfo? (requoteAs m (writtenAuthority a host))
      = if a.user.isEmpty then none else some (requoteAs m a.user) := by
  have hmisused : isMisused (writtenAuthority a host) = true → m = true := by
    rw [isMisused_writtenAuthority huser, hm]
    exact id
  obtain ⟨port, hport, -, hwritten⟩ := exists_writtenPort a host
  have hback : '@' ∉ requoteAs m (host ++ port) := fun h => by
    obtain h | h := List.mem_append.mp
      (mem_of_mem_requoteAs h (by decide) (by decide))
    · exact hat h
    · exact (hport '@' h).elim (absurd · (by decide)) (absurd · (by decide))
  rw [hwritten] at hmisused ⊢
  unfold Authority.userInfo?
  by_cases hempty : a.user.isEmpty = true
  · rw [if_pos hempty, if_pos hempty, List.nil_append,
      Text.cutLast_of_notMem hback]
  · rw [if_neg hempty, List.append_assoc, List.append_assoc,
      List.singleton_append] at hmisused
    rw [if_neg hempty, if_neg hempty, List.append_assoc, List.append_assoc,
      List.singleton_append,
      requoteAs_append_cons (by decide) (by decide) hmisused,
      Text.cutLast_append_cons hback]

/-- The credentials in an authority are those in its user part. -/
theorem credentials?_eq (authority : Text) :
    credentials? authority
      = (Authority.userInfo? authority).bind fun info =>
        (Text.cut ':' info).2.bind fun password =>
          if (unescapeText (Text.cut ':' info).1).isEmpty
              && (unescapeText password).isEmpty then none
          else some (unescapeText (Text.cut ':' info).1, unescapeText password)
        := by
  unfold credentials? Authority.user? Authority.password?
  cases Authority.userInfo? authority with
  | none => rfl
  | some info => rfl

/-- **What a user part says after all that is done to it**, is what its pieces
mean. -/
theorem credentials?_requoteAs {info authority : Text} (m : Bool)
    (h : Authority.userInfo? authority
      = some (requoteAs m (encodeComponent isUserChar info))) :
    credentials? authority = Address.credentialsIn? m info := by
  have hp : isUserChar '%' = false := by decide
  have hu : ∀ c, isUnreserved c = true → isUserChar c = true :=
    fun _ => Address.isUserChar_of_isUnreserved
  have hescaped := isEscaped_encodeComponent hp hu info
  -- each piece is escaped if the whole is
  have hpiece {piece : Text}
      (hpiece : isEscaped info = true → isEscaped piece = true) :
      unescapeText (requoteAs m (encodeAs isUserChar (isEscaped info) piece))
        = Address.meant m (isEscaped info) piece := by
    rw [unescapeText_requoteAs m (isEscaped_encodeAs hp hu hpiece),
      unescapeText_encodeAs hp hu hpiece]
    rfl
  have hcut := cut_requoteAs (c := ':') (by decide) (by decide) (by decide) m
    hescaped
  rw [encodeComponent_eq_encodeAs] at h hcut
  rw [cut_encodeAs (by decide) (by decide) (by decide) (by decide)] at hcut
  rw [credentials?_eq, h, Option.bind_some, hcut]
  unfold Address.credentialsIn?
  generalize hinfo : Text.cut ':' info = pieces
  obtain ⟨user, _ | password⟩ := pieces
  · rfl
  · have hboth : isEscaped info = true →
        isEscaped user = true ∧ isEscaped password = true := by
      rw [(Text.eq_append_of_cut hinfo).1,
        isEscaped_append_cons (by decide) (by decide), Bool.and_eq_true]
      exact id
    show (if _ then none else some (_, _)) = _
    rw [hpiece fun he => (hboth he).1, hpiece fun he => (hboth he).2]
    rfl

/-! ## The whole address -/

/-- A part without a percent sign that is misused has none with its mark. -/
theorem isMisused_marked {mark : Char} (hmark : mark ≠ '%') (part : Text) :
    isMisused (Reference.marked mark part) = isMisused part := by
  unfold Reference.marked
  cases part with
  | nil => rfl
  | cons c part => exact isMisused_cons hmark (c :: part)

/-- Named values misuse no percent sign behind a query that is escaped. -/
theorem isMisused_writtenQuery {query : Text} (hquery : isEscaped query = true)
    (pairs : List (Text × Text)) :
    isMisused (writtenQuery query (Form.encode pairs)) = false := by
  have hform := isMisused_of_isSettled (Form.isSettled_encode pairs)
  unfold writtenQuery
  split
  · exact isMisused_of_isEscaped hquery
  split
  · exact hform
  · rw [isMisused_append_cons (by decide) (by decide),
      isMisused_of_isEscaped hquery, hform]
    rfl

/-- So the query and the fragment of the address misuse none. -/
theorem isMisused_behindPath (hquery : isEscaped a.query = true)
    (hfragment : isEscaped a.fragment = true) (pairs : List (Text × Text)) :
    isMisused (Reference.marked '?' (writtenQuery a.query (Form.encode pairs))
      ++ Reference.marked '#' a.fragment) = false := by
  have hparted : IsParted
      (Reference.marked '?' (writtenQuery a.query (Form.encode pairs)))
      (Reference.marked '#' a.fragment) := .of_head fun c hc => by
    rw [Reference.eq_of_head?_marked '#' a.fragment c hc]
    rfl
  rw [isMisused_append hparted, isMisused_marked (by decide),
    isMisused_marked (by decide), isMisused_writtenQuery hquery,
    isMisused_of_isEscaped hfragment]
  rfl

/-- Nor does the path. -/
theorem isMisused_writtenPath (hpath : isEscaped a.path = true) :
    isMisused (writtenPath a) = false := by
  unfold writtenPath
  split
  · rfl
  · exact isMisused_of_isEscaped hpath

/-- No user stands in the host as it goes in. -/
theorem notMem_of_writtenHost [Names] {out : Text} (hat : '@' ∉ host)
    (h : writtenHost host = .ok out) : '@' ∉ out := by
  obtain he | rfl := of_writtenHost_eq_ok h
  · exact fun hm => absurd ((Names.travels_name he).unreserved '@' hm) (by decide)
  · exact hat

/-- **A request's own address is divided where it was put together.** -/
theorem of_split_assemble {s : Reference} {m : Bool} (hu : IsUsable a host)
    (hm : (isMisused (writtenAuthority a host) || (isMisused (writtenPath a)
      || isMisused (Reference.marked '?' (writtenQuery a.query form)
        ++ Reference.marked '#' a.fragment))) = m)
    (h : Reference.split [] (assemble a host form) = .ok s) :
    s.scheme = a.scheme
      ∧ s.authority = requoteAs m (writtenAuthority a host) := by
  have hhead : ∀ c ∈ (writtenPath a).head?, c = '/' := fun c hc => by
    rw [hu.rooted] at hc
    exact (Option.some.inj hc).symm
  unfold assemble at h
  rw [Reference.print_joined hu.scheme.ne_nil hu.authority hu.rooted,
    List.append_assoc, List.append_assoc] at h
  obtain ⟨hscheme, hauthority, -⟩ := Reference.of_split_requote hu.scheme
    hu.undivided hhead hu.within
    (Reference.endsPath_of_head?_marked _ a.fragment) hm h
  rw [hu.lower] at hscheme
  exact ⟨hscheme, hauthority⟩

/-- The credentials that an address **is written with**: those in its user
part. -/
def writtenCredentials? [Names] (url : Text) : Option (Text × Text) := do
  let t := Text.trimBlankStart url
  let (_, host) ← (usable t).toOption
  Address.credentialsIn? (isMisused host) (Address.userOf t)

/-- **What stands in the authority of a request's own address** are the
credentials that the address is written with. -/
theorem credentials?_of_split [Names] {t : Text} {s : Reference} {secure : Bool}
    (husable : usable t = .ok (a, host)) (hscheme : a.scheme = webScheme secure)
    (pairs : List (Text × Text))
    (h : Reference.split [] (assemble a host (Form.encode pairs)) = .ok s) :
    credentials? s.authority
      = Address.credentialsIn? (isMisused host) (Address.userOf t) := by
  have hu := isUsable_of_usable husable
  obtain ⟨hparse, -, -, hwritten⟩ := of_usable_eq_ok husable
  obtain ⟨huser, hat, hpath, hquery, hfragment⟩ :=
    Address.of_parse_web hparse hscheme
  have hescaped : isEscaped a.user = true := by
    rw [huser]
    exact isEscaped_encodeComponent (by decide)
      (fun _ => Address.isUserChar_of_isUnreserved) _
  -- only a zone of the host can misuse a percent sign
  have hmisused := isMisused_writtenAuthority hescaped host
  obtain ⟨-, hauthority⟩ := of_split_assemble hu (m := isMisused host) (by
    rw [hmisused, isMisused_writtenPath hpath,
      isMisused_behindPath hquery hfragment, Bool.or_false, Bool.or_false]) h
  have hinfo :=
    userInfo?_requoteAs hescaped (notMem_of_writtenHost hat hwritten) rfl
  rw [← hauthority] at hinfo
  by_cases hempty : a.user.isEmpty = true
  · -- only an empty user part has an empty normal form
    have hnil : encodeComponent isUserChar (Address.userOf t) = [] := by
      rw [← huser, ← List.isEmpty_iff]
      exact hempty
    rw [encodeComponent_eq_encodeAs] at hnil
    rw [if_pos hempty] at hinfo
    rw [credentials?_eq, hinfo, eq_nil_of_upperEscapes (eq_nil_of_escape hnil)]
    rfl
  · rw [if_neg hempty, huser] at hinfo
    exact credentials?_requoteAs _ hinfo

/-- The address of a request that can be sent was put together from one of the
web. -/
theorem usable_of_prepare [Names] {url : Text} {params : List (Text × LooseText)}
    {q : Request} {d : Destination} (h : prepare url params = .ok q)
    (hd : Destination.ofUrl q.url = .ok d) :
    ∃ a host pairs, usable (Text.trimBlankStart url) = .ok (a, host)
      ∧ params = loosePairs pairs
      ∧ q.url = assemble a host (Form.encode pairs)
      ∧ a.scheme = webScheme d.secure := by
  obtain ⟨-, r, hr, hscheme, -⟩ := Destination.of_ofUrl_eq_ok hd
  obtain ⟨hforeign, hq⟩ | ⟨-, a, host, pairs, husable, hparams, hq⟩ :=
      url_of_prepare h
  · rw [← hq] at hforeign
    exact absurd hd (Destination.ofUrl_of_isForeign hforeign d)
  · rw [hq] at hr
    have hsame := (of_split_assemble (isUsable_of_usable husable) rfl hr).1
    exact ⟨a, host, pairs, husable, hparams, hq, hsame.symm.trans hscheme⟩

/-- **The credentials of a request** that can be sent are those that its address
is written with, as they go out. -/
theorem authorization_of_prepare [Names] {url : Text} {params : List (Text × LooseText)}
    {q : Request} {d : Destination} (h : prepare url params = .ok q)
    (hd : Destination.ofUrl q.url = .ok d) :
    (q.authorization = none ↔ writtenCredentials? url = none)
      ∧ ∀ v, q.authorization = some v → ∃ user password,
        writtenCredentials? url = some (user, password)
          ∧ basic user password = .ok v := by
  obtain ⟨a, host, pairs, husable, -, hq, hscheme⟩ := usable_of_prepare h hd
  obtain ⟨-, s, hs, -⟩ := Destination.of_ofUrl_eq_ok hd
  have hcredentials : credentials? s.authority = writtenCredentials? url := by
    rw [hq] at hs
    rw [credentials?_of_split husable hscheme pairs hs]
    simp only [writtenCredentials?, husable]
    rfl
  unfold prepare at h
  obtain ⟨full, -, h⟩ := bind_eq_ok_iff.mp h
  obtain ⟨authorization, hauthorization, h⟩ := bind_eq_ok_iff.mp h
  cases h
  change Reference.split [] full = .ok s at hs
  unfold authorizationOf at hauthorization
  obtain ⟨r, hr, hauthorization⟩ := bind_eq_ok_iff.mp hauthorization
  rw [mapError_eq_ok_iff] at hr
  obtain ⟨w, hw, -, hwa, -⟩ := Reference.of_parse_eq_ok hr
  rw [hs] at hw
  cases hw
  rw [← hwa, hcredentials] at hauthorization
  cases hwritten : writtenCredentials? url with
  | none =>
    rw [hwritten] at hauthorization
    cases hauthorization
    simp
  | some found =>
    obtain ⟨user, password⟩ := found
    rw [hwritten] at hauthorization
    obtain ⟨v, hv, hauthorization⟩ := bind_eq_ok_iff.mp hauthorization
    cases hauthorization
    refine ⟨by simp, ?_⟩
    rintro _ ⟨⟩
    exact ⟨user, password, rfl, mapError_eq_ok_iff.mp hv⟩

end Request
end QueryClient
