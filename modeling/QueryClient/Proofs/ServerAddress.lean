import QueryClient.Exchange.Destination
import QueryClient.Proofs.LooseValues
import QueryClient.Proofs.RequotedParts
import QueryClient.Proofs.ServerName
import QueryClient.Proofs.WebAddress

/-!
# Addresses of servers

A server is named by a scheme of the web, a server name and perhaps a port.
The address of the query on it is read twice on the way to the wire: strictly,
when the request is prepared, and once more when its destination is read off
the address that came of it. `Request.prepare_namedAddress` and
`Destination.ofUrl_namedAddress` say what the two readings find; the server
name may be in either case in between, and is in lower case in the end. The
port is the usual one if none is named.
-/

namespace QueryClient

open Url

/-- The **authority** of a server, with its port if it is named with one. -/
def namedAuthority (host : Text) (port : Option Nat) : Text :=
  host ++ port.elim [] fun n => ':' :: Text.ofNat n

/-- The **address** of something on a server, as it is written. -/
def namedAddress (secure : Bool) (host : Text) (port : Option Nat)
    (rest : Text) : Text :=
  webScheme secure ++ ':' :: '/' :: '/' :: (namedAuthority host port ++ rest)

/-- The authority of a server that is named with its port. -/
def serverAuthority (host : Text) (port : Nat) : Text :=
  host ++ ':' :: Text.ofNat port

/-- The address of something on a server that is named with its port. -/
def serverAddress (secure : Bool) (host : Text) (port : Nat) (rest : Text) :
    Text :=
  webScheme secure ++ ':' :: '/' :: '/' :: (serverAuthority host port ++ rest)

/-- The bounds of a port that is named. -/
theorem bounds_of_port {port : Nat} (h1 : 1 ≤ port) (hport : port ≤ 65535) :
    ∀ n ∈ some port, 1 ≤ n ∧ n ≤ 65535 := by
  rintro n ⟨⟩
  exact ⟨h1, hport⟩

theorem serverAddress_eq (secure : Bool) (host : Text) (port : Nat)
    (rest : Text) :
    serverAddress secure host port rest
      = namedAddress secure host (some port) rest := rfl

/-- Nothing in the query path ends a path. -/
theorem endsPath_of_mem_queryPath {c : Char} (h : c ∈ queryPath) :
    endsPath c = false := by
  have hall : queryPath.all (!endsPath ·) = true := by decide
  have hc := List.all_eq_true.mp hall c h
  rwa [Bool.not_eq_true'] at hc

/-- It holds only what may stand in an address. -/
theorem isPlain_of_mem_queryPath {c : Char} (h : c ∈ queryPath) :
    isPlain c = true := by
  have hall : queryPath.all isPlain = true := by decide
  exact List.all_eq_true.mp hall c h

/-- The query of an address that has only named values. -/
def formQuery (pairs : List (Text × Text)) : Text :=
  Reference.marked '?' (Form.encode pairs)

/-- With named values there is one, behind a mark. -/
theorem formQuery_of_ne_nil {pairs : List (Text × Text)} (h : pairs ≠ []) :
    formQuery pairs = '?' :: Form.encode pairs := by
  unfold formQuery Reference.marked
  rw [List.isEmpty_eq_false_iff.mpr (Form.encode_ne_nil h)]
  rfl

/-- It begins with the mark, if there is anything. -/
theorem head?_formQuery (pairs : List (Text × Text)) :
    ∀ c ∈ (formQuery pairs).head?, c = '?' := by
  unfold formQuery Reference.marked
  split
  · exact fun c hc => nomatch hc
  · exact fun c hc => (Option.some.inj hc).symm

/-- It is settled, and may stand in an address. -/
theorem isSettled_formQuery (pairs : List (Text × Text)) :
    IsSettled (formQuery pairs)
      ∧ ∀ c ∈ formQuery pairs, isPlain c = true ∨ c = '%' := by
  unfold formQuery Reference.marked
  split
  · exact ⟨.nil, List.forall_mem_nil _⟩
  · exact ⟨(IsSettled.singleton (c := '?') (by decide)).append
        (Form.isSettled_encode pairs),
      List.forall_mem_cons.mpr ⟨.inl (by decide), fun c hc =>
        Form.isPlain_of_mem_encode hc⟩⟩

variable {host : Text} {port : Option Nat}

/-! ## The authority -/

/-- The characters of the authority of a server: unreserved ones, and the
colon. -/
theorem IsServerName.mem_namedAuthority (h : IsServerName host) {c : Char}
    (hc : c ∈ namedAuthority host port) : isUnreserved c = true ∨ c = ':' := by
  obtain hc | hc := List.mem_append.mp hc
  · exact .inl (h.chars c hc)
  cases port with
  | none => cases hc
  | some n =>
    obtain rfl | hc := List.mem_cons.mp hc
    · exact .inr rfl
    · exact .inl (isUnreserved_of_isAlphanum
        (Text.isAlphanum_of_isDigit (Text.isDigit_of_mem_ofNat hc)))

/-- Other characters do not stand in it. -/
theorem IsServerName.notMem_namedAuthority (h : IsServerName host) {c : Char}
    (hc : isUnreserved c = false) (hne : c ≠ ':') :
    c ∉ namedAuthority host port := by
  intro hm
  obtain hu | he := h.mem_namedAuthority hm
  · rw [hu] at hc
    cases hc
  · exact hne he

/-- What holds of the colon, and of every unreserved character, holds of
every character of the authority. -/
theorem IsServerName.forall_mem_namedAuthority (h : IsServerName host)
    {p : Char → Prop} (hcolon : p ':')
    (hu : ∀ c, isUnreserved c = true → p c) :
    ∀ c ∈ namedAuthority host port, p c := by
  intro c hc
  obtain hc | rfl := h.mem_namedAuthority hc
  · exact hu c hc
  · exact hcolon

/-- It is not empty. -/
theorem IsServerName.namedAuthority_ne_nil (h : IsServerName host)
    (port : Option Nat) : namedAuthority host port ≠ [] :=
  List.append_ne_nil_of_left_ne_nil h.ne_nil _

/-- None of its characters ends an authority. -/
theorem IsServerName.endsAuthority (h : IsServerName host) :
    ∀ c ∈ namedAuthority host port, Address.endsAuthority c = false := by
  refine h.forall_mem_namedAuthority rfl fun c hc => ?_
  refine Bool.eq_false_iff.mpr fun he => ?_
  unfold Address.endsAuthority at he
  simp only [Bool.or_eq_true, beq_iff_eq] at he
  obtain ((rfl | rfl) | rfl) | rfl := he
  all_goals exact absurd hc (by decide)

/-- The authority is cut at the port. -/
theorem IsServerName.cut_namedAuthority (h : IsServerName host) :
    Text.cut ':' (namedAuthority host port)
      = (host, port.map Text.ofNat) := by
  have hcolon : ':' ∉ host := h.notMem (by decide)
  cases port with
  | none =>
    show Text.cut ':' (host ++ []) = _
    rw [List.append_nil, Text.cut_of_notMem hcolon]
    rfl
  | some n => exact Text.cut_append_cons hcolon _

/-- Nobody is named in front of the server. -/
theorem IsServerName.cutLast_namedAuthority (h : IsServerName host) :
    Text.cutLast '@' (namedAuthority host port)
      = (none, namedAuthority host port) :=
  Text.cutLast_of_notMem (h.notMem_namedAuthority (by decide) (by decide))

/-! ## The strict reading -/

namespace Url.Address

/-- The scheme of the web is cut off. -/
theorem cutScheme_webScheme (secure : Bool) (rest : Text) :
    cutScheme (webScheme secure ++ ':' :: rest) = (webScheme secure, rest) := by
  cases secure
  · unfold cutScheme
    rw [Text.cut_append_cons (by decide)]
    rfl
  · unfold cutScheme
    rw [Text.cut_append_cons (by decide)]
    rfl

/-- The scheme of the address of a server. -/
theorem schemeOf_namedAddress (secure : Bool) (host : Text)
    (port : Option Nat) (rest : Text) :
    schemeOf (namedAddress secure host port rest) = webScheme secure := by
  unfold schemeOf namedAddress
  rw [cutScheme_webScheme]
  exact (isScheme_webScheme secure).2

/-- The authority of a server is cut off. -/
theorem cutAuthority_namedAuthority (h : IsServerName host) {rest : Text}
    (hrest : ∀ c ∈ rest.head?, endsAuthority c = true) :
    cutAuthority ('/' :: '/' :: (namedAuthority host port ++ rest))
      = (namedAuthority host port, rest) := by
  obtain ⟨hfront, hback⟩ := Text.span_append h.endsAuthority hrest
  show ((namedAuthority host port ++ rest).takeWhile _,
    (namedAuthority host port ++ rest).dropWhile _) = _
  rw [hfront, hback]

/-- The host and the port of a server are as they are written. -/
theorem hostAndPort_namedAuthority (h : IsServerName host)
    (hport : ∀ n ∈ port, n ≤ 65535) (address : Text) :
    hostAndPort address (namedAuthority host port) = .ok (host, port) := by
  have hhead : ¬(namedAuthority host port).head? = some '[' := by
    intro he
    exact absurd (List.mem_of_mem_head? he)
      (h.notMem_namedAuthority (by decide) (by decide))
  have hports : (port.map Text.ofNat).all isPort = true := by
    cases port with
    | none => rfl
    | some n => exact isPort_ofNat (hport n rfl)
  have hcut : cutPort? (namedAuthority host port)
      = some (host, port.map Text.ofNat) := by
    unfold cutPort?
    rw [if_neg hhead, h.cut_namedAuthority]
    dsimp only
    rw [isName_of_isUnreserved h.chars, hports]
    rfl
  unfold hostAndPort
  rw [hcut]
  dsimp only
  cases port with
  | none => rfl
  | some n =>
    have hsome : (some (Text.ofNat n)).filter (!·.isEmpty)
        = some (Text.ofNat n) := by
      have hne : (Text.ofNat n).isEmpty = false :=
        List.isEmpty_eq_false_iff.mpr Nat.toDigits_ne_nil
      rw [Option.filter_some, hne]
      rfl
    rw [Option.map_some, hsome]
    dsimp only
    rw [Text.digitsValue_ofNat, if_neg (Nat.not_lt.mpr (hport n rfl))]

/-- **The strict reading of the address of the query on a server.** -/
theorem parse_namedAddress [Names] (secure : Bool) (h : IsServerName host)
    (hport : ∀ n ∈ port, n ≤ 65535) :
    ∃ out, IsServerName out ∧ Text.lowerAscii out = Text.lowerAscii host
      ∧ parse (namedAddress secure host port queryPath)
        = .ok ⟨webScheme secure, [], out, port, queryPath, [], []⟩ := by
  have hcut : cutScheme (namedAddress secure host port queryPath)
      = (webScheme secure, '/' :: '/' :: (namedAuthority host port ++ queryPath)) :=
    cutScheme_webScheme secure _
  have hrest : ∀ c ∈ queryPath.head?, endsAuthority c = true := by
    intro c hc
    cases hc
    rfl
  have hscheme := schemeOf_namedAddress secure host port queryPath
  have hauthority : authorityOf (namedAddress secure host port queryPath)
      = namedAuthority host port := by
    rw [authorityOf, hcut]
    dsimp only
    rw [cutAuthority_namedAuthority h hrest]
  have hbehind : behindAuthority (namedAddress secure host port queryPath)
      = queryPath := by
    rw [behindAuthority, hcut]
    dsimp only
    rw [cutAuthority_namedAuthority h hrest]
  have hpath : normalPath (webScheme secure) queryPath = queryPath := by
    cases secure <;> decide
  obtain ⟨out, hname, hout, hchecked⟩ := h.exists_checkedHost
  refine ⟨out, hname, hout, ?_⟩
  unfold parse
  rw [announced_of_schemeOf hscheme]
  dsimp only
  rw [hscheme, hauthority, hbehind, Text.cut_of_notMem (by decide)]
  dsimp only
  rw [Text.cut_of_notMem (by decide), h.cutLast_namedAuthority]
  dsimp only
  rw [hostAndPort_namedAuthority h hport, normalizes_webScheme, ok_bind]
  dsimp only
  rw [hchecked, ok_bind, hpath]
  show Except.ok (⟨_, component _ _ [], _, _, _, component _ _ [],
    component _ _ []⟩ : Address) = _
  rw [component_nil, component_nil]

end Url.Address

/-! ## The loose reading -/

namespace Url.Authority

/-- The authority of a server cannot be misread. -/
theorem check_namedAuthority (h : IsServerName host) :
    check (namedAuthority host port) = .ok () := by
  have hopened : (namedAuthority host port).contains '[' = false := by
    rw [List.contains_eq_mem, decide_eq_false_iff_not]
    exact h.notMem_namedAuthority (by decide) (by decide)
  have hclosed : (namedAuthority host port).contains ']' = false := by
    rw [List.contains_eq_mem, decide_eq_false_iff_not]
    exact h.notMem_namedAuthority (by decide) (by decide)
  have hhonest : ((namedAuthority host port).any fun c =>
      deceptives.contains c.toNat) = false := by
    rw [List.any_eq_false]
    refine h.forall_mem_namedAuthority (by decide) fun c hc hm => ?_
    have hall : ∀ n ∈ deceptives, 128 ≤ n := by decide
    have hbeyond := hall _ (List.contains_iff_mem.mp hm)
    exact absurd (toNat_lt_of_isUnreserved hc) (Nat.not_lt.mpr hbeyond)
  unfold check
  rw [hopened, hclosed, hhonest]
  rfl

/-- Its parts. -/
theorem split_namedAuthority (h : IsServerName host) :
    split (namedAuthority host port) = (host, port.map Text.ofNat) := by
  unfold split hostAndPort
  rw [h.cutLast_namedAuthority]
  dsimp only
  rw [Text.cut_of_notMem (h.notMem_namedAuthority (by decide) (by decide))]
  exact h.cut_namedAuthority

/-- Its port. -/
theorem port?_namedAuthority (h : IsServerName host)
    (hport : ∀ n ∈ port, n ≤ 65535) :
    port? (namedAuthority host port) = .ok port := by
  unfold port?
  rw [split_namedAuthority h]
  dsimp only
  cases port with
  | none => rfl
  | some n =>
    rw [Option.map_some]
    split
    · rename_i hnone
      cases hnone
    · rename_i hempty
      exact absurd (Option.some.inj hempty) Nat.toDigits_ne_nil
    · rename_i digits hsome
      rw [← Option.some.inj hsome, Text.isNumeral_ofNat, Text.digitsValue_ofNat,
        if_neg (by decide), if_neg (Nat.not_lt.mpr (hport n rfl))]

/-- Its host. -/
theorem host?_namedAuthority (h : IsServerName host) :
    host? (namedAuthority host port) = some (Text.lowerAscii host) := by
  have hcut : Text.cut '%' host = (host, none) :=
    Text.cut_of_notMem (h.notMem (by decide))
  have hbefore : host.takeWhile (· != '%') = host := congrArg Prod.fst hcut
  have hzone : host.dropWhile (· != '%') = [] := by
    have happ := List.takeWhile_append_dropWhile (p := (· != '%')) (l := host)
    rw [hbefore] at happ
    exact List.append_right_eq_self.mp happ
  unfold host?
  rw [split_namedAuthority h]
  dsimp only
  rw [List.isEmpty_eq_false_iff.mpr h.ne_nil, if_neg Bool.false_ne_true,
    hbefore, hzone, List.append_nil]

end Url.Authority

/-- The address of the query on a server is written. -/
theorem IsServerName.isPlain_front (h : IsServerName host) :
    ∀ c ∈ namedAuthority host port ++ queryPath, isPlain c = true :=
  List.forall_mem_append.mpr ⟨h.forall_mem_namedAuthority (by decide)
    fun _ hc => isPlain_of_isUnreserved hc, fun _ => isPlain_of_mem_queryPath⟩

/-- **The loose reading of the address of the query on a server.** -/
theorem Url.Reference.split_namedAddress (secure : Bool)
    (h : IsServerName host) (pairs : List (Text × Text)) :
    split [] (namedAddress secure host port (queryPath ++ formQuery pairs))
      = .ok ⟨webScheme secure, namedAuthority host port, queryPath, [],
          Form.encode pairs, []⟩ := by
  have hwithin : ∀ c ∈ namedAuthority host port ++ queryPath,
      endsPath c = false :=
    List.forall_mem_append.mpr ⟨h.forall_mem_namedAuthority rfl
      fun _ hc => endsPath_of_isUnreserved hc, fun _ => endsPath_of_mem_queryPath⟩
  have hmark : ∀ c ∈ (formQuery pairs).head?, endsPath c = true := by
    intro c hc
    rw [head?_formQuery pairs c hc]
    rfl
  have hvisible : ∀ c ∈ namedAuthority host port ++ queryPath
      ++ formQuery pairs, 32 < c.toNat := by
    refine List.forall_mem_append.mpr ⟨fun c hc =>
      lt_toNat_of_isPlain (h.isPlain_front c hc), fun c hc => ?_⟩
    obtain hc | rfl := (isSettled_formQuery pairs).2 c hc
    · exact lt_toNat_of_isPlain hc
    · decide
  -- what ends an authority here ends it for the strict reader too
  have hends : ∀ c ∈ namedAuthority host port, endsAuthority c = false :=
    fun c hc => (Bool.or_eq_false_iff.mp (h.endsAuthority c hc)).1
  have hrooted : ∀ c ∈ queryPath.head?, endsAuthority c = true := by
    intro c hc
    cases hc
    rfl
  obtain ⟨hfront, hback⟩ := Text.span_append hends hrooted
  have hquery : (Text.cut '?' (Text.cut '#' (formQuery pairs)).1).2.getD []
        = Form.encode pairs
      ∧ (Text.cut '#' (formQuery pairs)).2.getD [] = [] := by
    unfold formQuery marked
    split
    · rename_i hempty
      rw [List.isEmpty_iff.mp hempty]
      exact ⟨rfl, rfl⟩
    · have hnone : '#' ∉ Form.encode pairs := hash_notMem_encode
      have hcut := cut_query [] hnone fun c hc => nomatch hc
      rwa [List.append_nil] at hcut
  obtain ⟨hscheme, hlower⟩ := isScheme_webScheme secure
  unfold namedAddress
  rw [← List.append_assoc, split_joined [] hscheme hwithin hmark hvisible,
    hlower, hfront, hback, hquery.1, hquery.2, Authority.check_namedAuthority h]
  rfl

/-- The port is not left out. -/
theorem Request.writtenAuthority_named {a : Address} (hu : a.user = [])
    (hp : ∀ n ∈ a.port, 1 ≤ n) (host : Text) :
    writtenAuthority a host = namedAuthority host a.port := by
  unfold writtenAuthority namedAuthority
  rw [hu]
  cases hport : a.port with
  | none => rfl
  | some n =>
    cases n with
    | zero => exact absurd (hp 0 hport) (by decide)
    | succ n => rfl

/-- A server name goes in as it is. -/
theorem IsServerName.writtenHost [Names] (h : IsServerName host) :
    Request.writtenHost host = .ok host := by
  have hhead : ¬(host.head? = some '*' ∨ host.head? = some '.') := by
    rintro (hstar | hpoint)
    · exact h.notMem (by decide) (List.mem_of_mem_head? hstar)
    · exact h.head hpoint
  unfold Request.writtenHost
  rw [isAscii_of_isUnreserved h.chars, if_neg (by decide), if_neg hhead]

namespace Request

/-- The address of the query on a server is usable. -/
theorem usable_namedAddress [Names] (secure : Bool) (h : IsServerName host)
    (hport : ∀ n ∈ port, n ≤ 65535) :
    ∃ out, IsServerName out ∧ Text.lowerAscii out = Text.lowerAscii host
      ∧ usable (namedAddress secure host port queryPath)
        = .ok (⟨webScheme secure, [], out, port, queryPath, [], []⟩, out) := by
  obtain ⟨out, hname, hout, hparse⟩ :=
    Address.parse_namedAddress secure h hport
  have hscheme : (webScheme secure).isEmpty = false := by
    cases secure <;> rfl
  refine ⟨out, hname, hout, ?_⟩
  unfold usable
  rw [hparse, mapError_ok, ok_bind]
  dsimp only
  rw [hscheme, List.isEmpty_eq_false_iff.mpr hname.ne_nil, hname.writtenHost]
  rfl

/-- Put together with the named values, there is nothing in it to requote. -/
theorem assemble_named (secure : Bool) (h : IsServerName host)
    (h1 : ∀ n ∈ port, 1 ≤ n) (pairs : List (Text × Text)) :
    assemble ⟨webScheme secure, [], host, port, queryPath, [], []⟩ host
        (Form.encode pairs)
      = namedAddress secure host port (queryPath ++ formQuery pairs) := by
  have hscheme : webScheme secure ≠ [] := by cases secure <;> decide
  have hquery : writtenQuery [] (Form.encode pairs) = Form.encode pairs := by
    unfold writtenQuery
    split
    · rename_i hempty
      exact (List.isEmpty_iff.mp hempty).symm
    · rfl
  obtain ⟨hsettled, hkept⟩ := isSettled_formQuery pairs
  have hauthority : writtenAuthority
      ⟨webScheme secure, [], host, port, queryPath, [], []⟩ host
        = namedAuthority host port := writtenAuthority_named rfl h1 host
  show requote (Reference.print ⟨webScheme secure, _, queryPath, [],
    writtenQuery [] _, []⟩) = _
  rw [hauthority, hquery, Reference.print_joined hscheme
      (h.namedAuthority_ne_nil port) rfl]
  show requote (webScheme secure ++ ':' :: '/' :: '/'
    :: (namedAuthority host port ++ queryPath ++ formQuery pairs ++ [])) = _
  rw [List.append_nil, (isScheme_webScheme secure).1.requote_front,
    requote_append_of_isPlain h.isPlain_front,
    requote_of_isSettled hsettled hkept]
  unfold namedAddress
  simp only [List.append_assoc]

/-- The address has no blank in front, … -/
theorem trimBlankStart_namedAddress (secure : Bool) (host : Text)
    (port : Option Nat) (rest : Text) :
    Text.trimBlankStart (namedAddress secure host port rest)
      = namedAddress secure host port rest := by
  cases secure
  · exact List.dropWhile_cons_of_neg (by decide)
  · exact List.dropWhile_cons_of_neg (by decide)

/-- … and is not taken as it is. -/
theorem isForeign_namedAddress (secure : Bool) (host : Text)
    (port : Option Nat) (rest : Text) :
    isForeign (namedAddress secure host port rest) = false :=
  Address.isForeign_of_schemeOf
    (Address.schemeOf_namedAddress secure host port rest)

/-- The address with the named values in its query. -/
theorem prepareUrl_namedAddress [Names] (secure : Bool) (h : IsServerName host)
    (hport : ∀ n ∈ port, 1 ≤ n ∧ n ≤ 65535) (pairs : List (Text × Text)) :
    ∃ out, IsServerName out ∧ Text.lowerAscii out = Text.lowerAscii host
      ∧ prepareUrl (namedAddress secure host port queryPath) (loosePairs pairs)
        = .ok (namedAddress secure out port (queryPath ++ formQuery pairs)) := by
  obtain ⟨out, hname, hout, husable⟩ :=
    usable_namedAddress secure h fun n hn => (hport n hn).2
  refine ⟨out, hname, hout, ?_⟩
  rw [prepareUrl_loosePairs, trimBlankStart_namedAddress,
    isForeign_namedAddress, husable, if_neg (by decide), map_ok]
  dsimp only
  rw [assemble_named secure hname fun n hn => (hport n hn).1]

/-- Where a named value is no text, there is none. -/
theorem prepare_namedAddress_of_fault [Names] (secure : Bool)
    (h : IsServerName host) (hport : ∀ n ∈ port, n ≤ 65535)
    {params : List (Text × LooseText)} {g : LooseText.Fault}
    (hg : readPairs params = .error g) :
    prepare (namedAddress secure host port queryPath) params
      = .error (.value g) := by
  obtain ⟨out, -, -, husable⟩ := usable_namedAddress secure h hport
  have hfull : prepareUrl (namedAddress secure host port queryPath) params
      = .error (.value g) := by
    rw [prepareUrl_eq_error_iff, trimBlankStart_namedAddress]
    exact ⟨isForeign_namedAddress .., .inr ⟨_, g, husable, hg, rfl⟩⟩
  unfold prepare
  rw [hfull]
  rfl

/-- **The request for the query on a server.** -/
theorem prepare_namedAddress [Names] (secure : Bool) (h : IsServerName host)
    (hport : ∀ n ∈ port, 1 ≤ n ∧ n ≤ 65535) (pairs : List (Text × Text)) :
    ∃ out, IsServerName out ∧ Text.lowerAscii out = Text.lowerAscii host
      ∧ prepare (namedAddress secure host port queryPath) (loosePairs pairs)
        = .ok ⟨getMethod, namedAddress secure out port
            (queryPath ++ formQuery pairs), none, none⟩ := by
  obtain ⟨out, hname, hout, hfull⟩ :=
    prepareUrl_namedAddress secure h hport pairs
  have hread : ∃ r, Reference.parse [] (namedAddress secure out port
        (queryPath ++ formQuery pairs)) = .ok r
      ∧ r.authority = namedAuthority out port := by
    unfold Reference.parse
    rw [Reference.split_namedAddress secure hname pairs, map_ok]
    refine ⟨_, rfl, ?_⟩
    cases secure <;> rfl
  obtain ⟨r, hr, hauthority⟩ := hread
  have hnobody : credentials? r.authority = none := by
    unfold credentials? Authority.user? Authority.userInfo?
    rw [hauthority, hname.cutLast_namedAuthority]
    rfl
  refine ⟨out, hname, hout, ?_⟩
  unfold prepare authorizationOf
  rw [hfull, ok_bind, hr, mapError_ok, ok_bind, hnobody]
  rfl

/-- The request for the query on a server that is named with its port. -/
theorem prepare_queryAddress [Names] (secure : Bool) (h : IsServerName host)
    {port : Nat} (h1 : 1 ≤ port) (hport : port ≤ 65535)
    {pairs : List (Text × Text)} (hpairs : pairs ≠ []) :
    ∃ out, IsServerName out ∧ Text.lowerAscii out = Text.lowerAscii host
      ∧ prepare (serverAddress secure host port queryPath) (loosePairs pairs)
        = .ok ⟨getMethod, serverAddress secure out port
            (queryPath ++ '?' :: Form.encode pairs), none, none⟩ := by
  simp only [serverAddress_eq, ← formQuery_of_ne_nil hpairs]
  exact prepare_namedAddress secure h (bounds_of_port h1 hport) pairs

end Request

namespace Destination

/-- **The destination of the query on a server.** -/
theorem ofUrl_namedAddress [Names] (secure : Bool) (h : IsServerName host)
    (hport : ∀ n ∈ port, 1 ≤ n ∧ n ≤ 65535) (pairs : List (Text × Text)) :
    ofUrl (namedAddress secure host port (queryPath ++ formQuery pairs))
      = .ok ⟨secure, Text.lowerAscii host, port.getD (defaultPort secure),
          queryPath ++ formQuery pairs⟩ := by
  have hspeaks : (speaks "https" (namedAddress secure host port
        (queryPath ++ formQuery pairs)) = secure)
      ∧ (!secure && !speaks "http" (namedAddress secure host port
        (queryPath ++ formQuery pairs))) = false := by
    cases secure
    · exact ⟨rfl, rfl⟩
    · exact ⟨rfl, rfl⟩
  have htarget : targetOf ⟨webScheme secure, namedAuthority host port,
        queryPath, [], Form.encode pairs, []⟩
      = queryPath ++ formQuery pairs := rfl
  have hfilter : port.filter (· != 0) = port := by
    cases port with
    | none => rfl
    | some n =>
      have hn : (n != 0) = true := bne_iff_ne.mpr (Nat.ne_of_gt (hport n rfl).1)
      rw [Option.filter_some, if_pos hn]
  unfold ofUrl
  rw [hspeaks.1]
  dsimp only
  rw [if_neg (by rw [hspeaks.2]; decide),
    Reference.split_namedAddress secure h pairs, mapError_ok, ok_bind]
  dsimp only
  rw [Authority.port?_namedAuthority h fun n hn => (hport n hn).2, mapError_ok,
    ok_bind, Authority.host?_namedAuthority h]
  dsimp only
  rw [h.checkedHost_lowerAscii, mapError_ok, ok_bind, htarget, hfilter]
  rfl

/-- The destination of the query on a server that is named with its port. -/
theorem ofUrl_queryAddress [Names] (secure : Bool) (h : IsServerName host)
    {port : Nat} (h1 : 1 ≤ port) (hport : port ≤ 65535)
    {pairs : List (Text × Text)} (hpairs : pairs ≠ []) :
    ofUrl (serverAddress secure host port (queryPath ++ '?' :: Form.encode pairs))
      = .ok ⟨secure, Text.lowerAscii host, port,
          queryPath ++ '?' :: Form.encode pairs⟩ := by
  simp only [serverAddress_eq, ← formQuery_of_ne_nil hpairs]
  exact ofUrl_namedAddress secure h (bounds_of_port h1 hport) pairs

end Destination

end QueryClient
