import QueryClient.Proofs.Attempt
import QueryClient.Proofs.DividedText
import QueryClient.Run

/-!
# Command lines with attached values

A flag spelled in full with its value behind `=` is read as that flag with
that value, whatever the value is: it may begin with a hyphen, hold further
equality signs, or be empty. Only a value that is exactly `--` is dropped.
`Arguments.read_commandLine` puts this together for the command line that
names a server, a database and a query.

The server may be named with slashes at its end, and with the query path.
Neither makes a difference, as `Config.url_baseOf` says, unless what is left
without them ends in the query path too.
-/

namespace QueryClient

namespace Arguments

/-! ## Flags in full -/

namespace Flag

/-- Spellings begin with a hyphen, go on after it, and hold no equality
sign. -/
theorem shape_of_ofSpelling? {t : Text} {f : Flag}
    (h : ofSpelling? t = some f) :
    t.head? = some '-' ∧ 1 < t.length ∧ '=' ∉ t := by
  have hall : ∀ entry ∈ table, entry.1.head? = some '-'
      ∧ 1 < entry.1.length ∧ '=' ∉ entry.1 := by
    decide
  obtain ⟨entry, hfind, -⟩ := Option.map_eq_some_iff.mp h
  have hentry := List.find?_some hfind
  rw [← beq_iff_eq.mp hentry]
  exact hall entry (List.mem_of_find?_eq_some hfind)

/-- So a text with an equality sign is no spelling. -/
theorem ofSpelling?_of_mem {t : Text} (h : '=' ∈ t) : ofSpelling? t = none := by
  cases hf : ofSpelling? t with
  | none => rfl
  | some f =>
    exact absurd h (shape_of_ofSpelling? hf).2.2

end Flag

namespace Token

/-- What begins with a hyphen and goes on behind it is not a value outright. -/
theorem not_outright {t : Text} (hhead : t.head? = some '-')
    (hlen : 1 < t.length) : ¬(t.head? ≠ some '-' ∨ t.length = 1) := by
  rintro (h | h)
  · exact h hhead
  · omega

/-- It is the flag in full that it is, if it is one. -/
theorem ofText_of_inFull? {t : Text} {token : Token} (hhead : t.head? = some '-')
    (hlen : 1 < t.length) (hfull : inFull? t = some token) :
    ofText t = .ok token := by
  rw [ofText, if_neg (not_outright hhead hlen), hfull]

/-- A value behind `=` is attached to the flag in front. -/
theorem inFull?_attached {f : Flag} {spelling : Text}
    (hf : Flag.ofSpelling? spelling = some f) (value : Text) :
    inFull? (spelling ++ '=' :: value) = some (.flag f spelling (some value)) := by
  have hmem : '=' ∈ spelling ++ '=' :: value :=
    List.mem_append_right _ (List.mem_cons_self ..)
  unfold inFull?
  rw [Flag.ofSpelling?_of_mem hmem]
  dsimp only
  rw [Text.cut_append_cons (Flag.shape_of_ofSpelling? hf).2.2]
  dsimp only
  rw [hf]
  rfl

/-- **A flag in full is itself, and the value attached to it is the value**,
whatever it is. -/
theorem ofText_attached {f : Flag} {spelling : Text}
    (hf : Flag.ofSpelling? spelling = some f) (value : Text) :
    ofText (spelling ++ '=' :: value)
      = .ok (.flag f spelling (some value)) := by
  obtain ⟨hhead, hlen, -⟩ := Flag.shape_of_ofSpelling? hf
  refine ofText_of_inFull? ?_ ?_ (inFull?_attached hf value)
  · rw [List.head?_append, hhead]
    rfl
  · rw [List.length_append]
    omega

/-- A flag in full without a value is itself. -/
theorem ofText_of_ofSpelling? {f : Flag} {spelling : Text}
    (hf : Flag.ofSpelling? spelling = some f) :
    ofText spelling = .ok (.flag f spelling none) := by
  obtain ⟨hhead, hlen, -⟩ := Flag.shape_of_ofSpelling? hf
  refine ofText_of_inFull? hhead hlen ?_
  unfold inFull?
  rw [hf]

/-- The separator is none of the texts that can be sorted. -/
theorem ne_separatorText_of_ofText {t : Text} {token : Token}
    (h : ofText t = .ok token) : t ≠ separatorText := by
  rintro rfl
  have hnone : (ofText separatorText).toOption = none := by decide +kernel
  rw [h] at hnone
  cases hnone

/-- **The tokens of arguments**, the first of which can be sorted. -/
theorem ofArguments_cons {t : Text} {rest : List Text} {token : Token}
    {more : List Token} (ht : ofText t = .ok token)
    (hrest : ofArguments rest = .ok more) :
    ofArguments (t :: rest) = .ok (token :: more) := by
  rw [ofArguments, if_neg (ne_separatorText_of_ofText ht), ht, hrest]
  rfl

end Token

/-! ## The command line -/

/-- The **command line** that names a server, a database and a query, and
perhaps asks for an answer that is not laid out. -/
def commandLine (url db query : Text) (pretty : Bool) : List Text :=
  ["--url=".toList ++ url, "--db=".toList ++ db, "--query=".toList ++ query]
    ++ if pretty then [] else ["--no-pretty".toList]

/-- The tokens of the command line. -/
theorem ofArguments_commandLine (url db query : Text) (pretty : Bool) :
    Token.ofArguments (commandLine url db query pretty)
      = .ok ([.flag .url "--url".toList (some url),
          .flag .db "--db".toList (some db),
          .flag .query "--query".toList (some query)]
        ++ if pretty then []
          else [.flag .noPretty "--no-pretty".toList none]) := by
  have hlast : Token.ofArguments (if pretty then [] else ["--no-pretty".toList])
      = .ok (if pretty then []
          else [.flag .noPretty "--no-pretty".toList none]) := by
    cases pretty
    · have hflag : Flag.ofSpelling? "--no-pretty".toList = some .noPretty := by
        decide
      exact Token.ofArguments_cons (Token.ofText_of_ofSpelling? hflag) rfl
    · rfl
  have hspelled : Flag.ofSpelling? "--url".toList = some .url
      ∧ Flag.ofSpelling? "--db".toList = some .db
      ∧ Flag.ofSpelling? "--query".toList = some .query := by
    decide
  refine Token.ofArguments_cons (Token.ofText_attached hspelled.1 url) ?_
  refine Token.ofArguments_cons (Token.ofText_attached hspelled.2.1 db) ?_
  exact Token.ofArguments_cons (Token.ofText_attached hspelled.2.2 query) hlast

/-- A value that is not to be dropped is kept. -/
theorem kept_of_ne {value : Text} (h : value ≠ Token.separatorText) :
    kept value = some value :=
  if_neg h

/-- **The command line is read as it is meant.** -/
theorem read_commandLine {url db query : Text} (pretty : Bool)
    (hurl : url ≠ Token.separatorText) (hdb : db ≠ Token.separatorText)
    (hquery : query ≠ Token.separatorText) :
    read (commandLine url db query pretty)
      = .ok { url := some url, db := some db.loose, query := some query.loose
              pretty } := by
  unfold read
  rw [ofArguments_commandLine]
  cases pretty
  · show Except.ok
      ({ url := kept url, db := (kept db).map Text.loose
         query := (kept query).map Text.loose, pretty := false } : Arguments) = _
    rw [kept_of_ne hurl, kept_of_ne hdb, kept_of_ne hquery]
    rfl
  · show Except.ok
      ({ url := kept url, db := (kept db).map Text.loose
         query := (kept query).map Text.loose } : Arguments) = _
    rw [kept_of_ne hurl, kept_of_ne hdb, kept_of_ne hquery]
    rfl

end Arguments

/-! ## The server -/

/-- A digit is no slash. -/
theorem ne_slash_of_isDigit {d : Char} (hd : d.isDigit = true) : d ≠ '/' := by
  rintro rfl
  exact absurd hd (by decide)

/-- What ends in a digit does not end in the query path. -/
theorem not_isSuffixOf_of_isDigit {front : Text} {d : Char}
    (hlast : front.getLast? = some d) (hd : d.isDigit = true) :
    ¬queryPath.isSuffixOf front = true := by
  intro h
  obtain ⟨before, rfl⟩ := List.isSuffixOf_iff_suffix.mp h
  have hy : (before ++ ("/quer".toList ++ ['y'])).getLast? = some d := hlast
  rw [← List.append_assoc, List.getLast?_concat] at hy
  rw [← Option.some.inj hy] at hd
  exact absurd hd (by decide)

/-- **The base of an address that ends in the query path** is what stands in
front of the path, and slashes at the end make no difference. -/
theorem baseOf_append_queryPath (front : Text) (k : Nat) :
    baseOf (front ++ queryPath ++ List.replicate k '/') = front := by
  have htrim : Text.trimEnd '/' (front ++ queryPath) = front ++ queryPath := by
    show Text.trimEnd '/' (front ++ ("/quer".toList ++ ['y']))
      = front ++ ("/quer".toList ++ ['y'])
    rw [← List.append_assoc, Text.trimEnd_append_of_ne (by decide)]
  unfold baseOf
  dsimp only
  rw [Text.trimEnd_append_replicate, htrim,
    if_pos (List.isSuffixOf_iff_suffix.mpr (List.suffix_append ..)),
    List.length_append, Nat.add_sub_cancel, List.take_left]

/-- **The base of another address** is the address without slashes at its
end. -/
theorem baseOf_append_replicate {front : Text} {d : Char} (hd : d ≠ '/')
    (hpath : ¬queryPath.isSuffixOf (front ++ [d]) = true) (k : Nat) :
    baseOf (front ++ [d] ++ List.replicate k '/') = front ++ [d] := by
  unfold baseOf
  dsimp only
  rw [Text.trimEnd_append_replicate, Text.trimEnd_append_of_ne hd, if_neg hpath]

/-- **The query path and slashes at the end make no difference** to the
address of the query. -/
theorem Config.url_baseOf {front : Text} {d : Char}
    (hlast : front.getLast? = some d) (hd : d ≠ '/') (withPath : Bool)
    (hpath : withPath = false → ¬queryPath.isSuffixOf front = true) (k : Nat) :
    ({ baseUrl := baseOf (front ++ ((if withPath then queryPath else [])
        ++ List.replicate k '/')) } : Config).url = front ++ queryPath := by
  obtain ⟨front, rfl⟩ := List.getLast?_eq_some_iff.mp hlast
  have hbase : baseOf (front ++ [d] ++ ((if withPath then queryPath else [])
      ++ List.replicate k '/')) = front ++ [d] := by
    cases withPath with
    | false => exact baseOf_append_replicate hd (hpath rfl) k
    | true =>
      rw [← List.append_assoc]
      exact baseOf_append_queryPath _ k
  unfold Config.url
  dsimp only
  rw [hbase, Text.trimEnd_append_of_ne hd]

end QueryClient
