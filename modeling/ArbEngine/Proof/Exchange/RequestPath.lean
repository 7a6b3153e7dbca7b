import ArbEngine.Exchange.Coinbase
import ArbEngine.Proof.Exchange.Symbols

/-!
# The path that is signed and the path that is sent

The path in the token is put together from the parsed base URL, the slashes around the joint
trimmed to one; the URL of the request is the base URL with the endpoint behind it, and parsed
only when it is sent. The two agree where the joint has one slash to begin with and nothing in the
endpoint or the query is changed by parsing (`signsWhatItSends_iff`).

What the parser of the HTTP client does is a parameter. Of the URL standard three things are used
(`UrlSyntax.Standard`): the path of a base URL stays in front of what is written behind it, what is
plain there is left as it is, and whatever is parsed comes out plain. The condition is about the
texts before parsing, so it can be checked without a request.
-/

namespace ArbEngine

/-! ## What is assumed of URLs -/

/-- The characters a parser leaves as they are, and the segments it takes out of a path: `.` and
    `..`, percent-encoded or not. -/
structure UrlSyntax where
  pathChar : Char → Bool
  queryChar : Char → Bool
  isDot : List Char → Bool
  pathChar_slash : pathChar '/' = true
  pathChar_question : pathChar '?' = false
  isDot_nil : isDot [] = false

/-- The text up to the first question mark. -/
def pathPart (text : List Char) : List Char := text.takeWhile (· != '?')

/-- The text behind the first question mark, if there is one. -/
def queryPart (text : List Char) : Option (List Char) :=
  match text.dropWhile (· != '?') with
  | [] => none
  | _ :: query => some query

namespace UrlSyntax

/-- A path that parsing leaves as it is. -/
structure PlainPath (s : UrlSyntax) (path : List Char) : Prop where
  chars : ∀ c ∈ path, s.pathChar c = true
  segments : ∀ segment ∈ path.splitOn '/', s.isDot segment = false

/-- A path, perhaps with a query, that parsing leaves as it is. -/
structure Plain (s : UrlSyntax) (text : List Char) : Prop where
  path : s.PlainPath (pathPart text)
  query : ∀ query ∈ queryPart text, ∀ c ∈ query, s.queryChar c = true

/-- The standard for base URLs `scheme://host[/path]`: `resolved` is what a parser has made of the
    path of a base URL when more path follows it. -/
structure Standard (s : UrlSyntax) (parseUrl : String → Except String Url)
    (isBase : String → Prop) (resolved : String → List Char) : Prop where
  /-- The path of a base URL ends in a slash if it would be empty, or ended in a dot. -/
  base : ∀ base, isBase base → ∃ url, parseUrl base = .ok url ∧
    (url.path.toList = resolved base ∨ url.path.toList = resolved base ++ ['/'])
  /-- What is plain behind a base URL is left as it is. -/
  plain : ∀ base text, isBase base → s.Plain ('/' :: text) →
    ∃ url, parseUrl (base ++ String.ofList ('/' :: text)) = .ok url ∧
      url.path.toList = resolved base ++ pathPart ('/' :: text) ∧
      url.query.map String.toList = queryPart ('/' :: text)
  /-- Whatever is behind a base URL is parsed, and what a parser answers is plain. -/
  normal : ∀ base text, isBase base →
    ∃ url, parseUrl (base ++ String.ofList ('/' :: text)) = .ok url ∧
      s.PlainPath url.path.toList ∧ ∀ query ∈ url.query, ∀ c ∈ query.toList, s.queryChar c = true

end UrlSyntax

/-! ## Plain texts -/

section
variable {path text : List Char}

/-- The test of `takeWhile` and `dropWhile` below. -/
theorem ne_question (h : '?' ∉ path) : ∀ c ∈ path, (c != '?') = true := by
  intro c hc
  rw [bne_iff_ne]
  rintro rfl
  exact h hc

/-- A question mark ends the path, a slash does not. -/
theorem pathPart_append_slash (h : '?' ∉ path) :
    pathPart (path ++ '/' :: text) = path ++ '/' :: pathPart text := by
  unfold pathPart
  rw [List.takeWhile_append_of_pos (ne_question h), List.takeWhile_cons_of_pos (by decide)]

/-- What is in front of it has no query. -/
theorem queryPart_append_slash (h : '?' ∉ path) :
    queryPart (path ++ '/' :: text) = queryPart text := by
  unfold queryPart
  rw [List.dropWhile_append_of_pos (ne_question h), List.dropWhile_cons_of_pos (by decide)]

/-- A slash splits the segments. -/
theorem splitOn_append_slash :
    (path ++ '/' :: text).splitOn '/' = path.splitOn '/' ++ text.splitOn '/' := by
  rw [List.splitOn_eq_splitOnP, List.splitOn_eq_splitOnP, List.splitOn_eq_splitOnP]
  exact List.splitOnP_append_cons _ _ (by decide)

end

namespace UrlSyntax

variable {s : UrlSyntax} {path text : List Char}

/-- A question mark is no character of a path. -/
theorem PlainPath.no_question (h : s.PlainPath path) : '?' ∉ path := by
  intro question
  have plain := h.chars _ question
  rw [s.pathChar_question] at plain
  exact Bool.false_ne_true plain

/-- Behind a path, what is plain as a whole is plain by itself. -/
theorem Plain.of_append_slash (h : '?' ∉ path) (hp : s.Plain (path ++ '/' :: text)) :
    s.Plain text := by
  obtain ⟨⟨chars, segments⟩, query⟩ := hp
  rw [pathPart_append_slash h] at chars segments
  rw [queryPart_append_slash h] at query
  rw [splitOn_append_slash] at segments
  refine ⟨⟨fun c hc => chars c ?_, fun segment hs => segments segment ?_⟩, query⟩
  · exact List.mem_append_right _ (List.mem_cons_of_mem _ hc)
  · exact List.mem_append_right _ hs

/-- And the other way round. -/
theorem Plain.append_slash (hp : s.PlainPath path) (h : s.Plain text) :
    s.Plain (path ++ '/' :: text) := by
  obtain ⟨⟨chars, segments⟩, query⟩ := h
  have question := hp.no_question
  refine ⟨⟨?_, ?_⟩, ?_⟩
  · intro c hc
    rw [pathPart_append_slash question, List.mem_append, List.mem_cons] at hc
    rcases hc with hc | rfl | hc
    · exact hp.chars c hc
    · exact s.pathChar_slash
    · exact chars c hc
  · intro segment hs
    rw [pathPart_append_slash question, splitOn_append_slash, List.mem_append] at hs
    rcases hs with hs | hs
    · exact hp.segments segment hs
    · exact segments segment hs
  · rwa [queryPart_append_slash question]

/-- Nothing is a plain path: the empty segment is no dot. -/
theorem PlainPath.nil : s.PlainPath [] :=
  ⟨by simp, by simp [s.isDot_nil]⟩

/-- A slash in front changes nothing. -/
theorem Plain.slash (h : s.Plain text) : s.Plain ('/' :: text) :=
  h.append_slash PlainPath.nil

/-- The slashes in front of a text do not matter. -/
theorem Plain.of_dropWhile (h : s.Plain (text.dropWhile (· == '/'))) : s.Plain text := by
  induction text with
  | nil => exact h
  | cons c text ih =>
    by_cases slash : c = '/'
    · subst slash
      rw [List.dropWhile_cons_of_pos (by decide)] at h
      exact (ih h).slash
    · rwa [List.dropWhile_cons_of_neg (by simpa using slash)] at h

end UrlSyntax

/-! ## A path and its query, put together -/

/-- A query as it stands behind its path. -/
def queryText : Option (List Char) → List Char
  | none => []
  | some query => '?' :: query

/-- A text is its path and its query. -/
theorem pathPart_append_queryText (text : List Char) :
    pathPart text ++ queryText (queryPart text) = text := by
  unfold pathPart queryPart queryText
  rcases h : text.dropWhile (· != '?') with _ | ⟨c, query⟩
  · have whole := List.takeWhile_append_dropWhile (p := (· != '?')) (l := text)
    rw [h] at whole
    exact whole
  · have question : c = '?' := by
      have head := List.head_dropWhile_not (· != '?') (l := text) (by simp [h])
      simpa [h] using head
    have whole := List.takeWhile_append_dropWhile (p := (· != '?')) (l := text)
    rw [h, question] at whole
    exact whole

section
variable {path : List Char} {query : Option (List Char)}

/-- And the two are found in it again. -/
theorem pathPart_queryText (h : '?' ∉ path) : pathPart (path ++ queryText query) = path := by
  unfold pathPart
  rw [List.takeWhile_append_of_pos (ne_question h)]
  cases query <;> simp [queryText]

/-- The query of it too. -/
theorem queryPart_queryText (h : '?' ∉ path) : queryPart (path ++ queryText query) = query := by
  unfold queryPart
  rw [List.dropWhile_append_of_pos (ne_question h)]
  cases query <;> simp [queryText]

end

/-- What is sent is the path and the query of the URL. -/
theorem Url.pathAndQuery_toList (url : Url) :
    url.pathAndQuery.toList = url.path.toList ++ queryText (url.query.map String.toList) := by
  unfold Url.pathAndQuery
  cases url.query <;> simp [queryText]

namespace UrlSyntax

variable {s : UrlSyntax} {path : List Char}

/-- What is sent is plain if the path and the query are. -/
theorem plain_pathAndQuery {url : Url} (path : s.PlainPath url.path.toList)
    (query : ∀ query ∈ url.query, ∀ c ∈ query.toList, s.queryChar c = true) :
    s.Plain url.pathAndQuery.toList := by
  rw [Url.pathAndQuery_toList]
  constructor
  · rwa [pathPart_queryText path.no_question]
  · rw [queryPart_queryText path.no_question]
    intro text ht
    obtain ⟨q, hq, rfl⟩ := Option.mem_map.mp ht
    exact query q hq

end UrlSyntax

/-! ## The joint -/

section
variable {base rest tail : List Char}

/-- No slash at the end, nothing to trim. -/
theorem rdropWhile_slash_eq : base.rdropWhile (· == '/') = base ↔ base.getLast? ≠ some '/' := by
  rw [List.rdropWhile_eq_self_iff]
  rcases List.eq_nil_or_concat base with rfl | ⟨front, c, rfl⟩ <;> simp

/-- Nor at the front. -/
theorem dropWhile_slash_eq : rest.dropWhile (· == '/') = rest ↔ rest.head? ≠ some '/' := by
  rcases rest with _ | ⟨c, rest⟩
  · simp
  · rw [List.dropWhile_eq_self_iff]
    simp

/-- Trimming the joint changes nothing exactly if there is one slash. -/
theorem joint_eq_iff :
    base.rdropWhile (· == '/') ++ '/' :: (rest.dropWhile (· == '/') ++ tail) =
        base ++ '/' :: (rest ++ tail) ↔
      base.getLast? ≠ some '/' ∧ rest.head? ≠ some '/' := by
  rw [← rdropWhile_slash_eq, ← dropWhile_slash_eq]
  constructor
  · intro h
    have lengths := congrArg List.length h
    simp only [List.length_append, List.length_cons] at lengths
    have front := (List.rdropWhile_prefix (· == '/') base).length_le
    have back := (List.dropWhile_suffix (l := rest) (· == '/')).length_le
    constructor
    · exact (List.rdropWhile_prefix _ _).eq_of_length (by omega)
    · exact (List.dropWhile_suffix _).eq_of_length (by omega)
  · rintro ⟨front, back⟩
    rw [front, back]

end

namespace ExchangeClient

variable {client : ExchangeClient} {parseUrl : String → Except String Url}
  {method endpoint params : String} {rest : List Char}

/-! ## What is signed and what is sent -/

/-- An empty query is left out. -/
theorem coinbaseQuery_ne_empty : coinbaseQuery method params ≠ some "" := by
  unfold coinbaseQuery
  split_ifs with h
  · simpa using h.2
  · simp

/-- What stands behind the base URL. -/
theorem coinbaseUrl_eq (h : endpoint.toList = '/' :: rest) :
    client.coinbaseUrl method endpoint params = client.baseUrl ++
      String.ofList ('/' :: (rest ++
        queryText ((coinbaseQuery method params).map String.toList))) := by
  rw [← String.toList_inj]
  unfold coinbaseUrl
  cases coinbaseQuery method params <;> simp [queryText, h]

/-- The path that is signed: base and endpoint trimmed, with one slash between them. -/
theorem coinbaseRequestPath_eq_ok (method params : String) {url : Url}
    (h : endpoint.toList = '/' :: rest) (hu : parseUrl client.baseUrl = .ok url) :
    ∃ path, client.coinbaseRequestPath parseUrl endpoint (coinbaseQuery method params) = .ok path ∧
      path.toList = url.path.toList.rdropWhile (· == '/') ++ '/' :: (rest.dropWhile (· == '/') ++
        queryText ((coinbaseQuery method params).map String.toList)) := by
  have trimmed : endpoint.toList.dropWhile (· == '/') = rest.dropWhile (· == '/') := by
    rw [h, List.dropWhile_cons_of_pos (by decide)]
  have joined : (if trimEndMatches url.path '/' = "" then "/" ++ trimStartMatches endpoint '/'
      else trimEndMatches url.path '/' ++ "/" ++ trimStartMatches endpoint '/').toList =
      url.path.toList.rdropWhile (· == '/') ++ '/' :: rest.dropWhile (· == '/') := by
    split_ifs with empty
    · have empty : url.path.toList.rdropWhile (· == '/') = [] := by
        simpa [trimEndMatches] using congrArg String.toList empty
      simp [trimStartMatches, trimmed, empty]
    · simp [trimStartMatches, trimEndMatches, trimmed]
  unfold coinbaseRequestPath
  rw [hu]
  rcases hq : coinbaseQuery method params with _ | query
  · exact ⟨_, rfl, by rw [joined]; simp [queryText]⟩
  · have ne : query ≠ "" := fun empty => coinbaseQuery_ne_empty (hq.trans (congrArg some empty))
    simp only [orSerializationError, Outcome.ok_bind, if_neg ne]
    refine ⟨_, rfl, ?_⟩
    rw [String.toList_append, String.toList_append, joined]
    simp [queryText]

/-- The path that is signed for a request is the path, with the query, that it is sent to. -/
def SignsWhatItSends (client : ExchangeClient) (parseUrl : String → Except String Url)
    (method endpoint params : String) : Prop :=
  ∃ path url,
    client.coinbaseRequestPath parseUrl endpoint (coinbaseQuery method params) = .ok path ∧
      parseUrl (client.coinbaseUrl method endpoint params) = .ok url ∧
      path = url.pathAndQuery

/-- What a request that is sent carries. -/
theorem coinbaseSignedRequest_eq_ok {crates : CoinbaseCrates} {keyName secret nonce : String}
    {now : ℕ} {request : CoinbaseRequest}
    (h : client.coinbaseSignedRequest crates keyName secret now nonce method endpoint params =
      .ok request) :
    ∃ path, client.coinbaseRequestPath crates.parseUrl endpoint (coinbaseQuery method params) =
        .ok path ∧
      client.coinbaseJwt crates keyName secret now nonce method path = .ok request.token ∧
      request.url = client.coinbaseUrl method endpoint params := by
  obtain ⟨path, hp, h⟩ := Outcome.bind_eq_ok.mp h
  obtain ⟨token, ht, h⟩ := Outcome.bind_eq_ok.mp h
  obtain ⟨_, _, h⟩ := Outcome.bind_eq_ok.mp h
  cases h
  exact ⟨path, hp, ht, rfl⟩

section
variable {s : UrlSyntax} {isBase : String → Prop} {resolved : String → List Char}

/-- What a base URL has become has no question mark. -/
theorem resolved_no_question (std : s.Standard parseUrl isBase resolved)
    (hb : isBase client.baseUrl) : '?' ∉ resolved client.baseUrl := by
  have slash : s.Plain ['/'] := by
    have empty : s.Plain [] := ⟨⟨by simp [pathPart], by simp [pathPart, s.isDot_nil]⟩,
      by simp [queryPart]⟩
    exact empty.slash
  obtain ⟨url, parsed, path, _⟩ := std.plain _ [] hb slash
  obtain ⟨url', parsed', plain, _⟩ := std.normal _ [] hb
  cases parsed.symm.trans parsed'
  rw [path] at plain
  intro question
  exact plain.no_question (List.mem_append_left _ question)

/-- The path of a base URL, trimmed: it does not matter whether it was given a slash. -/
theorem rdropWhile_base {url : Url}
    (h : url.path.toList = resolved client.baseUrl ∨
      url.path.toList = resolved client.baseUrl ++ ['/']) :
    url.path.toList.rdropWhile (· == '/') =
      (resolved client.baseUrl).rdropWhile (· == '/') := by
  rcases h with h | h
  · rw [h]
  · rw [h, List.rdropWhile_concat_pos _ _ _ (by decide)]

/-- What is plain as it is signed is plain as it is written. -/
theorem plain_of_signed {base : List Char} {query : Option (List Char)} (hb : '?' ∉ base)
    (h : s.Plain (base ++ '/' :: (rest.dropWhile (· == '/') ++ queryText query))) :
    s.Plain ('/' :: (rest ++ queryText query)) := by
  have trimmed : (rest ++ queryText query).dropWhile (· == '/') =
      rest.dropWhile (· == '/') ++ queryText query := by
    rw [List.dropWhile_append]
    split_ifs with empty
    · rw [List.isEmpty_iff.mp empty]
      cases query <;> simp [queryText]
    · rfl
  have plain := h.of_append_slash hb
  rw [← trimmed] at plain
  exact plain.of_dropWhile.slash

/-- The text behind the base URL, and the two paths made of it. -/
theorem signed_and_sent (method params : String) (std : s.Standard parseUrl isBase resolved)
    (hb : isBase client.baseUrl) (h : endpoint.toList = '/' :: rest) :
    ∃ path url, client.coinbaseRequestPath parseUrl endpoint (coinbaseQuery method params) =
        .ok path ∧
      parseUrl (client.coinbaseUrl method endpoint params) = .ok url ∧
      path.toList = (resolved client.baseUrl).rdropWhile (· == '/') ++
        '/' :: (rest.dropWhile (· == '/') ++
          queryText ((coinbaseQuery method params).map String.toList)) ∧
      s.Plain url.pathAndQuery.toList ∧
      (s.Plain ('/' :: (rest ++ queryText ((coinbaseQuery method params).map String.toList))) →
        url.pathAndQuery.toList = resolved client.baseUrl ++
          '/' :: (rest ++ queryText ((coinbaseQuery method params).map String.toList))) := by
  obtain ⟨base, parsed, basePath⟩ := std.base _ hb
  obtain ⟨path, signed, path_eq⟩ := coinbaseRequestPath_eq_ok method params h parsed
  obtain ⟨url, sent, plain, query⟩ := std.normal _
    (rest ++ queryText ((coinbaseQuery method params).map String.toList)) hb
  refine ⟨path, url, signed, ?_, ?_, UrlSyntax.plain_pathAndQuery plain query, ?_⟩
  · rw [coinbaseUrl_eq h, sent]
  · rw [path_eq, rdropWhile_base basePath]
  · intro text
    obtain ⟨url', sent', path', query'⟩ := std.plain _ _ hb text
    cases sent.symm.trans sent'
    rw [Url.pathAndQuery_toList, path', query', List.append_assoc, pathPart_append_queryText]

/-- A request is signed for the path it is sent to exactly if the path of the base URL does not end
    in a slash, the endpoint begins with one only, and parsing leaves the rest as it is. The first
    half says that this path is the one in the token of any request that is built. -/
theorem signsWhatItSends_iff (std : s.Standard parseUrl isBase resolved)
    (hb : isBase client.baseUrl) (h : endpoint.toList = '/' :: rest) :
    (∀ crates keyName secret nonce now request, crates.parseUrl = parseUrl →
      client.coinbaseSignedRequest crates keyName secret now nonce method endpoint params =
          .ok request →
        ∃ path, client.coinbaseRequestPath parseUrl endpoint (coinbaseQuery method params) =
            .ok path ∧
          client.coinbaseJwt crates keyName secret now nonce method path = .ok request.token ∧
          request.url = client.coinbaseUrl method endpoint params) ∧
    (SignsWhatItSends client parseUrl method endpoint params ↔
      (resolved client.baseUrl).getLast? ≠ some '/' ∧ rest.head? ≠ some '/' ∧
        s.Plain (endpoint.toList ++
          queryText ((coinbaseQuery method params).map String.toList))) := by
  constructor
  · rintro crates keyName secret nonce now request rfl sent
    exact coinbaseSignedRequest_eq_ok sent
  obtain ⟨path, url, signed, sent, path_eq, plain, url_eq⟩ :=
    signed_and_sent method params std hb h
  rw [h, List.cons_append]
  constructor
  · rintro ⟨path', url', signed', sent', eq⟩
    cases signed.symm.trans signed'
    cases sent.symm.trans sent'
    -- what is sent is plain, so what is signed is, and then the URL is taken as it is
    rw [← eq, path_eq] at plain
    have question : '?' ∉ (resolved client.baseUrl).rdropWhile (· == '/') := fun mem =>
      resolved_no_question std hb ((List.rdropWhile_prefix _ _).subset mem)
    have text := plain_of_signed question plain
    have joint := url_eq text
    rw [← eq, path_eq] at joint
    obtain ⟨front, back⟩ := joint_eq_iff.mp joint
    exact ⟨front, back, text⟩
  · rintro ⟨front, back, text⟩
    refine ⟨path, url, signed, sent, ?_⟩
    rw [← String.toList_inj, path_eq, url_eq text]
    exact joint_eq_iff.mpr ⟨front, back⟩

end

/-! ## A parser for one origin -/

/-- Letters, digits and a few signs are plain; the dots are not percent-encoded. -/
def sampleUrlSyntax : UrlSyntax where
  pathChar c := c.isAlphanum || c == '/' || c == '.' || c == '_'
  queryChar c := c.isAlphanum || c == '=' || c == '&' || c == '.' || c == '-'
  isDot segment := segment == ['.'] || segment == ['.', '.']
  pathChar_slash := by decide
  pathChar_question := by decide
  isDot_nil := by decide

instance (path : List Char) : Decidable (sampleUrlSyntax.PlainPath path) :=
  decidable_of_iff (path.all sampleUrlSyntax.pathChar = true ∧
      (path.splitOn '/').all (!sampleUrlSyntax.isDot ·) = true)
    ⟨fun h => ⟨by simpa using h.1, by simpa using h.2⟩,
      fun h => ⟨by simpa using h.chars, by simpa using h.segments⟩⟩

instance (text : List Char) : Decidable (sampleUrlSyntax.Plain text) :=
  decidable_of_iff (sampleUrlSyntax.PlainPath (pathPart text) ∧
      (queryPart text).all (·.all sampleUrlSyntax.queryChar) = true)
    ⟨fun h => ⟨h.1, by simpa [Option.all_eq_true] using h.2⟩,
      fun h => ⟨h.path, by simpa [Option.all_eq_true] using h.query⟩⟩

/-- The one origin the parser knows. -/
def sampleOrigin : String := "https://api.coinbase.com"

/-- Everything behind the origin that is not plain is taken for its root. -/
def sampleParseUrl (text : String) : Except String Url :=
  let rest := text.toList.drop sampleOrigin.length
  if text.toList.take sampleOrigin.length = sampleOrigin.toList then
    if rest.head? = some '/' ∧ sampleUrlSyntax.Plain rest then
      .ok { hostStr := some "api.coinbase.com"
            path := String.ofList (pathPart rest)
            query := (queryPart rest).map String.ofList }
    else .ok { hostStr := some "api.coinbase.com", path := "/", query := none }
  else .error "relative URL without a base"

/-- The origin with a plain path. -/
def sampleIsBase (base : String) : Prop :=
  ∃ path, base = sampleOrigin ++ String.ofList path ∧ path.head? = some '/' ∧
    sampleUrlSyntax.PlainPath path

/-- What is behind the origin. -/
def sampleResolved (base : String) : List Char := base.toList.drop sampleOrigin.length

theorem sampleParseUrl_origin (rest : List Char) :
    sampleParseUrl (sampleOrigin ++ String.ofList rest) =
      if rest.head? = some '/' ∧ sampleUrlSyntax.Plain rest then
        .ok { hostStr := some "api.coinbase.com"
              path := String.ofList (pathPart rest)
              query := (queryPart rest).map String.ofList }
      else .ok { hostStr := some "api.coinbase.com", path := "/", query := none } := by
  unfold sampleParseUrl
  rw [String.toList_append, String.toList_ofList, ← String.length_toList, List.drop_left,
    List.take_left, if_pos rfl]

theorem sampleResolved_origin (path : List Char) :
    sampleResolved (sampleOrigin ++ String.ofList path) = path := by
  unfold sampleResolved
  rw [String.toList_append, String.toList_ofList, ← String.length_toList, List.drop_left]

theorem sample_standard :
    sampleUrlSyntax.Standard sampleParseUrl sampleIsBase sampleResolved where
  -- a base URL of this parser has a path already, so nothing is put behind it
  base := by
    rintro _ ⟨path, rfl, slash, plain⟩
    have part : pathPart (path ++ queryText none) = path := pathPart_queryText plain.no_question
    have rest : queryPart (path ++ queryText none) = none := queryPart_queryText plain.no_question
    rw [queryText, List.append_nil] at part rest
    have text : sampleUrlSyntax.Plain path := ⟨part.symm ▸ plain, by simp [rest]⟩
    rw [sampleParseUrl_origin, if_pos ⟨slash, text⟩, part]
    exact ⟨_, rfl, .inl (by rw [String.toList_ofList, sampleResolved_origin])⟩
  plain := by
    rintro _ text ⟨path, rfl, slash, plain⟩ h
    have tail : sampleUrlSyntax.Plain text := by
      have none_before : '?' ∉ ([] : List Char) := List.not_mem_nil
      exact UrlSyntax.Plain.of_append_slash none_before h
    have part : pathPart ([] ++ '/' :: text) = [] ++ '/' :: pathPart text :=
      pathPart_append_slash List.not_mem_nil
    have rest : queryPart ([] ++ '/' :: text) = queryPart text :=
      queryPart_append_slash List.not_mem_nil
    rw [List.nil_append, List.nil_append] at part
    rw [List.nil_append] at rest
    have head : (path ++ '/' :: text).head? = some '/' := by simp [slash]
    rw [String.append_assoc, ← String.ofList_append, sampleParseUrl_origin,
      if_pos ⟨head, tail.append_slash plain⟩, sampleResolved_origin, part, rest,
      pathPart_append_slash plain.no_question, queryPart_append_slash plain.no_question]
    refine ⟨_, rfl, String.toList_ofList, ?_⟩
    cases queryPart text <;> simp
  normal := by
    rintro _ text ⟨path, rfl, -, -⟩
    rw [String.append_assoc, ← String.ofList_append, sampleParseUrl_origin]
    split_ifs with h
    · refine ⟨_, rfl, ?_, ?_⟩
      · rw [String.toList_ofList]
        exact h.2.path
      · intro query hq c hc
        obtain ⟨chars, mem, rfl⟩ : ∃ chars, chars ∈ queryPart (path ++ '/' :: text) ∧
            String.ofList chars = query := Option.mem_map.mp hq
        rw [String.toList_ofList] at hc
        exact h.2.query chars mem c hc
    · exact ⟨_, rfl, by decide, by simp⟩

def sampleCoinbase (baseUrl : String) : ExchangeClient :=
  { exchangeType := .coinbase, baseUrl, caseTable := asciiCases }

theorem sampleIsBase_brokerage : sampleIsBase "https://api.coinbase.com/api/v3/brokerage" :=
  ⟨"/api/v3/brokerage".toList, by decide, by decide, by decide⟩

theorem sampleIsBase_brokerage_slash :
    sampleIsBase "https://api.coinbase.com/api/v3/brokerage/" :=
  ⟨"/api/v3/brokerage/".toList, by decide, by decide, by decide⟩

/-- Without a slash at the end of the base URL, and with one. -/
theorem sample_signsWhatItSends :
    SignsWhatItSends (sampleCoinbase "https://api.coinbase.com/api/v3/brokerage") sampleParseUrl
        "GET" "/accounts" "limit=250" ∧
      ¬ SignsWhatItSends (sampleCoinbase "https://api.coinbase.com/api/v3/brokerage/")
        sampleParseUrl "GET" "/accounts" "limit=250" := by
  have endpoint : "/accounts".toList = '/' :: "accounts".toList := by decide
  constructor
  · exact (signsWhatItSends_iff sample_standard sampleIsBase_brokerage endpoint).2.mpr
      ⟨by decide, by decide, by decide⟩
  · intro signs
    have agrees :=
      (signsWhatItSends_iff sample_standard sampleIsBase_brokerage_slash endpoint).2.mp signs
    exact agrees.1 (by decide)

/-- With a slash at the end of the base URL the path has two when it is sent. -/
theorem not_signsWhatItSends :
    sampleUrlSyntax.Standard sampleParseUrl sampleIsBase sampleResolved ∧
      sampleIsBase "https://api.coinbase.com/api/v3/brokerage/" ∧
      ¬ SignsWhatItSends (sampleCoinbase "https://api.coinbase.com/api/v3/brokerage/")
        sampleParseUrl "POST" "/orders" "\x7b\x7d" := by
  refine ⟨sample_standard, sampleIsBase_brokerage_slash, ?_⟩
  rintro ⟨path, url, signed, sent, rfl⟩
  have sent_eq : sampleParseUrl
      ((sampleCoinbase "https://api.coinbase.com/api/v3/brokerage/").coinbaseUrl "POST" "/orders"
        "\x7b\x7d") =
      .ok { hostStr := some "api.coinbase.com", path := "/api/v3/brokerage//orders",
            query := none } := by decide +kernel
  have signed_eq :
      (sampleCoinbase "https://api.coinbase.com/api/v3/brokerage/").coinbaseRequestPath
        sampleParseUrl "/orders" (coinbaseQuery "POST" "\x7b\x7d") =
      .ok "/api/v3/brokerage/orders" := by decide +kernel
  cases sent.symm.trans sent_eq
  have same : "/api/v3/brokerage/orders" = "/api/v3/brokerage//orders" :=
    Outcome.ok.inj (signed_eq.symm.trans signed)
  exact absurd same (by decide)

end ExchangeClient

end ArbEngine
