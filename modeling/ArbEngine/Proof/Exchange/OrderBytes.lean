import ArbEngine.Proof.Exchange.OrderFields
import ArbEngine.Proof.Exchange.RequestPath

/-!
# What an exchange understands of an order

The client turns an order into a request and signs it; what arrives is what the HTTP client has
parsed of the URL, with the headers and the body. An exchange goes the other way (`takes`): it
checks that the request is for its endpoint and that its key has signed it, each exchange in its
own way, and reads the fields of the order.

* Binance has the signature at the end of the query, over the query in front of it.
* Bybit puts the payload together again from the headers and the body.
* Coinbase has a token, which names the method, the host and the path of the request it is for.

`sent_orders_are_understood` says when this gives back the order that was meant. It can fail in two
ways, which the endpoints for the exchanges do not share: a name with an ampersand falls apart in
the query, and a base URL that ends in a slash makes a token for Coinbase that is for another path
than the one the request is sent to. The clock readings in a request are not looked at.
-/

namespace ArbEngine

open QueryString (Param PlainKey)

/-! ## The side of the exchange -/

/-- Where an exchange is, and what it works with. `parseUrl` is the parser of the HTTP client,
    which decides what a request looks like when it arrives; `decode` reads the value of a form
    field, and `verify` checks the signature of a token with the public key of the account and
    hands back what the token claims. -/
structure ExchangeSide where
  host : String
  /-- The path under which the endpoints are. -/
  root : String
  parseUrl : String → Except String Url
  decode : List Char → List Char
  hmac : String → String → String
  verify : String → Option CoinbaseJwtClaims

/-- The text behind a prefix, and nothing for a text that does not begin with it. -/
def behind (front text : List Char) : Option (List Char) :=
  if front.isPrefixOf text then some (text.drop front.length) else none

/-- Of a text in two parts it is the second part. -/
theorem behind_append (front text : List Char) : behind front (front ++ text) = some text := by
  have h : front.isPrefixOf (front ++ text) = true := by
    rw [List.isPrefixOf_iff_prefix]
    exact List.prefix_append front text
  rw [behind, if_pos h, List.drop_left]

namespace ExchangeSide

variable (exchange : ExchangeSide)

/-- The URL of a request as it arrives, if it is one for this endpoint. The parser of the HTTP
    client may have changed the URL that was asked for: it drops a fragment and escapes what a URL
    does not carry, and only the outcome reaches the exchange. -/
def receives (endpoint : String) (request : HttpRequest) : Option Url :=
  match exchange.parseUrl request.url with
  | .error _ => none
  | .ok url =>
      if request.method = "POST" ∧ url.hostStr = some exchange.host ∧
          url.path = exchange.root ++ endpoint then some url
      else none

/-- Binance takes the signature off the end of the query and checks it against the rest. So it is
    over the query as it arrives, while the client has signed the query as it wrote it. -/
def binanceTakes (key : ApiKey) (request : HttpRequest) : Option PlacedOrder := do
  let url ← exchange.receives "/api/v3/order" request
  let query ← url.query
  let (signed, last) := QueryString.splitLast query.toList
  if request.headers.lookup "X-MBX-APIKEY" = some key.apiKey ∧
      last = ("signature".toList, (exchange.hmac key.secret (String.ofList signed)).toList) then
    PlacedOrder.ofQuery exchange.decode signed
  else none

/-- Bybit puts the payload together again from the headers and the body, in the order of its
    documentation. The URL is not signed. -/
def bybitTakes (key : ApiKey) (request : HttpRequest) : Option PlacedOrder := do
  let _ ← exchange.receives "/v5/order/create" request
  let apiKey ← request.headers.lookup "X-BAPI-API-KEY"
  let sign ← request.headers.lookup "X-BAPI-SIGN"
  let timestamp ← request.headers.lookup "X-BAPI-TIMESTAMP"
  let window ← request.headers.lookup "X-BAPI-RECV-WINDOW"
  let body ← request.body
  if apiKey = key.apiKey ∧
      sign = exchange.hmac key.secret (timestamp ++ apiKey ++ window ++ body) then
    (Json.ofText body.toList).bind PlacedOrder.ofBybitBody
  else none

/-- Coinbase wants a token that verifies, is this key's, and is for this very request. The body is
    not signed, but the path of the request is among the claims. -/
def coinbaseTakes (key : ApiKey) (request : HttpRequest) : Option PlacedOrder := do
  let url ← exchange.receives "/orders" request
  let authorization ← request.headers.lookup "Authorization"
  let token ← behind "Bearer ".toList authorization.toList
  let claims ← exchange.verify (String.ofList token)
  let body ← request.body
  if claims.sub = key.apiKey ∧ claims.iss = "cdp" ∧
      claims.uri = "POST " ++ exchange.host ++ url.path then
    (Json.ofText body.toList).bind PlacedOrder.ofCoinbaseBody
  else none

/-- What the exchange understands of a request under this key. -/
def takes (exchangeType : ExchangeType) (key : ApiKey) (request : HttpRequest) :
    Option PlacedOrder :=
  match exchangeType with
  | .binance => exchange.binanceTakes key request
  | .bybit => exchange.bybitTakes key request
  | .coinbase => exchange.coinbaseTakes key request

end ExchangeSide

/-! ## What the two sides agree on -/

/-- Letters and digits stand for themselves in a URL, and so does what else the client writes into
    a query. A word of them is no dot segment, so the paths of the endpoints are not rewritten. -/
structure UrlSyntax.Ordinary (s : UrlSyntax) : Prop where
  path : ∀ c : Char, c.isAlphanum = true → s.pathChar c = true
  query : ∀ c : Char, c.isAlphanum = true → s.queryChar c = true
  marks : ∀ c ∈ ['&', '=', '.', '-'], s.queryChar c = true
  word : ∀ segment : List Char, segment ≠ [] → (∀ c ∈ segment, c.isAlphanum = true) →
    s.isDot segment = false

/-- The key of the client is known to the exchange: both compute the same HMAC, in hexadecimal, and
    a token verifies that was signed with the secret of the key, for the claims in it. -/
structure ExchangeSide.Knows (exchange : ExchangeSide) (crates : SigningCrates) (key : ApiKey) :
    Prop where
  parses : crates.coinbase.parseUrl = exchange.parseUrl
  hmac : crates.hmac = exchange.hmac
  hex : ∀ secret payload, ∀ c ∈ (exchange.hmac secret payload).toList, c.isAlphanum = true
  verifies : ∀ header claims headerBytes claimsBytes r s raw,
    header.kid = key.apiKey →
    crates.coinbase.headerJson header = .ok headerBytes →
    crates.coinbase.claimsJson claims = .ok claimsBytes →
    crates.coinbase.sign (replaceText key.secret "\\n" "\n")
        (crates.coinbase.encode headerBytes ++ "." ++ crates.coinbase.encode claimsBytes) =
      .ok (r, s) →
    rawSignature r s = .ok raw →
    exchange.verify (crates.coinbase.encode headerBytes ++ "." ++
      crates.coinbase.encode claimsBytes ++ "." ++ crates.coinbase.encode raw) = some claims

/-- The base URL of the client leads to this exchange: what is asked for under it arrives at this
    host, and the endpoints of the exchange are under the path that the base URL resolves to. -/
structure ExchangeSide.Serves (exchange : ExchangeSide) (client : ExchangeClient)
    (resolved : String → List Char) : Prop where
  host : ∀ url, exchange.parseUrl client.baseUrl = .ok url → url.hostStr = some exchange.host
  under : ∀ text url, exchange.parseUrl (client.baseUrl ++ String.ofList ('/' :: text)) = .ok url →
    url.hostStr = some exchange.host
  root : exchange.root = String.ofList (resolved client.baseUrl)

namespace ExchangeClient

variable {client : ExchangeClient} {exchange : ExchangeSide} {crates : SigningCrates}
  {key : ApiKey} {stamp : RequestStamp} {order : OrderRequest} {request : HttpRequest}
  {s : UrlSyntax} {isBase : String → Prop} {resolved : String → List Char}

/-- The endpoints for orders are words between slashes. They arrive as they are written, since
    there is nothing in them to escape and no segment that a parser resolves. -/
theorem plainPath_orderEndpoint {s : UrlSyntax} (ordinary : s.Ordinary)
    (exchangeType : ExchangeType) : s.PlainPath (orderEndpoint exchangeType).toList := by
  constructor
  · have chars : (orderEndpoint exchangeType).toList.all (fun c => c == '/' || c.isAlphanum) =
        true := by
      cases exchangeType <;> decide
    intro c hc
    rcases Bool.or_eq_true_iff.mp (List.all_eq_true.mp chars c hc) with slash | alphanum
    · rw [eq_of_beq slash]
      exact s.pathChar_slash
    · exact ordinary.path c alphanum
  · have words : ∀ segment ∈ (orderEndpoint exchangeType).toList.splitOn '/', segment = [] ∨
        segment ≠ [] ∧ segment.all Char.isAlphanum = true := by
      cases exchangeType <;> decide
    intro segment hs
    rcases words segment hs with rfl | ⟨some_, alphanum⟩
    · exact s.isDot_nil
    · exact ordinary.word segment some_ (List.all_eq_true.mp alphanum)

/-- What stands behind the slash of an endpoint. -/
theorem orderEndpoint_cons (exchangeType : ExchangeType) :
    ∃ rest, (orderEndpoint exchangeType).toList = '/' :: rest := by
  cases exchangeType <;> exact ⟨_, rfl⟩

/-- A request that places an order is a POST, which the client knows how to send. -/
theorem requestBuilder_post : requestBuilder "POST" = .ok () := if_pos (.inr (.inl rfl))

/-- A plain query behind an endpoint arrives as it was written. This is the only place where the
    exchanges' side and the standard for URLs meet; the three exchanges differ in the query, which
    Binance alone has. -/
theorem receives_query (std : s.Standard exchange.parseUrl isBase resolved)
    (ordinary : s.Ordinary) (hb : isBase client.baseUrl) (serves : exchange.Serves client resolved)
    (exchangeType : ExchangeType) (query : Option (List Char))
    (plain : ∀ q ∈ query, ∀ c ∈ q, s.queryChar c = true) (method : request.method = "POST")
    (url : request.url = client.baseUrl ++ orderEndpoint exchangeType ++
      String.ofList (queryText query)) :
    ∃ arrived, exchange.receives (orderEndpoint exchangeType) request = some arrived ∧
      arrived.path = exchange.root ++ orderEndpoint exchangeType ∧
      arrived.query.map String.toList = query := by
  obtain ⟨rest, endpoint⟩ := orderEndpoint_cons exchangeType
  have path := plainPath_orderEndpoint ordinary exchangeType
  have whole : '/' :: (rest ++ queryText query) =
      (orderEndpoint exchangeType).toList ++ queryText query := by rw [endpoint, List.cons_append]
  -- the standard is about what stands behind the base URL as a whole
  have text : s.Plain ('/' :: (rest ++ queryText query)) := by
    rw [whole]
    constructor
    · rwa [pathPart_queryText path.no_question]
    · rwa [queryPart_queryText path.no_question]
  -- the URL as the client puts it together
  have written : request.url =
      client.baseUrl ++ String.ofList ('/' :: (rest ++ queryText query)) := by
    rw [url, whole, ← String.toList_inj]
    simp
  obtain ⟨arrived, parsed, path_eq, query_eq⟩ := std.plain _ _ hb text
  rw [whole, pathPart_queryText path.no_question] at path_eq
  rw [whole, queryPart_queryText path.no_question] at query_eq
  -- the parts of what has arrived
  have host := serves.under _ _ parsed
  have place : arrived.path = exchange.root ++ orderEndpoint exchangeType := by
    rw [← String.toList_inj, path_eq, serves.root, String.toList_append, String.toList_ofList]
  refine ⟨arrived, ?_, place, query_eq⟩
  rw [ExchangeSide.receives, written, parsed]
  exact if_pos ⟨method, host, place⟩

/-! ## Binance -/

/-- The query with its signature has nothing in it that a URL does not carry: the keys are letters,
    the numbers digits, points and minus signs, the signature is hexadecimal, and of the names it
    is assumed. -/
theorem queryChar_binance (ordinary : s.Ordinary) (timestamp : ℕ) {signature : String}
    (symbol : ∀ c ∈ order.symbol.toList, s.queryChar c = true)
    (side : ∀ c ∈ order.side.toList, s.queryChar c = true)
    (hex : ∀ c ∈ signature.toList, c.isAlphanum = true) :
    ∀ c ∈ (binanceQuery (orderParams .binance stamp order) timestamp).toList ++
        '&' :: QueryString.paramText ("signature".toList, signature.toList),
      s.queryChar c = true := by
  have equals := ordinary.marks '=' (by decide)
  have between := ordinary.marks '&' (by decide)
  have keys := keys_binance order timestamp
  have values := forall_binanceValues (P := (s.queryChar · = true)) timestamp ordinary.query
    (ordinary.marks '.' (by decide)) (ordinary.marks '-' (by decide)) symbol side
  have word : "signature".toList.all Char.isAlphanum = true := by decide
  intro c hc
  rw [List.mem_append, List.mem_cons, QueryString.paramText, List.mem_append, List.mem_cons] at hc
  rcases hc with inQuery | rfl | inKey | rfl | inValue
  · rw [binanceQuery_order] at inQuery
    rcases QueryString.mem_text inQuery with rfl | rfl | ⟨p, hp, inKey | inValue⟩
    · exact between
    · exact equals
    · exact ordinary.query c (keys p hp c inKey)
    · exact values p hp c inValue
  · exact between
  · exact ordinary.query c (List.all_eq_true.mp word c inKey)
  · exact equals
  · exact ordinary.query c (hex c inValue)

/-- **Binance checks the signature that the client has made.** The query arrives unchanged, its
    last parameter is the signature, and what is in front of it is what was signed, so the HMAC is
    the same and the order is read from it. -/
theorem binanceTakes_sent (std : s.Standard exchange.parseUrl isBase resolved)
    (ordinary : s.Ordinary) (hb : isBase client.baseUrl) (serves : exchange.Serves client resolved)
    (hex : ∀ secret payload, ∀ c ∈ (exchange.hmac secret payload).toList, c.isAlphanum = true)
    (symbol : ∀ c ∈ order.symbol.toList, s.queryChar c = true)
    (side : ∀ c ∈ order.side.toList, s.queryChar c = true) {timestamp : ℕ}
    (sent : client.binanceRequest exchange.hmac key timestamp "POST" "/api/v3/order"
      (orderParams .binance stamp order) = .ok request) :
    exchange.binanceTakes key request = PlacedOrder.ofQuery exchange.decode
      (binanceQuery (orderParams .binance stamp order) timestamp).toList := by
  rw [binanceRequest, requestBuilder_post, Outcome.ok_bind] at sent
  have made := Outcome.ok.inj sent
  set query := binanceQuery (orderParams .binance stamp order) timestamp with query_eq
  set signature := exchange.hmac key.secret query with signature_eq
  have signed := hex key.secret query
  -- the request carries the signature behind the query that was signed
  have plain : ∀ c ∈ query.toList ++ '&' :: QueryString.paramText
      ("signature".toList, signature.toList), s.queryChar c = true :=
    queryChar_binance ordinary timestamp symbol side signed
  have method : request.method = "POST" := by rw [← made]
  have url : request.url = client.baseUrl ++ orderEndpoint .binance ++ String.ofList (queryText
      (some (query.toList ++
        '&' :: QueryString.paramText ("signature".toList, signature.toList)))) := by
    rw [← made, ← String.toList_inj]
    simp [orderEndpoint, queryText, QueryString.paramText]
  obtain ⟨arrived, received, -, arrived_eq⟩ := receives_query std ordinary hb serves .binance _
    (fun q hq => Option.some.inj hq ▸ plain) method url
  obtain ⟨text, query_some, text_eq⟩ := Option.map_eq_some_iff.mp arrived_eq
  have alphanum : '&' ∉ signature.toList := fun inside =>
    absurd (signed '&' inside) (by decide)
  have key' : PlainKey "signature".toList := by decide
  -- an alphanumeric signature has no ampersand, so splitting off the last parameter finds just it
  have last : '&' ∉ QueryString.paramText ("signature".toList, signature.toList) := by
    rw [QueryString.paramText, List.mem_append, List.mem_cons]
    rintro (inKey | equals | inValue)
    · exact key'.2 inKey
    · exact absurd equals (by decide)
    · exact alphanum inValue
  unfold ExchangeSide.binanceTakes
  rw [show "/api/v3/order" = orderEndpoint .binance from rfl, received]
  simp only [bind, Option.bind_some]
  rw [query_some]
  simp only [Option.bind_some]
  rw [text_eq, QueryString.splitLast_append last, QueryString.readParam_paramText key']
  dsimp only
  rw [String.ofList_toList, ← made, if_pos]
  exact ⟨rfl, rfl⟩

/-! ## Bybit -/

/-- **Bybit checks the signature that the client has made.** The payload that it puts together from
    the headers is the one that was signed, and the body is JSON, which is read back as it was
    written. -/
theorem bybitTakes_sent (std : s.Standard exchange.parseUrl isBase resolved)
    (ordinary : s.Ordinary) (hb : isBase client.baseUrl) (serves : exchange.Serves client resolved)
    {timestamp : ℕ} {body : Json}
    (sent : client.bybitRequest exchange.hmac key timestamp "POST" "/v5/order/create"
      (String.ofList body.text) = .ok request) :
    exchange.bybitTakes key request = PlacedOrder.ofBybitBody body := by
  rw [bybitRequest, if_neg (by decide), requestBuilder_post] at sent
  have made := Outcome.ok.inj sent
  have method : request.method = "POST" := by rw [← made]
  have url : request.url =
      client.baseUrl ++ orderEndpoint .bybit ++ String.ofList (queryText none) := by
    rw [← made]
    simp [orderEndpoint, queryText]
  obtain ⟨arrived, received, -, -⟩ := receives_query std ordinary hb serves .bybit none
    (by simp) method url
  unfold ExchangeSide.bybitTakes
  rw [show "/v5/order/create" = orderEndpoint .bybit from rfl, received, ← made]
  simp [List.lookup_cons, bybitPayload]

/-! ## Coinbase -/

theorem orSerializationError_eq_ok {α : Type} {x : Except String α} {a : α}
    (h : orSerializationError x = .ok a) : x = .ok a := by
  cases x with
  | error e => cases h
  | ok b =>
    cases h
    rfl

/-- The exchange reads from the token what the client has put into it. -/
theorem verify_coinbaseJwt {nonce method path token : String} {now : ℕ}
    (known : exchange.Knows crates key) (serves : exchange.Serves client resolved)
    (h : client.coinbaseJwt crates.coinbase key.apiKey key.secret now nonce method path =
      .ok token) :
    exchange.verify token = some
      { sub := key.apiKey
        iss := "cdp"
        nbf := now
        exp := now + 120
        uri := client.caseTable.toUppercase method ++ " " ++ exchange.host ++ path } := by
  obtain ⟨host, hhost, behindHost⟩ := Outcome.bind_eq_ok.mp h
  obtain ⟨header, hheader, behindHeader⟩ := Outcome.bind_eq_ok.mp behindHost
  obtain ⟨claims, hclaims, signing⟩ := Outcome.bind_eq_ok.mp behindHeader
  have here : host = exchange.host := by
    obtain ⟨base, parsed, named⟩ := Outcome.bind_eq_ok.mp hhost
    have parsed := orSerializationError_eq_ok parsed
    rw [known.parses] at parsed
    rw [serves.host base parsed] at named
    exact (Outcome.ok.inj named).symm
  subst here
  dsimp only at signing
  split at signing
  · cases signing
  · next r s signed =>
    obtain ⟨raw, hraw, written⟩ := Outcome.bind_eq_ok.mp signing
    cases written
    exact known.verifies _ _ _ _ r s raw rfl (orSerializationError_eq_ok hheader)
      (orSerializationError_eq_ok hclaims) signed hraw

theorem toUppercase_post (table : CaseTable) : table.toUppercase "POST" = "POST" := by
  have own : ∀ c ∈ "POST".toList, table.upper c = [c] := by
    have ascii : "POST".toList.all (fun c => c.toNat < 128 && c.toUpper == c) = true := by decide
    intro c hc
    obtain ⟨small, upper⟩ := Bool.and_eq_true_iff.mp (List.all_eq_true.mp ascii c hc)
    rw [table.ascii c (of_decide_eq_true small), eq_of_beq upper]
  have same : "POST".toList.flatMap table.upper = "POST".toList := by
    rw [List.flatMap_congr own]
    simp
  rw [CaseTable.toUppercase, same, String.ofList_toList]

/-- **Coinbase lets the token pass exactly where it is for the path that the request arrives at.**
    The client trims the slashes at the end of the base path before it signs, and the request is
    sent to the path as it is, so the two differ where the base URL ends in a slash. -/
theorem coinbaseTakes_sent (std : s.Standard exchange.parseUrl isBase resolved)
    (ordinary : s.Ordinary) (hb : isBase client.baseUrl) (serves : exchange.Serves client resolved)
    (known : exchange.Knows crates key) (coinbase : client.exchangeType = .coinbase) {body : Json}
    (sent : client.signedRequest crates key stamp "POST" "/orders" (String.ofList body.text) =
      .ok request) :
    exchange.coinbaseTakes key request =
      if (resolved client.baseUrl).getLast? ≠ some '/' then PlacedOrder.ofCoinbaseBody body
      else none := by
  rw [signedRequest, coinbase] at sent
  obtain ⟨made, hmade, sent⟩ := Outcome.bind_eq_ok.mp sent
  have whole := Outcome.ok.inj sent
  obtain ⟨path, hpath, behindPath⟩ := Outcome.bind_eq_ok.mp hmade
  obtain ⟨token, htoken, behindToken⟩ := Outcome.bind_eq_ok.mp behindPath
  obtain ⟨u, -, written⟩ := Outcome.bind_eq_ok.mp behindToken
  obtain rfl := Outcome.ok.inj written
  have verified := verify_coinbaseJwt known serves htoken
  rw [toUppercase_post] at verified
  have noQuery : ∀ params, coinbaseQuery "POST" params = none :=
    fun _ => if_neg fun get => absurd get.1 (by decide)
  have endpoint : "/orders".toList = '/' :: "orders".toList := rfl
  -- what arrives is below the base URL as it is, what is signed below the base URL trimmed
  have method : request.method = "POST" := by rw [← whole]
  have url : request.url =
      client.baseUrl ++ orderEndpoint .coinbase ++ String.ofList (queryText none) := by
    rw [← whole]
    simp [coinbaseUrl, noQuery, orderEndpoint, queryText]
  obtain ⟨arrived, received, place, -⟩ := receives_query std ordinary hb serves .coinbase none
    (by simp) method url
  obtain ⟨path', -, signed, -, path_eq, -⟩ :=
    signed_and_sent "POST" (String.ofList body.text) std hb endpoint
  rw [known.parses, signed] at hpath
  obtain rfl := Outcome.ok.inj hpath
  have joint : path' = arrived.path ↔ (resolved client.baseUrl).getLast? ≠ some '/' := by
    have trimmed : (resolved client.baseUrl).rdropWhile (· == '/') ++
          '/' :: ("orders".toList.dropWhile (· == '/') ++ []) =
        resolved client.baseUrl ++ '/' :: ("orders".toList ++ []) ↔ _ := joint_eq_iff
    rw [List.append_nil, List.append_nil] at trimmed
    have first : "orders".toList.head? ≠ some '/' := by decide
    have root : exchange.root.toList = resolved client.baseUrl := by
      rw [serves.root, String.toList_ofList]
    rw [← String.toList_inj, path_eq, noQuery, place, String.toList_append, root, Option.map_none,
      queryText, List.append_nil]
    exact trimmed.trans (and_iff_left first)
  have uri : "POST" ++ " " ++ exchange.host ++ path' = "POST " ++ exchange.host ++ arrived.path ↔
      (resolved client.baseUrl).getLast? ≠ some '/' := by
    have front : "POST" ++ " " ++ exchange.host = "POST " ++ exchange.host := rfl
    rw [← joint, front, String.append_right_inj]
  unfold ExchangeSide.coinbaseTakes
  rw [show "/orders" = orderEndpoint .coinbase from rfl, received, ← whole]
  have bearer : behind "Bearer ".toList ("Bearer " ++ token).toList = some token.toList := by
    rw [String.toList_append, behind_append]
  simp only [bind, Option.bind_some, List.cons_append, List.lookup_cons_self, bearer,
    String.ofList_toList, verified, uri, true_and]
  have posted : (if "POST" = "GET" then none else some (String.ofList body.text)) =
      some (String.ofList body.text) := if_neg (by decide)
  rw [posted, Option.bind_some, String.toList_ofList, Json.ofText_text, Option.bind_some]

/-- The three together, for an order with any names. Each exchange has one thing that can go wrong
    at most: the names for Binance, the base URL for Coinbase, and nothing for Bybit. -/
theorem order_is_taken_iff (std : s.Standard exchange.parseUrl isBase resolved)
    (ordinary : s.Ordinary) (hb : isBase client.baseUrl) (serves : exchange.Serves client resolved)
    (decodes : Decodes exchange.decode) (known : exchange.Knows crates key)
    (decimals : order.Decimals) (endpoint : order.endpoint = orderEndpoint client.exchangeType)
    (carried : client.exchangeType = .binance → ∀ name ∈ [order.symbol, order.side],
      Unescaped name ∧ ∀ c ∈ name.toList, s.queryChar c = true)
    (sent : client.orderHttpRequest crates key stamp order = .ok request) :
    exchange.takes client.exchangeType key request = some order.meant ↔
      (client.exchangeType = .binance → '&' ∉ order.symbol.toList ∧ '&' ∉ order.side.toList) ∧
      (client.exchangeType = .coinbase → (resolved client.baseUrl).getLast? ≠ some '/') := by
  unfold orderHttpRequest at sent
  rw [endpoint] at sent
  unfold ExchangeSide.takes
  -- one exchange has a query to read, one a body, and one a body under a token
  cases exchangeType : client.exchangeType with
  | binance =>
    rw [exchangeType, signedRequest, exchangeType] at sent
    dsimp only [orderEndpoint] at sent ⊢
    rw [known.hmac] at sent
    obtain ⟨symbolPlain, symbolChars⟩ := carried exchangeType order.symbol List.mem_cons_self
    obtain ⟨sidePlain, sideChars⟩ :=
      carried exchangeType order.side (List.mem_cons_of_mem _ List.mem_cons_self)
    rw [binanceTakes_sent std ordinary hb serves known.hex symbolChars sideChars sent,
      ofQuery_binance_iff decodes symbolPlain sidePlain decimals]
    simp
  | bybit =>
    rw [exchangeType, signedRequest, exchangeType] at sent
    obtain ⟨body, written, understood⟩ := ofBybitBody_order decimals stamp
    dsimp only [orderEndpoint] at sent ⊢
    rw [known.hmac, written] at sent
    rw [bybitTakes_sent std ordinary hb serves sent, understood]
    simp
  | coinbase =>
    rw [exchangeType] at sent
    obtain ⟨body, written, understood⟩ := ofCoinbaseBody_order decimals stamp
    dsimp only [orderEndpoint] at sent ⊢
    rw [written] at sent
    rw [coinbaseTakes_sent std ordinary hb serves known exchangeType sent, understood]
    simp

/-- The order that `create_limit_ioc_order` makes, or without a price `create_market_order`. -/
def makeOrder (client : ExchangeClient) (symbol side : String) (amount : TokenAmount) :
    Option ℚ → Outcome OrderRequest
  | some price => client.createLimitIocOrder symbol side amount price
  | none => client.createMarketOrder symbol side amount

/-- An order that is made has the symbol of the exchange, the side in capitals, and exactly the
    amount that was asked for. The only refusal is for an amount with more decimals than a
    `Decimal` has. -/
theorem makeOrder_eq_ok {symbol side : String} {amount : TokenAmount} {price : Option ℚ}
    (h : client.makeOrder symbol side amount price = .ok order) :
    amount.decimals ≤ maxDecimalScale ∧
      order = { endpoint := orderEndpoint client.exchangeType
                symbol := client.normalizeSymbol symbol
                side := client.caseTable.toUppercase side
                quantity := amount.human
                price := price } := by
  have scale : ∀ {quantity : ℚ}, amount.toHuman = .ok quantity →
      amount.decimals ≤ maxDecimalScale ∧ quantity = amount.human := by
    intro quantity hq
    by_cases fits : amount.decimals ≤ maxDecimalScale
    · rw [TokenAmount.toHuman_eq_ok fits] at hq
      exact ⟨fits, (Outcome.ok.inj hq).symm⟩
    · rw [TokenAmount.toHuman, if_neg fits] at hq
      cases hq
  cases price <;>
    obtain ⟨quantity, hq, h⟩ := Outcome.bind_eq_ok.mp h <;>
    obtain ⟨fits, rfl⟩ := scale hq <;>
    exact ⟨fits, (Outcome.ok.inj h).symm⟩

theorem sample_ordinary : sampleUrlSyntax.Ordinary where
  path c h := by simp [sampleUrlSyntax, h]
  query c h := by simp [sampleUrlSyntax, h]
  marks := by simp [sampleUrlSyntax]
  word segment some_ alphanum := by
    have dots : ∀ dotted ∈ [['.'], ['.', '.']], segment ≠ dotted := by
      rintro dotted hd rfl
      have head : '.' ∈ segment := by
        rcases List.mem_cons.mp hd with rfl | hd
        · decide
        · rw [List.mem_singleton.mp hd]
          decide
      exact absurd (alphanum '.' head) (by decide)
    have one := dots _ List.mem_cons_self
    have two := dots _ (List.mem_cons_of_mem _ List.mem_cons_self)
    simp [sampleUrlSyntax, one, two]

/-- The sample parser knows this host only. -/
theorem sampleParseUrl_host (text : String) (url : Url) (h : sampleParseUrl text = .ok url) :
    url.hostStr = some "api.coinbase.com" := by
  unfold sampleParseUrl at h
  dsimp only at h
  split_ifs at h <;> cases h <;> rfl

/-- The alphabet of base64 in URLs. -/
def base64Digit (n : ℕ) : Char :=
  "ABCDEFGHIJKLMNOPQRSTUVWXYZabcdefghijklmnopqrstuvwxyz0123456789-_".toList.getD n '='

/-- Base64 without padding: three bytes make four digits, and the rest at the end makes two or
    three. -/
def base64Url : List UInt8 → List Char
  | [] => []
  | [a] => [base64Digit (a.toNat / 4), base64Digit (a.toNat % 4 * 16)]
  | [a, b] =>
      [base64Digit (a.toNat / 4), base64Digit (a.toNat % 4 * 16 + b.toNat / 16),
        base64Digit (b.toNat % 16 * 4)]
  | a :: b :: c :: rest =>
      base64Digit (a.toNat / 4) :: base64Digit (a.toNat % 4 * 16 + b.toNat / 16) ::
        base64Digit (b.toNat % 16 * 4 + c.toNat / 64) :: base64Digit (c.toNat % 64) ::
        base64Url rest

/-- The bytes of a text in ASCII. -/
def asciiBytes (text : List Char) : List UInt8 := text.map fun c => UInt8.ofNat c.toNat

def sampleHeader : CoinbaseJwtHeader :=
  { alg := "ES256", typ := "JWT", kid := "key", nonce := "00ff" }

def sampleClaims : CoinbaseJwtClaims :=
  { sub := "key", iss := "cdp", nbf := 1700000000, exp := 1700000120,
    uri := "POST api.coinbase.com/api/v3/brokerage/orders" }

def sampleHeaderBytes : List UInt8 :=
  asciiBytes (jsonObj [("alg", jsonStr sampleHeader.alg), ("typ", jsonStr sampleHeader.typ),
    ("kid", jsonStr sampleHeader.kid), ("nonce", jsonStr sampleHeader.nonce)]).text

def sampleClaimsBytes : List UInt8 :=
  asciiBytes (jsonObj [("sub", jsonStr sampleClaims.sub), ("iss", jsonStr sampleClaims.iss),
    ("nbf", .num (.ofInt sampleClaims.nbf)), ("exp", .num (.ofInt sampleClaims.exp)),
    ("uri", jsonStr sampleClaims.uri)]).text

/-- The curve is left to two small numbers. -/
def sampleSigning : SigningCrates where
  hmac secret payload := toString (secret.length + payload.length)
  coinbase :=
    { parseUrl := sampleParseUrl
      headerJson := fun header =>
        if header = sampleHeader then .ok sampleHeaderBytes else .error "another header"
      claimsJson := fun claims =>
        if claims = sampleClaims then .ok sampleClaimsBytes else .error "other claims"
      encode := fun bytes => String.ofList (base64Url bytes)
      sign := fun _ _ => .ok ([1], [2]) }

/-- The token for the order, and the only one that the exchange lets pass. -/
def sampleToken : String :=
  String.ofList (base64Url sampleHeaderBytes) ++ "." ++
    String.ofList (base64Url sampleClaimsBytes) ++ "." ++
    String.ofList (base64Url (List.replicate 31 0 ++ [1] ++ List.replicate 31 0 ++ [2]))

def sampleExchange : ExchangeSide where
  host := "api.coinbase.com"
  root := "/api/v3/brokerage"
  parseUrl := sampleParseUrl
  decode := fun value => value
  hmac := sampleSigning.hmac
  verify := fun token => if token = sampleToken then some sampleClaims else none

/-- The exchange knows the key: the one token that it lets pass is the one for these claims, and a
    signature for others never comes about. -/
theorem sample_knows : sampleExchange.Knows sampleSigning ⟨"key", "secret"⟩ where
  parses := rfl
  hmac := rfl
  hex _ _ _ h := repr_chars h
  verifies := by
    intro header claims headerBytes claimsBytes r s raw _ hheader hclaims hsign hraw
    have rs : ([1], [2]) = (r, s) := Except.ok.inj hsign
    cases rs
    have raw_eq : raw = List.replicate 31 0 ++ [1] ++ List.replicate 31 0 ++ [2] := by
      have computed : rawSignature [1] [2] =
          .ok (List.replicate 31 0 ++ [1] ++ List.replicate 31 0 ++ [2]) := by decide
      exact Outcome.ok.inj (hraw.symm.trans computed)
    subst raw_eq
    dsimp only [sampleSigning] at hheader hclaims
    split_ifs at hheader with sameHeader
    split_ifs at hclaims with sameClaims
    cases hheader
    cases hclaims
    rw [sameClaims]
    change sampleExchange.verify sampleToken = some sampleClaims
    dsimp only [sampleExchange]
    rw [if_pos rfl]

/-- The base URL has the path of the API and no slash at its end. -/
theorem sample_serves : sampleExchange.Serves
    (sampleCoinbase "https://api.coinbase.com/api/v3/brokerage") sampleResolved where
  host := by
    intro url parsed
    dsimp only [sampleExchange] at parsed ⊢
    exact sampleParseUrl_host _ url parsed
  under := by
    intro text url parsed
    dsimp only [sampleExchange] at parsed ⊢
    exact sampleParseUrl_host _ url parsed
  root := by decide

end ExchangeClient
end ArbEngine
