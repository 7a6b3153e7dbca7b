import ArbEngine.Exchange.PrivateApi
import ArbEngine.Lib.JsonReader
import ArbEngine.Lib.QueryString
import ArbEngine.Proof.Core.AmountTexts
import ArbEngine.Proof.Exchange.Symbols

/-!
# What the fields of an order say

The client turns an order into a query or a JSON body, and an exchange reads the fields back, after
its documentation (`PlacedOrder`). JSON strings are quoted, so the bodies for Bybit and Coinbase
can carry any symbol (`ofBybitBody_order`, `ofCoinbaseBody_order`). The client escapes nothing in
the query for Binance, and a reader decodes what looks like an escape; of names without `%` and `+`
it reads back exactly those without an ampersand (`ofQuery_binance_iff`).

The reader of a form is a parameter of which only one thing is used: a value in which nothing looks
like an escape comes out as it went in (`Decodes`). What it makes of other values is not said here,
and `binance_query` never escapes anything, so such names are outside what the two sides agree on.
-/

namespace ArbEngine

open QueryString (Param PlainKey)

/-- An order as an exchange understands it; without a price it is one at the market. -/
structure PlacedOrder where
  symbol : String
  side : String
  quantity : ℚ
  price : Option ℚ
deriving DecidableEq

/-- The number in a text, if it is one. It is the reader of decimal numerals, for the fields are
    written as texts of `Decimal`s, whatever the exchange. -/
def numberOf (s : String) : Option ℚ := Numeral.read s.toList

/-- What the client writes for a `Decimal` is read as the same number. So quantities and prices
    never get lost between the two sides, and only names can. -/
theorem numberOf_decimalText {x : ℚ} (h : rustDecimal.Represents x) :
    numberOf (decimalText x) = some x :=
  read_decimalText h

/-- What a reader of forms promises: it leaves values alone in which nothing is escaped. A percent
    sign begins an escape, and a plus sign stands for a space. -/
def Decodes (decode : List Char → List Char) : Prop :=
  ∀ value, '%' ∉ value → '+' ∉ value → decode value = value

/-- Nothing in this text looks like an escape. -/
def Unescaped (s : String) : Prop := '%' ∉ s.toList ∧ '+' ∉ s.toList

namespace PlacedOrder

/-- An order by its fields: a limit order is immediate or cancelled. -/
def ofFields (field : String → Option String) (symbol quantity type limit market : String) :
    Option PlacedOrder := do
  let symbol ← field symbol
  let side ← field "side"
  let quantity ← (field quantity).bind numberOf
  let type ← field type
  if type = limit then
    let price ← (field "price").bind numberOf
    if field "timeInForce" = some "IOC" then
      return { symbol, side, quantity, price := some price }
    else none
  else if type = market then return { symbol, side, quantity, price := none }
  else none

/-- The parameters of a query, their values decoded. -/
def queryParams (decode : List Char → List Char) (query : List Char) : List Param :=
  (QueryString.read query).map fun p => (p.1, decode p.2)

/-- The value of a parameter; the first of a name counts. -/
def queryField (decode : List Char → List Char) (query : List Char) (name : String) :
    Option String :=
  ((queryParams decode query).lookup name.toList).map String.ofList

/-- The order in a query for Binance. All its fields are parameters, and one that is missing or has
    no number in it makes the whole query unreadable. -/
def ofQuery (decode : List Char → List Char) (query : List Char) : Option PlacedOrder :=
  ofFields (queryField decode query) "symbol" "quantity" "type" "LIMIT" "MARKET"

/-- The order in a body for Bybit. The fields are those of a query under other names, strings of
    one JSON object, and the category has to be the spot market. -/
def ofBybitBody (body : Json) : Option PlacedOrder :=
  if (body.index "category").asStr = some "spot" then
    ofFields (fun name => (body.index name).asStr) "symbol" "qty" "orderType" "Limit" "Market"
  else none

/-- The order in a body for Coinbase. Here the kind of an order is no field of its own: the
    configuration has exactly one entry, whose name says the kind and which holds the numbers. -/
def ofCoinbaseBody (body : Json) : Option PlacedOrder := do
  let symbol ← (body.index "product_id").asStr
  let side ← (body.index "side").asStr
  let configuration := body.index "order_configuration"
  match configuration.get? "sor_limit_ioc", configuration.get? "market_market_ioc" with
  | some c, none =>
      let quantity ← (c.index "base_size").asStr.bind numberOf
      let price ← (c.index "limit_price").asStr.bind numberOf
      return { symbol, side, quantity, price := some price }
  | none, some c =>
      let quantity ← (c.index "base_size").asStr.bind numberOf
      return { symbol, side, quantity, price := none }
  | _, _ => none

end PlacedOrder

/-- The order that is meant: what the request says before anything of it is written down. -/
def OrderRequest.meant (order : OrderRequest) : PlacedOrder where
  symbol := order.symbol
  side := order.side
  quantity := order.quantity
  price := order.price

/-- The numbers of an order are `Decimal`s. -/
structure OrderRequest.Decimals (order : OrderRequest) : Prop where
  quantity : rustDecimal.Represents order.quantity
  price : ∀ price, order.price = some price → rustDecimal.Represents price

/-! ## Fields of a JSON object -/

/-- Looking up a name among texts is looking it up among their characters, since two texts are
    equal where their characters are. The induction is over the entries; each one either has the
    name or is passed over on both sides. -/
theorem lookup_map_toList {α β : Type} (g : α → β) (entries : List (String × α)) (key : String) :
    (entries.map fun e => (e.1.toList, g e.2)).lookup key.toList = (entries.lookup key).map g := by
  induction entries with
  | nil => rfl
  | cons e entries ih =>
    obtain ⟨k, a⟩ := e
    by_cases same : key = k
    · simp [same]
    · have apart : key.toList ≠ k.toList := fun h => same (String.toList_inj.mp h)
      have miss : (key == k) = false := beq_eq_false_iff_ne.mpr same
      have miss' : (key.toList == k.toList) = false := beq_eq_false_iff_ne.mpr apart
      simp only [List.map_cons, List.lookup_cons, miss, miss', ih]

namespace ExchangeClient

variable {decode : List Char → List Char} {stamp : RequestStamp} {order : OrderRequest}

/-- A field of a literal object is its last entry of that name, for a parser lets later entries
    overwrite earlier ones. -/
theorem get?_jsonObj (entries : List (String × Json)) (name : String) :
    (jsonObj entries).get? name = entries.reverse.lookup name := by
  rw [jsonObj, Json.get?, ← List.map_reverse, lookup_map_toList fun a => a, Option.map_id']

/-- Indexing never fails: a name that is not there has the value `null`. -/
theorem index_jsonObj (entries : List (String × Json)) (name : String) :
    (jsonObj entries).index name = (entries.reverse.lookup name).getD .null := by
  rw [Json.index, get?_jsonObj]

@[simp] theorem asStr_jsonStr (s : String) : (jsonStr s).asStr = some s := by
  rw [jsonStr, Json.asStr_str, String.ofList_toList]

/-! ## Binance -/

/-- The parameters of an order in the query that is signed: the names, then what the kind of the
    order needs, and at the end the time. The signature is appended to the text of all of them. -/
def binanceParams (order : OrderRequest) (timestamp : ℕ) : List (String × String) :=
  [("symbol", order.symbol), ("side", order.side)] ++
    (match order.price with
    | some price =>
        [("type", "LIMIT"), ("timeInForce", "IOC"), ("quantity", decimalText order.quantity),
          ("price", decimalText price)]
    | none => [("type", "MARKET"), ("quantity", decimalText order.quantity)]) ++
    [("timestamp", toString timestamp)]

def asParams (fields : List (String × String)) : List Param :=
  fields.map fun f => (f.1.toList, f.2.toList)

/-- The query is the text of these parameters. An order has a symbol and a side in any case, so the
    client never takes the branch for an empty query. -/
theorem binanceQuery_order (order : OrderRequest) (stamp : RequestStamp) (timestamp : ℕ) :
    (binanceQuery (orderParams .binance stamp order) timestamp).toList =
      QueryString.text (asParams (binanceParams order timestamp)) := by
  have some_ : orderParams .binance stamp order ≠ "" := by
    intro empty
    have none := congrArg String.toList empty
    unfold orderParams at none
    cases price : order.price <;> simp [price] at none
  rw [binanceQuery, if_neg some_]
  unfold orderParams binanceParams asParams
  cases order.price <;>
    simp [QueryString.text, QueryString.paramText, List.append_assoc]

/-- The names of the parameters are fixed words, so a reader finds each of them whole. -/
theorem plainKeys_binance (order : OrderRequest) (timestamp : ℕ) :
    ∀ p ∈ asParams (binanceParams order timestamp), PlainKey p.1 := by
  unfold asParams binanceParams
  cases order.price <;> simp [PlainKey]

/-- They are letters throughout. That is what a URL carries under every standard, so only the
    values can be changed on the way. -/
theorem keys_binance (order : OrderRequest) (timestamp : ℕ) :
    ∀ p ∈ asParams (binanceParams order timestamp), ∀ c ∈ p.1, c.isAlphanum = true := by
  have words : ∀ key ∈ ["symbol", "side", "type", "timeInForce", "quantity", "price",
      "timestamp"], key.toList.all Char.isAlphanum = true := by decide
  have named : ∀ f ∈ binanceParams order timestamp, f.1 ∈ ["symbol", "side", "type",
      "timeInForce", "quantity", "price", "timestamp"] := by
    unfold binanceParams
    cases order.price <;> simp
  intro p hp
  obtain ⟨f, hf, rfl⟩ := List.mem_map.mp hp
  exact List.all_eq_true.mp (words f.1 (named f hf))

theorem isAlphanum_of_isDigit {c : Char} (h : c.isDigit = true) : c.isAlphanum = true := by
  rw [Char.isAlphanum, h, Bool.or_true]

/-- The text of a number is digits, at most one point, and a minus sign. A property of characters
    that holds of those holds of the whole text. -/
theorem decimalText_chars {P : Char → Prop} (alphanum : ∀ c : Char, c.isAlphanum = true → P c)
    (point : P '.') (minus : P '-') (x : ℚ) : ∀ c ∈ (decimalText x).toList, P c := by
  intro c h
  rw [decimalText_eq, String.toList_ofList] at h
  rcases Numeral.mem_text_ofScaled h with digit | rfl | rfl
  · exact alphanum c (isAlphanum_of_isDigit digit)
  · exact point
  · exact minus

/-- A timestamp is digits. -/
theorem repr_chars {n : ℕ} {c : Char} (h : c ∈ (toString n).toList) : c.isAlphanum = true := by
  rw [Nat.toString_eq_ofList_toDigits, String.toList_ofList] at h
  exact isAlphanum_of_isDigit (isDigit_toDigits h)

/-- What the client writes itself is digits, points, minus signs and letters: every character of
    the values has a property that these have and that those of the two names have. -/
theorem forall_binanceValues {P : Char → Prop} (timestamp : ℕ)
    (alphanum : ∀ c : Char, c.isAlphanum = true → P c) (point : P '.') (minus : P '-')
    (symbol : ∀ c ∈ order.symbol.toList, P c) (side : ∀ c ∈ order.side.toList, P c) :
    ∀ p ∈ asParams (binanceParams order timestamp), ∀ c ∈ p.2, P c := by
  -- the values that the client fills in itself: numbers, the time, and words
  have number := decimalText_chars alphanum point minus
  have stamped : ∀ c ∈ (toString timestamp).toList, P c := fun c hc => alphanum c (repr_chars hc)
  have word : ∀ text : String, text.toList.all Char.isAlphanum = true →
      ∀ c ∈ text.toList, P c := fun _ h c hc => alphanum c (List.all_eq_true.mp h c hc)
  have limit := word "LIMIT" (by decide)
  have ioc := word "IOC" (by decide)
  have market := word "MARKET" (by decide)
  have values : ∀ f ∈ binanceParams order timestamp, ∀ c ∈ f.2.toList, P c := by
    unfold binanceParams
    -- the two names are all that is left to the caller
    cases order.price with
    | none =>
      simp only [List.cons_append, List.nil_append, List.forall_mem_cons, List.not_mem_nil,
        false_imp_iff, implies_true, and_true]
      exact ⟨symbol, side, market, number _, stamped⟩
    | some x =>
      simp only [List.cons_append, List.nil_append, List.forall_mem_cons, List.not_mem_nil,
        false_imp_iff, implies_true, and_true]
      exact ⟨symbol, side, limit, ioc, number _, number _, stamped⟩
  intro p hp
  obtain ⟨f, hf, rfl⟩ := List.mem_map.mp hp
  exact values f hf

/-- A character that only the names could bring into the query: it is no letter or digit, no point
    and no minus sign. The ampersand, the percent sign and the plus sign are such characters. -/
theorem notMem_binanceValues (timestamp : ℕ) {c : Char} (special : c.isAlphanum = false)
    (point : '.' ≠ c) (minus : '-' ≠ c) (symbol : c ∉ order.symbol.toList)
    (side : c ∉ order.side.toList) :
    ∀ p ∈ asParams (binanceParams order timestamp), c ∉ p.2 := by
  have alphanum : ∀ d : Char, d.isAlphanum = true → d ≠ c := by
    rintro d hd rfl
    exact absurd (special.symm.trans hd) Bool.false_ne_true
  have apart := forall_binanceValues (P := (· ≠ c)) timestamp alphanum point minus
    (fun d hd same => symbol (same ▸ hd)) fun d hd same => side (same ▸ hd)
  exact fun p hp inside => apart p hp c inside rfl

/-- Decoding leaves the parameters as they are, once the query falls apart into them: neither the
    names of the order nor what the client adds has anything in it that looks like an escape. -/
theorem queryParams_of_read {query : List Char} {timestamp : ℕ} (decodes : Decodes decode)
    (symbol : Unescaped order.symbol) (side : Unescaped order.side)
    (h : QueryString.read query = asParams (binanceParams order timestamp)) :
    PlacedOrder.queryParams decode query = asParams (binanceParams order timestamp) := by
  have percent := notMem_binanceValues timestamp (show '%'.isAlphanum = false by decide)
    (by decide) (by decide) symbol.1 side.1
  have plus := notMem_binanceValues timestamp (show '+'.isAlphanum = false by decide)
    (by decide) (by decide) symbol.2 side.2
  rw [PlacedOrder.queryParams, h]
  refine (List.map_congr_left fun p hp => ?_).trans (List.map_id _)
  rw [decodes p.2 (percent p hp) (plus p hp)]
  rfl

/-- A field of the query is then the first parameter of its name. -/
theorem queryField_of_params {query : List Char} {fields : List (String × String)}
    (h : PlacedOrder.queryParams decode query = asParams fields) (name : String) :
    PlacedOrder.queryField decode query name = fields.lookup name := by
  rw [PlacedOrder.queryField, h, asParams, lookup_map_toList, Option.map_map]
  have same : String.ofList ∘ String.toList = id := funext fun _ => String.ofList_toList
  rw [same, Option.map_id_fun, id]

/-- The order is read from a query whose parameters are read as they were written. -/
theorem ofQuery_of_params {query : List Char} {timestamp : ℕ} (decimals : order.Decimals)
    (h : PlacedOrder.queryParams decode query = asParams (binanceParams order timestamp)) :
    PlacedOrder.ofQuery decode query = some order.meant := by
  have field := queryField_of_params h
  unfold PlacedOrder.ofQuery PlacedOrder.ofFields
  simp only [field]
  cases price : order.price with
  | none =>
    simp [binanceParams, price, List.lookup_cons, numberOf_decimalText decimals.quantity,
      OrderRequest.meant]
  | some x =>
    simp [binanceParams, price, List.lookup_cons, numberOf_decimalText decimals.quantity,
      numberOf_decimalText (decimals.price x price), OrderRequest.meant]

/-- An order that is read has the symbol and the side that the fields say. The kinds of orders
    differ in the other fields only, so the cases all end alike. -/
theorem ofFields_eq_some {field : String → Option String}
    {symbol quantity type limit market : String} {placed : PlacedOrder}
    (h : PlacedOrder.ofFields field symbol quantity type limit market = some placed) :
    field symbol = some placed.symbol ∧ field "side" = some placed.side := by
  unfold PlacedOrder.ofFields at h
  simp only [bind, Option.bind_eq_some_iff] at h
  obtain ⟨s, hsymbol, t, hside, q, -, k, -, h⟩ := h
  split at h
  · obtain ⟨p, -, h⟩ := Option.bind_eq_some_iff.mp h
    split at h
    · cases h
      exact ⟨hsymbol, hside⟩
    · cases h
  · split at h
    · cases h
      exact ⟨hsymbol, hside⟩
    · cases h

/-- A value that is read whole has no ampersand in it. A reader takes a value up to the first
    ampersand, and decoding what it took cannot bring the rest back, since there is nothing to
    decode. -/
theorem plain_of_takeWhile {value : String} (decodes : Decodes decode) (plain : Unescaped value)
    (h : some (String.ofList (decode (value.toList.takeWhile (· != '&')))) = some value) :
    '&' ∉ value.toList := by
  have part := (List.takeWhile_prefix (· != '&') (l := value.toList)).subset
  rw [decodes _ (fun inside => plain.1 (part inside)) fun inside => plain.2 (part inside)] at h
  have whole := congrArg String.toList (Option.some.inj h)
  rw [String.toList_ofList] at whole
  intro ampersand
  rw [← whole] at ampersand
  exact absurd (List.mem_takeWhile_imp ampersand) (by simp)

/-- Where the order is read as it was meant, its names have no ampersand. The two are the first
    parameters of the query: the symbol is read whole from the front, hence is plain, and then the
    side is read whole from what is left. -/
theorem plain_of_ofQuery {timestamp : ℕ} (decodes : Decodes decode)
    (symbolPlain : Unescaped order.symbol) (sidePlain : Unescaped order.side)
    (h : PlacedOrder.ofQuery decode
      (QueryString.text (asParams (binanceParams order timestamp))) = some order.meant) :
    '&' ∉ order.symbol.toList ∧ '&' ∉ order.side.toList := by
  obtain ⟨hsymbol, hside⟩ := ofFields_eq_some h
  -- the rest of the parameters does not matter
  obtain ⟨params, made⟩ : ∃ params, asParams (binanceParams order timestamp) =
      ("symbol".toList, order.symbol.toList) :: ("side".toList, order.side.toList) :: params :=
    ⟨_, rfl⟩
  rw [made] at hsymbol hside
  -- the symbol stands first
  have symbol : '&' ∉ order.symbol.toList := by
    obtain ⟨rest, first⟩ := QueryString.exists_read_cons
      (p := ("symbol".toList, order.symbol.toList)) (show PlainKey "symbol".toList by decide)
      (("side".toList, order.side.toList) :: params)
    apply plain_of_takeWhile decodes symbolPlain
    rw [PlacedOrder.queryField, PlacedOrder.queryParams, first, List.map_cons,
      List.lookup_cons_self] at hsymbol
    exact hsymbol
  refine ⟨symbol, ?_⟩
  -- the side stands second, behind a symbol that is now known to end where it should
  obtain ⟨rest, second⟩ := QueryString.exists_read_cons
    (p := ("side".toList, order.side.toList)) (show PlainKey "side".toList by decide) params
  have first := QueryString.read_paramText
    (p := ("symbol".toList, order.symbol.toList)) (show PlainKey "symbol".toList by decide) symbol
  apply plain_of_takeWhile decodes sidePlain
  rw [PlacedOrder.queryField, PlacedOrder.queryParams,
    QueryString.text_cons _ (List.cons_ne_nil _ _), QueryString.read_append, first,
    second] at hside
  exact hside

/-- **Binance reads the order that was meant** unless a name in it has an ampersand. With one, the
    name ends there for the reader, and what stands behind it becomes a parameter of its own;
    without, the parameters are read back one by one. -/
theorem ofQuery_binance_iff (decodes : Decodes decode) (symbolPlain : Unescaped order.symbol)
    (sidePlain : Unescaped order.side) (decimals : order.Decimals) (timestamp : ℕ) :
    PlacedOrder.ofQuery decode
          (binanceQuery (orderParams .binance stamp order) timestamp).toList =
        some order.meant ↔
      '&' ∉ order.symbol.toList ∧ '&' ∉ order.side.toList := by
  rw [binanceQuery_order]
  constructor
  · exact plain_of_ofQuery decodes symbolPlain sidePlain
  · rintro ⟨symbol, side⟩
    have some_ : asParams (binanceParams order timestamp) ≠ [] := List.cons_ne_nil _ _
    have read := (QueryString.read_text_iff (plainKeys_binance order timestamp) some_).mpr
      (notMem_binanceValues timestamp (by decide) (by decide) (by decide) symbol side)
    exact ofQuery_of_params decimals (queryParams_of_read decodes symbolPlain sidePlain read)

/-! ## The bodies -/

/-- The body for Bybit is the text of a JSON object from which the order is read back, whatever the
    names in it are. No decoding is between the two, and JSON escapes what it has to. -/
theorem ofBybitBody_order (decimals : order.Decimals) (stamp : RequestStamp) :
    ∃ body : Json, orderParams .bybit stamp order = String.ofList body.text ∧
      PlacedOrder.ofBybitBody body = some order.meant := by
  unfold orderParams
  cases price : order.price with
  | none =>
    refine ⟨_, rfl, ?_⟩
    simp [PlacedOrder.ofBybitBody, PlacedOrder.ofFields, index_jsonObj, List.lookup_cons,
      numberOf_decimalText decimals.quantity, OrderRequest.meant, price]
  | some x =>
    refine ⟨_, rfl, ?_⟩
    simp [PlacedOrder.ofBybitBody, PlacedOrder.ofFields, index_jsonObj, List.lookup_cons,
      numberOf_decimalText decimals.quantity, numberOf_decimalText (decimals.price x price),
      OrderRequest.meant, price]

/-- The same for Coinbase, where the two kinds of orders have configurations of different shapes.
    -/
theorem ofCoinbaseBody_order (decimals : order.Decimals) (stamp : RequestStamp) :
    ∃ body : Json, orderParams .coinbase stamp order = String.ofList body.text ∧
      PlacedOrder.ofCoinbaseBody body = some order.meant := by
  unfold orderParams
  cases price : order.price with
  | none =>
    refine ⟨_, rfl, ?_⟩
    simp [PlacedOrder.ofCoinbaseBody, index_jsonObj, get?_jsonObj, List.lookup_cons,
      numberOf_decimalText decimals.quantity, OrderRequest.meant, price]
  | some x =>
    refine ⟨_, rfl, ?_⟩
    simp [PlacedOrder.ofCoinbaseBody, index_jsonObj, get?_jsonObj, List.lookup_cons,
      numberOf_decimalText decimals.quantity, numberOf_decimalText (decimals.price x price),
      OrderRequest.meant, price]

end ExchangeClient
end ArbEngine
