import ArbEngine.Exchange.Client

/-!
# The market that is read and the market that is traded

An order goes to the name `normalize_symbol` makes of a symbol: separators replaced, wrapped
assets unwrapped, all of it in upper case. The request for a book leaves out one of these steps
or another, depending on the exchange. `prices_traded_market_iff` says for which symbols the
steps that are left out make no difference.
-/

namespace ArbEngine

open Replace

/-! ## Upper case -/

namespace CaseTable

variable {table : CaseTable} {s t : List Char}

/-- Nothing in the text has another upper case. -/
def Fixed (table : CaseTable) (s : List Char) : Prop := ∀ c ∈ s, table.upper c = [c]

theorem fixed_flatMap_upper (s : List Char) : table.Fixed (s.flatMap table.upper) := by
  intro d hd
  obtain ⟨c, -, hd⟩ := List.mem_flatMap.mp hd
  exact table.upper_upper c d hd

/-- **A text is its own upper case exactly if all its characters are.** -/
theorem flatMap_upper_eq_self_iff : s.flatMap table.upper = s ↔ table.Fixed s := by
  constructor
  · intro h
    rw [← h]
    exact fixed_flatMap_upper s
  · intro h
    induction s with
    | nil => rfl
    | cons c s ih =>
      have rest := ih fun d hd => h d (List.mem_cons_of_mem c hd)
      rw [List.flatMap_cons, h c List.mem_cons_self, rest]
      rfl

theorem length_upper_pos (c : Char) : 0 < (table.upper c).length :=
  List.length_pos_of_ne_nil (table.upper_ne_nil c)

/-- Leaving characters out makes the upper case no longer, and shorter if there were any. -/
theorem length_flatMap_upper (table : CaseTable) (h : t.Sublist s) :
    (t.flatMap table.upper).length + (s.length - t.length) ≤ (s.flatMap table.upper).length := by
  induction h with
  | slnil => exact le_refl _
  | cons c h ih =>
    have := h.length_le
    have := table.length_upper_pos c
    rw [List.flatMap_cons, List.length_append, List.length_cons]
    omega
  | cons_cons c h ih =>
    rw [List.flatMap_cons, List.flatMap_cons, List.length_append, List.length_append,
      List.length_cons, List.length_cons]
    omega

/-- A text and a part of it have the same upper case only if the part is all of it. -/
theorem flatMap_upper_inj_of_sublist (h : t.Sublist s) :
    t.flatMap table.upper = s.flatMap table.upper ↔ t = s := by
  constructor
  · intro same
    have longer := table.length_flatMap_upper h
    rw [same] at longer
    have := h.length_le
    exact h.eq_of_length (by omega)
  · rintro rfl
    rfl

end CaseTable

/-! ## The steps on characters -/

/-- The symbol with the separator of the exchange. -/
def separated (exchange : ExchangeType) (s : List Char) : List Char :=
  match exchange with
  | .coinbase => replaceAll "/".toList "-".toList s
  | .binance | .bybit => replaceAll "/".toList "".toList s

/-- The symbol with its wrapped assets unwrapped. -/
def unwrapped (s : List Char) : List Char :=
  replaceAll "WBTC".toList "BTC".toList (replaceAll "WETH".toList "ETH".toList s)

/-- The text names a wrapped asset, or looks as if it did. -/
def Wrapped (s : List Char) : Prop := "WETH".toList <:+: s ∨ "WBTC".toList <:+: s

instance (s : List Char) : Decidable (Wrapped s) := by
  unfold Wrapped
  infer_instance

section Steps

variable {table : CaseTable} {s : List Char}

theorem replaced_weth (s : List Char) :
    Replaced "WETH".toList "ETH".toList s (replaceAll "WETH".toList "ETH".toList s) :=
  replaced_replaceAll (by decide) s

theorem replaced_wbtc (s : List Char) :
    Replaced "WBTC".toList "BTC".toList s (replaceAll "WBTC".toList "BTC".toList s) :=
  replaced_replaceAll (by decide) s

theorem unwrapped_sublist (s : List Char) : (unwrapped s).Sublist s :=
  ((replaced_wbtc _).sublist (by decide)).trans ((replaced_weth s).sublist (by decide))

/-- **Unwrapping changes exactly the texts that look wrapped.** -/
theorem unwrapped_eq_self_iff : unwrapped s = s ↔ ¬ Wrapped s := by
  have weth := replaced_weth s
  unfold unwrapped Wrapped
  by_cases absent : "WETH".toList <:+: s
  · refine iff_of_false ?_ (not_not_intro (.inl absent))
    intro same
    -- The first step has made it shorter, and the second one does not make it longer.
    have shorter := (weth.eq_or_shorter (by decide)).resolve_left fun h => h.2 absent
    have unwrapped := replaced_wbtc (replaceAll "WETH".toList "ETH".toList s)
    have := (unwrapped.sublist (by decide)).length_le
    rw [same] at this
    omega
  · rw [(weth.eq_self_iff (by decide)).mpr absent, (replaced_wbtc s).eq_self_iff (by decide),
      or_iff_right absent]

/-- The characters the steps take out and put in are upper case in every table. -/
theorem upper_of_ascii {c : Char} (h : c.toNat < 128) (own : c.toUpper = c) :
    table.upper c = [c] := by
  rw [table.ascii c h, own]

theorem fixed_ascii (pattern : List Char)
    (h : pattern.all (fun c => c.toNat < 128 ∧ c.toUpper = c) = true) : table.Fixed pattern := by
  intro c hc
  obtain ⟨ascii, own⟩ := of_decide_eq_true (List.all_eq_true.mp h c hc)
  exact upper_of_ascii ascii own

theorem fixed_unwrapped_iff : table.Fixed (unwrapped s) ↔ table.Fixed s := by
  have wbtc := (replaced_wbtc (replaceAll "WETH".toList "ETH".toList s)).forall_iff
    (P := fun c => table.upper c = [c]) (fixed_ascii _ (by decide)) (fixed_ascii _ (by decide))
  have weth := (replaced_weth s).forall_iff
    (P := fun c => table.upper c = [c]) (fixed_ascii _ (by decide)) (fixed_ascii _ (by decide))
  exact wbtc.trans weth

theorem fixed_separated_iff (exchange : ExchangeType) :
    table.Fixed (separated exchange s) ↔ table.Fixed s := by
  have slash : "/".toList ≠ [] := by decide
  have dashed := (replaced_replaceAll slash s).forall_iff (P := fun c => table.upper c = [c])
    (fixed_ascii _ (by decide)) (fixed_ascii "-".toList (by decide))
  have joined := (replaced_replaceAll slash s).forall_iff (P := fun c => table.upper c = [c])
    (fixed_ascii _ (by decide)) (fixed_ascii "".toList (by decide))
  cases exchange with
  | coinbase => exact dashed
  | binance => exact joined
  | bybit => exact joined

end Steps

/-! ## The two names -/

namespace ExchangeClient

variable {client : ExchangeClient} {symbol : String}

/-- The name of the instrument whose book is read is the name orders are sent under. -/
def PricesTradedMarket (client : ExchangeClient) (symbol : String) : Prop :=
  ∀ (limit : ℕ) (side : String) (amount : TokenAmount) (price : ℚ),
    (∀ order, client.createLimitIocOrder symbol side amount price = .ok order →
        (client.fetchOrderBook symbol limit).symbol = order.symbol) ∧
      ∀ order, client.createMarketOrder symbol side amount = .ok order →
        (client.fetchOrderBook symbol limit).symbol = order.symbol

theorem createLimitIocOrder_symbol {side : String} {amount : TokenAmount} {price : ℚ}
    {order : OrderRequest} (h : client.createLimitIocOrder symbol side amount price = .ok order) :
    order.symbol = client.normalizeSymbol symbol := by
  obtain ⟨quantity, -, h⟩ := Outcome.bind_eq_ok.mp h
  cases h
  rfl

theorem createMarketOrder_symbol {side : String} {amount : TokenAmount} {order : OrderRequest}
    (h : client.createMarketOrder symbol side amount = .ok order) :
    order.symbol = client.normalizeSymbol symbol := by
  obtain ⟨quantity, -, h⟩ := Outcome.bind_eq_ok.mp h
  cases h
  rfl

/-- An amount with at most 28 decimals is sent. -/
theorem createMarketOrder_sent (client : ExchangeClient) (symbol side : String)
    {amount : TokenAmount} (h : amount.decimals ≤ maxDecimalScale) :
    client.createMarketOrder symbol side amount = .ok
      { endpoint := orderEndpoint client.exchangeType
        symbol := client.normalizeSymbol symbol
        side := client.caseTable.toUppercase side
        quantity := amount.human
        price := none } := by
  unfold createMarketOrder
  rw [TokenAmount.toHuman_eq_ok h, Outcome.ok_bind, Outcome.pure_eq_ok]

theorem pricesTradedMarket_iff_symbol :
    client.PricesTradedMarket symbol ↔
      ∀ limit, (client.fetchOrderBook symbol limit).symbol = client.normalizeSymbol symbol := by
  constructor
  · intro h limit
    let amount : TokenAmount := { raw := 0#256, decimals := 8, symbol := none }
    obtain ⟨-, market⟩ := h limit "sell" amount 0
    have small : amount.decimals ≤ maxDecimalScale := show 8 ≤ 28 by decide
    have same := market _ (client.createMarketOrder_sent symbol "sell" small)
    exact same
  · intro h limit side amount price
    refine ⟨?_, ?_⟩
    · intro order horder
      rw [createLimitIocOrder_symbol horder, h limit]
    · intro order horder
      rw [createMarketOrder_symbol horder, h limit]

theorem normalizeSymbol_eq : client.normalizeSymbol symbol =
    String.ofList ((unwrapped (separated client.exchangeType symbol.toList)).flatMap
      client.caseTable.upper) := by
  unfold normalizeSymbol
  cases client.exchangeType <;>
    simp only [CaseTable.toUppercase, replaceText, String.toList_ofList, separated, unwrapped]

/-- The name in the request for a book: only Binance's is unwrapped, only Coinbase's is in upper
    case. -/
theorem fetchOrderBook_symbol (limit : ℕ) : (client.fetchOrderBook symbol limit).symbol =
    String.ofList
      (match client.exchangeType with
      | .binance => unwrapped (separated .binance symbol.toList)
      | .bybit => separated .bybit symbol.toList
      | .coinbase => (separated .coinbase symbol.toList).flatMap client.caseTable.upper) := by
  unfold fetchOrderBook
  cases client.exchangeType <;>
    simp [CaseTable.toUppercase, replaceText, separated, unwrapped]

/-- Where the two names agree: on Binance for a symbol in upper case; on Bybit for one that is
    in upper case and names no wrapped asset; on Coinbase for one that names no wrapped
    asset. -/
def NamesAgree (client : ExchangeClient) (symbol : String) : Prop :=
  match client.exchangeType with
  | .binance => client.caseTable.Fixed symbol.toList
  | .bybit =>
      client.caseTable.Fixed symbol.toList ∧ ¬ Wrapped (separated .bybit symbol.toList)
  | .coinbase => ¬ Wrapped (separated .coinbase symbol.toList)

/-- **Prices are read from the market that is traded exactly for the symbols that come through
    the steps the request for a book leaves out.** -/
theorem prices_traded_market_iff (client : ExchangeClient) (symbol : String) :
    client.PricesTradedMarket symbol ↔ client.NamesAgree symbol := by
  rw [pricesTradedMarket_iff_symbol]
  simp only [fetchOrderBook_symbol, normalizeSymbol_eq, String.ofList_inj, forall_const]
  unfold NamesAgree
  cases client.exchangeType with
  | binance =>
    rw [eq_comm, CaseTable.flatMap_upper_eq_self_iff, fixed_unwrapped_iff, fixed_separated_iff]
  | bybit =>
    simp only
    rw [← fixed_separated_iff .bybit]
    constructor
    · intro same
      have fixed : client.caseTable.Fixed (separated .bybit symbol.toList) := by
        rw [same]
        exact CaseTable.fixed_flatMap_upper _
      rw [CaseTable.flatMap_upper_eq_self_iff.mpr (fixed_unwrapped_iff.mpr fixed)] at same
      exact ⟨fixed, unwrapped_eq_self_iff.mp same.symm⟩
    · rintro ⟨fixed, plain⟩
      rw [unwrapped_eq_self_iff.mpr plain, CaseTable.flatMap_upper_eq_self_iff.mpr fixed]
  | coinbase =>
    rw [eq_comm, CaseTable.flatMap_upper_inj_of_sublist (unwrapped_sublist _),
      unwrapped_eq_self_iff]

end ExchangeClient

/-! ## A wrapped asset on Bybit -/

theorem toUpper_toUpper_of_ascii {c : Char} (h : c.toNat < 128) :
    c.toUpper.toUpper = c.toUpper := by
  have all : ∀ n < 128, (Char.ofNat n).toUpper.toUpper = (Char.ofNat n).toUpper := by decide
  rw [← Char.ofNat_toNat c]
  exact all c.toNat h

/-- The table for texts in ASCII. -/
def asciiCases : CaseTable where
  upper c := if c.toNat < 128 then [c.toUpper] else [c]
  ascii c h := if_pos h
  upper_ne_nil c := by
    split <;> exact List.cons_ne_nil _ _
  upper_upper c d hd := by
    split at hd
    · rename_i h
      rw [List.mem_singleton] at hd
      subst hd
      rw [toUpper_toUpper_of_ascii h, ite_self]
    · rename_i h
      rw [List.mem_singleton] at hd
      subst hd
      rw [if_neg h]

def sampleBybit : ExchangeClient where
  exchangeType := .bybit
  baseUrl := "https://api.bybit.com"
  caseTable := asciiCases

/-- **Bybit is asked for the book of `WETHUSDT`, and orders go to `ETHUSDT`.** -/
theorem sample_bybit_reads_another_market :
    (sampleBybit.fetchOrderBook "WETH/USDT" 5).symbol = "WETHUSDT" ∧
      sampleBybit.normalizeSymbol "WETH/USDT" = "ETHUSDT" ∧
      ¬ sampleBybit.PricesTradedMarket "WETH/USDT" := by
  have read : (sampleBybit.fetchOrderBook "WETH/USDT" 5).symbol = "WETHUSDT" := by
    decide +kernel
  have traded : sampleBybit.normalizeSymbol "WETH/USDT" = "ETHUSDT" := by
    decide +kernel
  refine ⟨read, traded, ?_⟩
  rw [ExchangeClient.pricesTradedMarket_iff_symbol]
  intro h
  have same := h 5
  rw [read, traded] at same
  revert same
  decide

end ArbEngine
