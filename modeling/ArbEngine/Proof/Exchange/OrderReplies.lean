import ArbEngine.Exchange.Replies
import ArbEngine.Proof.Core.FromHuman
import ArbEngine.Proof.Exchange.BookWalk
import ArbEngine.Proof.Exchange.Symbols

/-!
# The fill price of an order

The exchanges name the price of an order differently, and the client takes the first of four
fields that is there. The limit price comes before the average one among them, so that the
average is what is reported only where no other price is (`returnsPrice_iff`).
-/

namespace ArbEngine
namespace ExchangeClient

open TokenAmount
open OrderBookAnalyzer (asciiTable)

variable {client : ExchangeClient} {lowerTable : LowerTable} {fromStr : String → Option ℚ}
  {timestamp : ℕ} {data d : Json} {symbol : String} {hints : OrderHints} {v : ℚ}

/-- The result object has an average fill price, and this is it. -/
def CarriesAverage (fromStr : String → Option ℚ) (d : Json) (v : ℚ) : Prop :=
  ∃ key ∈ ["avgPrice", "average_filled_price"], ((d.index key).asStr).bind fromStr = some v

/-- The call answers with this fill price. -/
def ReturnsPrice (answer : Outcome OrderReport) (v : ℚ) : Prop :=
  ∃ report, answer = .ok report ∧ report.avgFillPrice = v

/-- The amounts of the reply are amounts of eight decimals. -/
def AmountsReadable (fromStr : String → Option ℚ) (symbol : String) (hints : OrderHints)
    (d : Json) : Prop :=
  (hints.amountRequested = none →
      ∃ t, fromHuman fromStr (requestedText d) 8 (some ((splitPair symbol).headD "")) = .ok t) ∧
    ∃ t, fromHuman fromStr (filledText d) 8 (some ((splitPair symbol).headD "")) = .ok t

/-- The first price that is there is the average one, or is no number where the hint is. -/
def FirstPrice (fromStr : String → Option ℚ) (hints : OrderHints) (d : Json) (v : ℚ) : Prop :=
  ∃ text, d.firstStr ["price", "avgPrice", "px", "average_filled_price"] = some text ∧
    (fromStr text = some v ∨ fromStr text = none ∧ hints.price.getD 0 = v)

theorem fromHuman_zero (zero : fromStr "0" = some 0) (asset : Option String) :
    ∃ fee, fromHuman fromStr "0" 8 asset = .ok fee := by
  rw [fromHuman, zero]
  exact ⟨_, (fromDecimal_eq_ok_iff (by norm_num)).mpr
    ⟨by norm_num, le_rfl, by rw [zero_mul, Rat.den_zero], rfl⟩⟩

/-- The call answers where the amounts can be read, whatever else is in the reply, and then the
    price of the report is the first of the fields that a price is looked for in. -/
theorem returnsPrice_iff_avgFillPrice (zero : fromStr "0" = some 0) :
    ReturnsPrice (client.mapOrderResponseWithRequest lowerTable fromStr timestamp data symbol hints)
        v ↔
      AmountsReadable fromStr symbol hints (orderData client.exchangeType data) ∧
        avgFillPrice fromStr (orderData client.exchangeType data) hints.price = v := by
  obtain ⟨fee, hfee⟩ := fromHuman_zero zero none
  unfold ReturnsPrice AmountsReadable mapOrderResponseWithRequest
  -- an amount that is given as a hint is not read from the reply
  cases hrequested : hints.amountRequested with
  | some amount =>
    dsimp only
    rw [Outcome.ok_bind, hfee]
    constructor
    · rintro ⟨report, h, rfl⟩
      obtain ⟨filled, hfilled, h⟩ := Outcome.bind_eq_ok.mp h
      obtain rfl := Outcome.ok.inj h
      exact ⟨⟨fun none => absurd none (Option.some_ne_none amount), filled, hfilled⟩, rfl⟩
    · rintro ⟨⟨-, filled, hfilled⟩, rfl⟩
      rw [hfilled]
      exact ⟨_, rfl, rfl⟩
  | none =>
    dsimp only
    rw [hfee]
    constructor
    · rintro ⟨report, h, rfl⟩
      obtain ⟨requested, hrequested, h⟩ := Outcome.bind_eq_ok.mp h
      obtain ⟨filled, hfilled, h⟩ := Outcome.bind_eq_ok.mp h
      obtain rfl := Outcome.ok.inj h
      exact ⟨⟨fun _ => ⟨requested, hrequested⟩, filled, hfilled⟩, rfl⟩
    · rintro ⟨⟨requested, filled, hfilled⟩, rfl⟩
      obtain ⟨requested, hrequested⟩ := requested rfl
      rw [hrequested, hfilled]
      exact ⟨_, rfl, rfl⟩

/-- A reply with an average price has a first price. -/
theorem avgFillPrice_eq_iff (carries : CarriesAverage fromStr d v) :
    avgFillPrice fromStr d hints.price = v ↔ FirstPrice fromStr hints d v := by
  obtain ⟨key, hkey, average⟩ := carries
  obtain ⟨text, htext, -⟩ := Option.bind_eq_some_iff.mp average
  have among : key ∈ ["price", "avgPrice", "px", "average_filled_price"] := by
    rcases List.mem_pair.mp hkey with rfl | rfl <;> simp
  obtain ⟨first, hfirst⟩ := Json.exists_firstStr among htext
  unfold avgFillPrice FirstPrice
  rw [hfirst, Option.bind_some]
  cases parsed : fromStr first with
  | some price => simp [parsed]
  | none => simp [parsed]

/-- **When the fill price is the average one**: the amounts can be read, and no other price comes
    before it. -/
theorem returnsPrice_iff (client : ExchangeClient) (lowerTable : LowerTable)
    (fromStr : String → Option ℚ) (zero : fromStr "0" = some 0) (timestamp : ℕ) (data : Json)
    (symbol : String) (hints : OrderHints) (v : ℚ)
    (carries : CarriesAverage fromStr (orderData client.exchangeType data) v) :
    ReturnsPrice (client.mapOrderResponseWithRequest lowerTable fromStr timestamp data symbol hints)
        v ↔
      AmountsReadable fromStr symbol hints (orderData client.exchangeType data) ∧
        FirstPrice fromStr hints (orderData client.exchangeType data) v := by
  rw [returnsPrice_iff_avgFillPrice zero, avgFillPrice_eq_iff carries]

/-- The texts of the replies below, read as decimals. -/
def sampleFromStr (s : String) : Option ℚ :=
  if s = "0" ∨ s = "0.00000000" then some 0
  else if s = "100" then some 100
  else if s = "99" then some 99
  else none

def noHints : OrderHints where
  side := none
  orderType := none
  timeInForce := none
  amountRequested := none
  price := none

/-- The order was placed with a limit of 101. -/
def limitHints : OrderHints := { noHints with price := some 101 }

/-- An order of Bybit with an average price and another price behind it. -/
def averageReply : Json :=
  .obj [("result".toList,
    .obj [("px".toList, .str "99".toList), ("avgPrice".toList, .str "100".toList)])]

/-- The average is what is reported: `px` comes after it in the order in which the client looks,
    wherever it stands in the reply, and the limit is only for replies without a price. -/
theorem averageReply_price :
    ReturnsPrice (sampleBybit.mapOrderResponseWithRequest asciiTable sampleFromStr 0 averageReply
      "ETH/USDT" limitHints) 100 := by
  have zero : sampleFromStr "0" = some 0 := by simp [sampleFromStr]
  have hundred : sampleFromStr "100" = some 100 := by simp [sampleFromStr]
  refine (returnsPrice_iff sampleBybit asciiTable sampleFromStr zero 0 averageReply "ETH/USDT"
    limitHints 100 ⟨"avgPrice", by simp, hundred⟩).mpr
      ⟨⟨fun _ => ?_, ?_⟩, "100", rfl, .inl hundred⟩
  · exact fromHuman_zero zero _
  · exact fromHuman_zero zero _

/-- A market order of Binance, whose limit price is zero. -/
def marketReply : Json :=
  .obj [("price".toList, .str "0.00000000".toList), ("avgPrice".toList, .str "100".toList)]

/-- The fill price of a market order is reported as zero. -/
theorem marketReply_price :
    ¬ ∀ (client : ExchangeClient) lowerTable fromStr timestamp data symbol hints v,
        fromStr "0" = some 0 → CarriesAverage fromStr (orderData client.exchangeType data) v →
          ReturnsPrice (client.mapOrderResponseWithRequest lowerTable fromStr timestamp data symbol
            hints) v := by
  intro returns
  have zero : sampleFromStr "0" = some 0 := by simp [sampleFromStr]
  have hundred : sampleFromStr "100" = some 100 := by simp [sampleFromStr]
  have limit : sampleFromStr "0.00000000" = some 0 := by simp [sampleFromStr]
  have answer := returns { sampleBybit with exchangeType := .binance } asciiTable sampleFromStr 0
    marketReply "ETH/USDT" noHints 100 zero ⟨"avgPrice", by simp, hundred⟩
  obtain ⟨-, price⟩ := (returnsPrice_iff_avgFillPrice zero).mp answer
  have first : avgFillPrice sampleFromStr marketReply none = 0 := by
    show (((sampleFromStr "0.00000000").or none).getD 0 : ℚ) = 0
    rw [limit]
    rfl
  exact absurd (first.symm.trans price) (by norm_num)

end ExchangeClient
end ArbEngine
