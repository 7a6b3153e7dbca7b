import ArbEngine.Exchange.Streams
import ArbEngine.Proof.Exchange.BookReplies
import ArbEngine.Proof.Exchange.OrderFields

/-!
# What a stream of books hands on

The loop over the messages follows its feed (`stream_follows_feed`): messages are answered in
their order, up to the first with a level that cannot be read. Unlike the reply to a request, a
message with an empty side makes no book, so no price of one is made up on a stream.

Each message is one of a few kinds: a ping to answer, a frame that says nothing of a book, two
sides that make one, or something that ends the stream. The kind is determined by the message
(`Heard`), so the reaction of the loop to a feed is determined as well.
-/

namespace ArbEngine

open Feed (Consumed FollowsFeed follows_of_item)

namespace ExchangeClient

variable (exchangeType : ExchangeType) (readJson : String → Except String Json)
  (fromStr : String → Option ℚ) (symbol : String)

/-- The two sides that a message has. -/
def sidesOf (frame : Except String Frame) : Option (Json × Json) :=
  match frame with
  | .ok (.text text) =>
      match readJson text with
      | .ok data =>
          match exchangeType with
          | .binance => some (data.index "bids", data.index "asks")
          | .bybit => (data.get? "data").map fun obData => (obData.index "b", obData.index "a")
          | .coinbase => none
      | .error _ => none
  | _ => none

/-- Bybit's connection is kept by answering its pings. -/
def IsPing (frame : Except String Frame) (payload : List (BitVec 8)) : Prop :=
  exchangeType = .bybit ∧ frame = .ok (.ping payload)

/-- Every level of both sides can be read. -/
def Readable (bidSide askSide : Json) : Prop :=
  ¬Unreadable fromStr bidSide ∧ ¬Unreadable fromStr askSide

/-- The book is what both sides quote. -/
structure BookOf (bidSide askSide : Json) (timestamp : ℕ) (book : OrderBook) : Prop where
  readable : Readable fromStr bidSide askSide
  symbol : book.symbol = symbol
  timestamp : book.timestamp = timestamp
  bids : ∀ level, level ∈ book.bids ↔ Quoted fromStr bidSide level
  asks : ∀ level, level ∈ book.asks ↔ Quoted fromStr askSide level
  bestBid : QuotedFirst fromStr bidSide book.bestBid
  bestAsk : QuotedFirst fromStr askSide book.bestAsk
  midPrice : book.midPrice = (book.bestBid.1 + book.bestAsk.1) / 2
  fits : BookFits book.bestBid.1 book.bestAsk.1

/-- What a message calls for. -/
inductive Heard (a : Arrival) : List StreamEvent → Prop
  | ping {payload : List (BitVec 8)} (ping : IsPing exchangeType a.frame payload) :
      Heard a [.pong payload]
  | passedOver (noPing : ∀ payload, ¬IsPing exchangeType a.frame payload)
      (noSides : sidesOf exchangeType readJson a.frame = none) : Heard a []
  | oneSided {bidSide askSide : Json}
      (sides : sidesOf exchangeType readJson a.frame = some (bidSide, askSide))
      (readable : Readable fromStr bidSide askSide)
      (empty : (∀ level, ¬Quoted fromStr bidSide level) ∨ ∀ level, ¬Quoted fromStr askSide level) :
      Heard a []
  | book {bidSide askSide : Json} {book : OrderBook}
      (sides : sidesOf exchangeType readJson a.frame = some (bidSide, askSide))
      (quoted : BookOf fromStr symbol bidSide askSide a.timestamp book) : Heard a [.book book]

/-- A message that ends the stream: a level cannot be read, or the best prices are no `Decimal`s
    to calculate with. -/
def Stops (a : Arrival) : Prop :=
  ∃ bidSide askSide, sidesOf exchangeType readJson a.frame = some (bidSide, askSide) ∧
    (¬Readable fromStr bidSide askSide ∨
      ∃ bid ask, QuotedFirst fromStr bidSide bid ∧ QuotedFirst fromStr askSide ask ∧
        ¬BookFits bid.1 ask.1)

variable {exchangeType readJson fromStr symbol} {bidSide askSide : Json} {timestamp : ℕ}
  {events : List StreamEvent}

/-- Two sides that were parsed can be read. -/
theorem readable_of_parseLevels {bids asks : List Level}
    (hbids : parseLevels fromStr bidSide = .ok bids)
    (hasks : parseLevels fromStr askSide = .ok asks) : Readable fromStr bidSide askSide := by
  constructor
  · rcases parseLevels_cases fromStr bidSide with ⟨-, readable⟩ | ⟨⟨s, hs⟩, -⟩
    · exact readable
    · cases hs.symm.trans hbids
  · rcases parseLevels_cases fromStr askSide with ⟨-, readable⟩ | ⟨⟨s, hs⟩, -⟩
    · exact readable
    · cases hs.symm.trans hasks

/-- A side has one first level. -/
theorem quotedFirst_unique {side : Json} {l l' : Level} (h : QuotedFirst fromStr side l)
    (h' : QuotedFirst fromStr side l') : l = l' := by
  obtain ⟨item, items, rfl, hitem⟩ := h
  obtain ⟨item', items', same, hitem'⟩ := h'
  cases same
  exact Outcome.ok.inj (hitem.symm.trans hitem')

/-- The first level is one of them. -/
theorem quotedFirst_quoted {side : Json} {l : Level} (h : QuotedFirst fromStr side l) :
    Quoted fromStr side l := by
  obtain ⟨item, items, rfl, hitem⟩ := h
  exact ⟨item :: items, rfl, item, List.mem_cons_self, hitem⟩

/-- A side without levels quotes nothing. -/
theorem not_quoted_of_nil (h : parseLevels fromStr bidSide = .ok []) (level : Level) :
    ¬Quoted fromStr bidSide level := by
  rw [← mem_parseLevels h]
  exact List.not_mem_nil

/-- **Two sides are a book or nothing**: nothing where one of them is empty. -/
theorem hearSides_ok (h : hearSides fromStr symbol timestamp bidSide askSide = .ok events) :
    (events = [] ∧ Readable fromStr bidSide askSide ∧
        ((∀ level, ¬Quoted fromStr bidSide level) ∨ ∀ level, ¬Quoted fromStr askSide level)) ∨
      ∃ book, events = [.book book] ∧ BookOf fromStr symbol bidSide askSide timestamp book := by
  obtain ⟨bids, hbids, h⟩ := Outcome.bind_eq_ok.mp h
  obtain ⟨asks, hasks, h⟩ := Outcome.bind_eq_ok.mp h
  have readable := readable_of_parseLevels hbids hasks
  -- an empty side ends it before a book is made
  cases bids with
  | nil =>
    obtain rfl := Outcome.ok.inj h
    exact .inl ⟨rfl, readable, .inl (not_quoted_of_nil hbids)⟩
  | cons bid bids =>
    cases asks with
    | nil =>
      obtain rfl := Outcome.ok.inj h
      exact .inl ⟨rfl, readable, .inr (not_quoted_of_nil hasks)⟩
    | cons ask asks =>
      right
      rw [if_pos ⟨List.cons_ne_nil bid bids, List.cons_ne_nil ask asks⟩] at h
      obtain ⟨book, hbook, h⟩ := Outcome.bind_eq_ok.mp h
      obtain rfl := Outcome.ok.inj h
      refine ⟨book, rfl, ?_⟩
      unfold bookOfLevels at hbook
      dsimp only at hbook
      split at hbook
      · rename_i fits
        obtain rfl := Outcome.ok.inj hbook
        exact
          { readable
            symbol := rfl
            timestamp := rfl
            bids := fun level => mem_parseLevels hbids
            asks := fun level => mem_parseLevels hasks
            bestBid := (head?_parseLevels hbids).mp rfl
            bestAsk := (head?_parseLevels hasks).mp rfl
            midPrice := rfl
            fits }
      · cases hbook

/-- **Two sides that end the stream**: a level cannot be read, or the best prices cannot be
    calculated with. -/
theorem hearSides_fails
    (h : ∀ events, hearSides fromStr symbol timestamp bidSide askSide ≠ .ok events) :
    ¬Readable fromStr bidSide askSide ∨
      ∃ bid ask, QuotedFirst fromStr bidSide bid ∧ QuotedFirst fromStr askSide ask ∧
        ¬BookFits bid.1 ask.1 := by
  -- The bids are parsed before the asks, and the book is made last.
  rcases parseLevels_cases fromStr bidSide with ⟨⟨bids, hbids⟩, -⟩ | ⟨-, unreadable⟩
  · rcases parseLevels_cases fromStr askSide with ⟨⟨asks, hasks⟩, -⟩ | ⟨-, unreadable⟩
    · right
      unfold hearSides at h
      rw [hbids, hasks, Outcome.ok_bind, Outcome.ok_bind] at h
      cases bids with
      | nil => exact absurd rfl (h [])
      | cons bid bids =>
        cases asks with
        | nil => exact absurd rfl (h [])
        | cons ask asks =>
          refine ⟨bid, ask, (head?_parseLevels hbids).mp rfl, (head?_parseLevels hasks).mp rfl, ?_⟩
          intro fits
          rw [if_pos ⟨List.cons_ne_nil bid bids, List.cons_ne_nil ask asks⟩] at h
          have made : bookOfLevels symbol timestamp (bid :: bids) (ask :: asks) =
              .ok (constructOrderBook symbol timestamp (bid :: bids) (ask :: asks)) :=
            if_pos fits
          rw [made] at h
          exact h _ rfl
    · exact .inl fun readable => readable.2 unreadable
  · exact .inl fun readable => readable.1 unreadable

/-! ## One message -/

/-- The body of the loop, of either exchange. -/
def hear (exchangeType : ExchangeType) (readJson : String → Except String Json)
    (fromStr : String → Option ℚ) (symbol : String) : Arrival → Outcome (List StreamEvent) :=
  match exchangeType with
  | .bybit => hearBybit readJson fromStr symbol
  | .binance | .coinbase => hearBinance readJson fromStr symbol

/-- A message with sides is read as such, and any other is answered at once. -/
theorem hear_cases (readJson : String → Except String Json) (fromStr : String → Option ℚ)
    (symbol : String) (streams : exchangeType ≠ .coinbase) (a : Arrival) :
    (∃ bidSide askSide, sidesOf exchangeType readJson a.frame = some (bidSide, askSide) ∧
        hear exchangeType readJson fromStr symbol a =
          hearSides fromStr symbol a.timestamp bidSide askSide) ∨
      ∃ events, hear exchangeType readJson fromStr symbol a = .ok events ∧
        Heard exchangeType readJson fromStr symbol a events := by
  obtain ⟨frame, timestamp⟩ := a
  -- an error of the connection, a text, a ping, and any other frame
  rcases frame with e | (text | payload | _)
  · right
    refine ⟨[], ?_, .passedOver (fun _ ping => nomatch ping.2) rfl⟩
    cases exchangeType <;> rfl
  · cases hread : readJson text with
    | error e =>
      right
      refine ⟨[], ?_, .passedOver (fun _ ping => nomatch ping.2) ?_⟩
      · cases exchangeType <;> simp [hear, hearBinance, hearBybit, hread]
      · simp [sidesOf, hread]
    | ok data =>
      cases exchangeType with
      | binance =>
        left
        exact ⟨data.index "bids", data.index "asks", by simp [sidesOf, hread],
          by simp [hear, hearBinance, hread]⟩
      | bybit =>
        cases hdata : data.get? "data" with
        | none =>
          right
          refine ⟨[], by simp [hear, hearBybit, hread, hdata],
            .passedOver (fun _ ping => nomatch ping.2) ?_⟩
          simp [sidesOf, hread, hdata]
        | some obData =>
          left
          exact ⟨obData.index "b", obData.index "a", by simp [sidesOf, hread, hdata],
            by simp [hear, hearBybit, hread, hdata]⟩
      | coinbase => exact absurd rfl streams
  · right
    cases exchangeType with
    | binance => exact ⟨[], rfl, .passedOver (fun _ ping => nomatch ping.1) rfl⟩
    | bybit => exact ⟨[.pong payload], rfl, .ping ⟨rfl, rfl⟩⟩
    | coinbase => exact absurd rfl streams
  · right
    refine ⟨[], ?_, .passedOver (fun _ ping => nomatch ping.2) rfl⟩
    cases exchangeType <;> rfl

/-- A message that is answered is answered as it calls for. -/
theorem heard_of_hear (streams : exchangeType ≠ .coinbase) (a : Arrival)
    (h : hear exchangeType readJson fromStr symbol a = .ok events) :
    Heard exchangeType readJson fromStr symbol a events := by
  rcases hear_cases readJson fromStr symbol streams a with
    ⟨bidSide, askSide, sides, heard⟩ | ⟨events', heard, calledFor⟩
  · rw [heard] at h
    rcases hearSides_ok h with ⟨rfl, readable, empty⟩ | ⟨book, rfl, quoted⟩
    · exact .oneSided sides readable empty
    · exact .book sides quoted
  · obtain rfl := Outcome.ok.inj (heard.symm.trans h)
    exact calledFor

/-- A message that is not answered is one that ends the stream. -/
theorem stops_of_hear (streams : exchangeType ≠ .coinbase) (a : Arrival)
    (fails : ∀ events, hear exchangeType readJson fromStr symbol a ≠ .ok events) :
    Stops exchangeType readJson fromStr a := by
  rcases hear_cases readJson fromStr symbol streams a with
    ⟨bidSide, askSide, sides, heard⟩ | ⟨events', heard, -⟩
  · rw [heard] at fails
    exact ⟨bidSide, askSide, sides, hearSides_fails fails⟩
  · exact absurd heard (fails events')

/-- A message that ends the stream calls for nothing, so where the stream ends is determined. Two
    sides are read in one way, and a first level is either fit for a book or not. -/
theorem Heard.not_stops {a : Arrival}
    (heard : Heard exchangeType readJson fromStr symbol a events) :
    ¬Stops exchangeType readJson fromStr a := by
  rintro ⟨bidSide, askSide, sides, stops⟩
  cases heard with
  | ping ping =>
    rw [ping.2] at sides
    cases sides
  | passedOver _ noSides => cases noSides.symm.trans sides
  | oneSided sides' readable empty =>
    cases sides'.symm.trans sides
    rcases stops with unreadable | ⟨bid, ask, hbid, hask, -⟩
    · exact unreadable readable
    · rcases empty with empty | empty
      · exact empty bid (quotedFirst_quoted hbid)
      · exact empty ask (quotedFirst_quoted hask)
  | book sides' quoted =>
    cases sides'.symm.trans sides
    rcases stops with unreadable | ⟨bid, ask, hbid, hask, unfit⟩
    · exact unreadable quoted.readable
    · rw [quotedFirst_unique hbid quoted.bestBid, quotedFirst_unique hask quoted.bestAsk] at unfit
      exact unfit quoted.fits

/-! ## The stream -/

/-- What is sent before the first message. -/
def subscription (client : ExchangeClient) (symbol : String) : List StreamEvent :=
  match client.exchangeType with
  | .bybit => [.sent (client.bybitSubscription symbol)]
  | .binance | .coinbase => []

/-- A stream is its subscription and then its feed. -/
theorem streamOrderBook_eq (client : ExchangeClient) (readJson : String → Except String Json)
    (fromStr : String → Option ℚ) (symbol : String) (arrivals : List Arrival)
    (streams : client.exchangeType ≠ .coinbase) :
    streamOrderBook readJson fromStr symbol client ⟨.ok (), .ok ()⟩ arrivals =
      ⟨client.subscription symbol ++
          (Feed.consume (hear client.exchangeType readJson fromStr symbol) arrivals).emitted,
        (Feed.consume (hear client.exchangeType readJson fromStr symbol) arrivals).outcome⟩ := by
  obtain ⟨exchangeType, baseUrl, caseTable⟩ := client
  cases exchangeType with
  | binance => rfl
  | bybit => rfl
  | coinbase => exact absurd rfl streams

/-- **A stream follows its messages**: after the subscription each message up to the first that
    ends the stream is answered as it calls for, the stream has no error exactly if there is no
    such message, and every book that is handed on is what a message quotes, its best prices
    included. -/
theorem stream_follows_feed (client : ExchangeClient) (readJson : String → Except String Json)
    (fromStr : String → Option ℚ) (symbol : String) (arrivals : List Arrival)
    (streams : client.exchangeType ≠ .coinbase) :
    ∃ heard : Consumed StreamEvent,
      streamOrderBook readJson fromStr symbol client ⟨.ok (), .ok ()⟩ arrivals =
          ⟨client.subscription symbol ++ heard.emitted, heard.outcome⟩ ∧
        FollowsFeed (Heard client.exchangeType readJson fromStr symbol)
          (Stops client.exchangeType readJson fromStr) arrivals heard ∧
        (heard.outcome = .ok () ↔ ∀ a ∈ arrivals, ¬Stops client.exchangeType readJson fromStr a) ∧
        ∀ book, .book book ∈ heard.emitted → ∃ a ∈ arrivals, ∃ bidSide askSide,
          sidesOf client.exchangeType readJson a.frame = some (bidSide, askSide) ∧
            BookOf fromStr symbol bidSide askSide a.timestamp book := by
  have follows := follows_of_item (f := hear client.exchangeType readJson fromStr symbol)
    (fun a _ => heard_of_hear streams a) (stops_of_hear streams) arrivals
  refine ⟨_, streamOrderBook_eq client readJson fromStr symbol arrivals streams, follows,
    follows.ok_iff fun _ _ => Heard.not_stops, ?_⟩
  intro book hbook
  obtain ⟨a, ha, events, heard, hmem⟩ := follows.mem hbook
  refine ⟨a, ha, ?_⟩
  -- Of the four answers to a message only one holds a book.
  cases heard with
  | ping _ => cases List.mem_singleton.mp hmem
  | passedOver _ _ => cases hmem
  | oneSided _ _ _ => cases hmem
  | book sides quoted =>
    cases List.mem_singleton.mp hmem
    exact ⟨_, _, sides, quoted⟩

/-! ## Two messages of Bybit -/

/-- A level as the exchange writes it. -/
def sampleQuote (price qty : String) : Json := .arr [jsonStr price, jsonStr qty]

/-- A message with one level on each side. -/
def sampleUpdate : Json :=
  jsonObj [("data", jsonObj
    [("a", .arr [sampleQuote "2001" "3"]), ("b", .arr [sampleQuote "1999" "2"])])]

/-- A reader that knows the one text. -/
def sampleReadJson (text : String) : Except String Json :=
  if text = "update" then .ok sampleUpdate else .error "unknown text"

/-- A ping, and then a book. -/
def sampleArrivals : List Arrival :=
  [⟨.ok (.ping [7#8]), 1⟩, ⟨.ok (.text "update"), 2⟩]

/-- The book of it. -/
def sampleBook : OrderBook := constructOrderBook "ETH/USDT" 2 [(1999, 2)] [(2001, 3)]

/-- The ping is answered, and the book is handed on with the prices of the message. -/
theorem sample_stream_follows_feed :
    ∃ heard : Consumed StreamEvent,
      streamOrderBook sampleReadJson TokenAmount.readDecimal "ETH/USDT" sampleBybit
            ⟨.ok (), .ok ()⟩ sampleArrivals =
          ⟨sampleBybit.subscription "ETH/USDT" ++ heard.emitted, heard.outcome⟩ ∧
        heard = ⟨[.pong [7#8], .book sampleBook], .ok ()⟩ ∧
        sampleBook.bestBid = (1999, 2) ∧ sampleBook.bestAsk = (2001, 3) ∧
        sampleBook.midPrice = 2000 ∧
        (∀ a ∈ sampleArrivals, ¬Stops .bybit sampleReadJson TokenAmount.readDecimal a) ∧
        ∃ a ∈ sampleArrivals, ∃ bidSide askSide,
          sidesOf .bybit sampleReadJson a.frame = some (bidSide, askSide) ∧
            BookOf TokenAmount.readDecimal "ETH/USDT" bidSide askSide a.timestamp sampleBook := by
  obtain ⟨heard, streamed, -, ends, books⟩ := stream_follows_feed sampleBybit sampleReadJson
    TokenAmount.readDecimal "ETH/USDT" sampleArrivals (by decide)
  have bids : parseLevels TokenAmount.readDecimal (.arr [sampleQuote "1999" "2"]) =
      .ok [(1999, 2)] := by decide +kernel
  have asks : parseLevels TokenAmount.readDecimal (.arr [sampleQuote "2001" "3"]) =
      .ok [(2001, 3)] := by decide +kernel
  have fits : BookFits 1999 2001 := by decide +kernel
  have consumed : streamOrderBook sampleReadJson TokenAmount.readDecimal "ETH/USDT" sampleBybit
      ⟨.ok (), .ok ()⟩ sampleArrivals =
        ⟨sampleBybit.subscription "ETH/USDT" ++ [.pong [7#8], .book sampleBook], .ok ()⟩ := by
    rw [streamOrderBook_eq _ _ _ _ _ (by decide)]
    have made : bookOfLevels "ETH/USDT" 2 [(1999, 2)] [(2001, 3)] = .ok sampleBook := if_pos fits
    have sides : hearSides TokenAmount.readDecimal "ETH/USDT" 2
        (.arr [sampleQuote "1999" "2"]) (.arr [sampleQuote "2001" "3"]) =
          .ok [.book sampleBook] := by
      rw [hearSides, bids, asks, Outcome.ok_bind, Outcome.ok_bind,
        if_pos ⟨List.cons_ne_nil _ _, List.cons_ne_nil _ _⟩, made, Outcome.ok_bind]
      rfl
    have update : hear .bybit sampleReadJson TokenAmount.readDecimal "ETH/USDT"
        ⟨.ok (.text "update"), 2⟩ = .ok [.book sampleBook] := sides
    have ping : hear .bybit sampleReadJson TokenAmount.readDecimal "ETH/USDT"
        ⟨.ok (.ping [7#8]), 1⟩ = .ok [.pong [7#8]] := rfl
    rw [sampleArrivals, show sampleBybit.exchangeType = .bybit from rfl, Feed.consume_cons ping,
      Feed.consume_cons update]
    rfl
  rw [consumed] at streamed
  have emitted := List.append_cancel_left (congrArg Consumed.emitted streamed)
  have outcome := congrArg Consumed.outcome streamed
  dsimp only at emitted outcome
  have whole : heard = ⟨[.pong [7#8], .book sampleBook], .ok ()⟩ := by
    rw [emitted, outcome]
  subst whole
  exact ⟨_, consumed, rfl, rfl, rfl, by decide +kernel, ends.mp rfl,
    books sampleBook (List.mem_cons_of_mem _ List.mem_cons_self)⟩

end ExchangeClient

end ArbEngine
