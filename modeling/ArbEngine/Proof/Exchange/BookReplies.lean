import ArbEngine.Exchange.Replies
import ArbEngine.Proof.Exchange.Symbols

/-!
# Where the prices of a book come from

A reply may have any shape. A level that cannot be read is an error, but a side that has no
levels is none: the book then has a best price of one on that side, which nobody quoted
(`pricesFromBook_iff`).
-/

namespace ArbEngine

variable {fromStr : String → Option ℚ} {item side : Json} {items : List Json}
  {level : Level} {levels : List Level}

/-! ## Sides -/

/-- The level is quoted on this side of a reply. -/
def Quoted (fromStr : String → Option ℚ) (side : Json) (level : Level) : Prop :=
  ∃ items, side = .arr items ∧ ∃ item ∈ items, parseLevel fromStr item = .ok level

/-- The level is quoted first. -/
def QuotedFirst (fromStr : String → Option ℚ) (side : Json) (level : Level) : Prop :=
  ∃ item items, side = .arr (item :: items) ∧ parseLevel fromStr item = .ok level

/-- Something on this side is no level. -/
def Unreadable (fromStr : String → Option ℚ) (side : Json) : Prop :=
  ∃ items, side = .arr items ∧ ∃ item ∈ items, ∀ level, parseLevel fromStr item ≠ .ok level

/-- Reading a level never panics, whatever the reply holds. -/
theorem parseLevel_ne_panic : parseLevel fromStr item ≠ .panic := by
  intro panics
  unfold parseLevel at panics
  obtain ⟨priceStr, -, panics⟩ := Outcome.okOr_bind_eq_panic.mp panics
  obtain ⟨qtyStr, -, panics⟩ := Outcome.okOr_bind_eq_panic.mp panics
  obtain ⟨price, -, panics⟩ := Outcome.okOr_bind_eq_panic.mp panics
  obtain ⟨qty, -, panics⟩ := Outcome.okOr_bind_eq_panic.mp panics
  cases panics

/-- The items are read one after the other, and each has to be a level. -/
theorem parseItems_cons_eq_ok : parseItems fromStr (item :: items) = .ok levels ↔
    ∃ level rest, parseLevel fromStr item = .ok level ∧ parseItems fromStr items = .ok rest ∧
      levels = level :: rest := by
  rw [parseItems, Outcome.bind_eq_ok]
  constructor
  · rintro ⟨level, hlevel, h⟩
    obtain ⟨rest, hrest, h⟩ := Outcome.bind_eq_ok.mp h
    exact ⟨level, rest, hlevel, hrest, (Outcome.ok.inj h).symm⟩
  · rintro ⟨level, rest, hlevel, hrest, rfl⟩
    exact ⟨level, hlevel, Outcome.bind_eq_ok.mpr ⟨rest, hrest, rfl⟩⟩

/-- The items are read, or one of them is no level. -/
theorem parseItems_cases (fromStr : String → Option ℚ) (items : List Json) :
    (∃ levels, parseItems fromStr items = .ok levels) ∨
      ((∃ s, parseItems fromStr items = .err s) ∧
        ∃ item ∈ items, ∀ level, parseLevel fromStr item ≠ .ok level) := by
  induction items with
  | nil => exact .inl ⟨[], rfl⟩
  | cons item items ih =>
    cases hitem : parseLevel fromStr item with
    | panic => exact absurd hitem parseLevel_ne_panic
    | err s =>
      refine .inr ⟨⟨s, ?_⟩, item, List.mem_cons_self, fun level ok => ?_⟩
      · rw [parseItems, hitem, Outcome.err_bind]
      · rw [hitem] at ok
        cases ok
    | ok level =>
      rcases ih with ⟨rest, hrest⟩ | ⟨⟨s, hs⟩, bad, hbad, unreadable⟩
      · exact .inl ⟨level :: rest, parseItems_cons_eq_ok.mpr ⟨level, rest, hitem, hrest, rfl⟩⟩
      · refine .inr ⟨⟨s, ?_⟩, bad, List.mem_cons_of_mem item hbad, unreadable⟩
        rw [parseItems, hitem, Outcome.ok_bind, hs, Outcome.err_bind]

/-- What is read is what the items are. -/
theorem mem_parseItems (h : parseItems fromStr items = .ok levels) :
    level ∈ levels ↔ ∃ item ∈ items, parseLevel fromStr item = .ok level := by
  induction items generalizing levels with
  | nil =>
    obtain rfl := Outcome.ok.inj h
    simp
  | cons item items ih =>
    obtain ⟨first, rest, hfirst, hrest, rfl⟩ := parseItems_cons_eq_ok.mp h
    rw [List.mem_cons, List.exists_mem_cons_iff, ih hrest, hfirst, Outcome.ok.injEq, eq_comm]

/-- Items that were read are levels. -/
theorem readable_of_parseItems (h : parseItems fromStr items = .ok levels) (mem : item ∈ items) :
    ∃ level, parseLevel fromStr item = .ok level := by
  induction items generalizing levels with
  | nil => cases mem
  | cons first items ih =>
    obtain ⟨level, rest, hfirst, hrest, -⟩ := parseItems_cons_eq_ok.mp h
    rcases List.mem_cons.mp mem with rfl | mem
    · exact ⟨level, hfirst⟩
    · exact ih hrest mem

/-- A side that is no array counts as one without levels; this is how an error of the exchange
    becomes an empty book. -/
theorem parseLevels_of_not_arr (h : ¬ ∃ items, side = .arr items) :
    parseLevels fromStr side = .ok [] := by
  cases side with
  | arr items => exact absurd ⟨items, rfl⟩ h
  | null | bool b | num n | str s | obj entries => rfl

/-- A side is read, or something on it is no level. -/
theorem parseLevels_cases (fromStr : String → Option ℚ) (side : Json) :
    ((∃ levels, parseLevels fromStr side = .ok levels) ∧ ¬ Unreadable fromStr side) ∨
      ((∃ s, parseLevels fromStr side = .err s) ∧ Unreadable fromStr side) := by
  by_cases array : ∃ items, side = .arr items
  · obtain ⟨items, rfl⟩ := array
    rcases parseItems_cases fromStr items with ⟨levels, ok⟩ | ⟨err, unreadable⟩
    · refine .inl ⟨⟨levels, ok⟩, ?_⟩
      rintro ⟨items', same, item, hitem, unreadable⟩
      obtain rfl := Json.arr.inj same
      obtain ⟨level, hlevel⟩ := readable_of_parseItems ok hitem
      exact unreadable level hlevel
    · exact .inr ⟨err, items, rfl, unreadable⟩
  · exact .inl ⟨⟨[], parseLevels_of_not_arr array⟩, fun ⟨items, arr, _⟩ => array ⟨items, arr⟩⟩

/-- The levels of a side are the ones that are quoted on it. -/
theorem mem_parseLevels (h : parseLevels fromStr side = .ok levels) :
    level ∈ levels ↔ Quoted fromStr side level := by
  by_cases array : ∃ items, side = .arr items
  · obtain ⟨items, rfl⟩ := array
    rw [mem_parseItems h]
    constructor
    · exact fun quoted => ⟨items, rfl, quoted⟩
    · rintro ⟨items', same, quoted⟩
      obtain rfl := Json.arr.inj same
      exact quoted
  · rw [parseLevels_of_not_arr array] at h
    obtain rfl := Outcome.ok.inj h
    exact iff_of_false List.not_mem_nil fun ⟨items, arr, _⟩ => array ⟨items, arr⟩

/-- The first of them is the one that is quoted first. -/
theorem head?_parseLevels (h : parseLevels fromStr side = .ok levels) :
    levels.head? = some level ↔ QuotedFirst fromStr side level := by
  by_cases array : ∃ item items, side = .arr (item :: items)
  · obtain ⟨item, items, rfl⟩ := array
    obtain ⟨first, rest, hfirst, hrest, rfl⟩ := parseItems_cons_eq_ok.mp h
    rw [List.head?_cons, Option.some_inj]
    constructor
    · rintro rfl
      exact ⟨item, items, rfl, hfirst⟩
    · rintro ⟨item', items', same, hlevel⟩
      obtain ⟨rfl, rfl⟩ := List.cons.inj (Json.arr.inj same)
      exact Outcome.ok.inj (hfirst.symm.trans hlevel)
  · have empty : levels = [] := by
      cases side with
      | arr items =>
        cases items with
        | nil => exact (Outcome.ok.inj h).symm
        | cons item items => exact absurd ⟨item, items, rfl⟩ array
      | null | bool b | num n | str s | obj entries => exact (Outcome.ok.inj h).symm
    rw [empty, List.head?_nil]
    exact iff_of_false nofun fun ⟨item, items, arr, _⟩ => array ⟨item, items, arr⟩

/-! ## Books -/

/-- **Prices come from the book**: there is an error, or each best price is quoted on its side and
    the middle lies between them. -/
def PricesFromBook (fromStr : String → Option ℚ) (bidSide askSide : Json) :
    Outcome OrderBook → Prop
  | .err _ => True
  | .panic => False
  | .ok book =>
      Quoted fromStr bidSide book.bestBid ∧ Quoted fromStr askSide book.bestAsk ∧
        book.midPrice = (book.bestBid.1 + book.bestAsk.1) / 2

variable {symbol : String} {timestamp : ℕ} {bidSide askSide : Json} {bids asks : List Level}

/-- A book has quoted prices where both sides have levels. -/
theorem pricesFromBook_ofLevels (hbids : parseLevels fromStr bidSide = .ok bids)
    (hasks : parseLevels fromStr askSide = .ok asks) :
    PricesFromBook fromStr bidSide askSide (bookOfLevels symbol timestamp bids asks) ↔
      ∃ bid ask, QuotedFirst fromStr bidSide bid ∧ QuotedFirst fromStr askSide ask ∧
        BookFits bid.1 ask.1 := by
  unfold bookOfLevels
  dsimp only
  constructor
  · -- a book with quoted prices has levels, and their first ones are what is quoted first
    intro quoted
    split at quoted
    · rename_i fits
      obtain ⟨bid, ask, -⟩ := quoted
      rw [← mem_parseLevels hbids] at bid
      rw [← mem_parseLevels hasks] at ask
      cases bids with
      | nil => cases bid
      | cons firstBid bids =>
        cases asks with
        | nil => cases ask
        | cons firstAsk asks =>
          exact ⟨firstBid, firstAsk, (head?_parseLevels hbids).mp rfl,
            (head?_parseLevels hasks).mp rfl, fits⟩
    · exact quoted.elim
  · rintro ⟨bid, ask, firstBid, firstAsk, fits⟩
    have headBid := (head?_parseLevels hbids).mpr firstBid
    have headAsk := (head?_parseLevels hasks).mpr firstAsk
    -- with a level on the side, the default of one is not used
    have bestBid : (constructOrderBook symbol timestamp bids asks).bestBid = bid := by
      simp only [constructOrderBook, headBid, Option.getD_some]
    have bestAsk : (constructOrderBook symbol timestamp bids asks).bestAsk = ask := by
      simp only [constructOrderBook, headAsk, Option.getD_some]
    rw [if_pos (by rwa [bestBid, bestAsk])]
    refine ⟨?_, ?_, rfl⟩
    · rw [bestBid]
      exact (mem_parseLevels hbids).mp (List.mem_of_mem_head? headBid)
    · rw [bestAsk]
      exact (mem_parseLevels hasks).mp (List.mem_of_mem_head? headAsk)

namespace ExchangeClient

/-- The two sides of the reply to a request. -/
def replyBids (client : ExchangeClient) (symbol : String) (limit : ℕ) (reply : Json) : Json :=
  (bookData (client.fetchOrderBook symbol limit) reply).index
    (client.fetchOrderBook symbol limit).bidKey

def replyAsks (client : ExchangeClient) (symbol : String) (limit : ℕ) (reply : Json) : Json :=
  (bookData (client.fetchOrderBook symbol limit) reply).index
    (client.fetchOrderBook symbol limit).askKey

/-- **When the prices come from the book**: a side cannot be read, or both have a first level. In
    the first case there is an error, and in the second the first levels are the best prices;
    otherwise a side is empty and its best price is made up. -/
theorem pricesFromBook_iff (client : ExchangeClient) (fromStr : String → Option ℚ)
    (symbol : String) (limit timestamp : ℕ) (reply : Json) :
    PricesFromBook fromStr (client.replyBids symbol limit reply)
        (client.replyAsks symbol limit reply)
        (client.orderBookReply fromStr symbol limit timestamp reply) ↔
      Unreadable fromStr (client.replyBids symbol limit reply) ∨
        Unreadable fromStr (client.replyAsks symbol limit reply) ∨
        ∃ bid ask, QuotedFirst fromStr (client.replyBids symbol limit reply) bid ∧
          QuotedFirst fromStr (client.replyAsks symbol limit reply) ask ∧ BookFits bid.1 ask.1 := by
  have reply_eq : client.orderBookReply fromStr symbol limit timestamp reply =
      (parseLevels fromStr (client.replyBids symbol limit reply) >>= fun bids =>
        parseLevels fromStr (client.replyAsks symbol limit reply) >>= fun asks =>
          bookOfLevels symbol timestamp bids asks) := rfl
  rw [reply_eq]
  rcases parseLevels_cases fromStr (client.replyBids symbol limit reply) with
    ⟨⟨bids, hbids⟩, readable⟩ | ⟨⟨s, hs⟩, unreadable⟩
  · rcases parseLevels_cases fromStr (client.replyAsks symbol limit reply) with
      ⟨⟨asks, hasks⟩, readable'⟩ | ⟨⟨s, hs⟩, unreadable⟩
    · rw [hbids, hasks, Outcome.ok_bind, Outcome.ok_bind, pricesFromBook_ofLevels hbids hasks,
        or_iff_right readable, or_iff_right readable']
    · rw [hbids, hs, Outcome.ok_bind, Outcome.err_bind]
      exact iff_of_true trivial (.inr (.inl unreadable))
  · rw [hs, Outcome.err_bind]
    exact iff_of_true trivial (.inl unreadable)

/-- What Bybit answers to a request that it refuses. -/
def refusedReply : Json :=
  .obj [("retCode".toList, .num (.ofInt 10001)), ("retMsg".toList, .str "invalid symbol".toList),
    ("result".toList, .obj [])]

/-- A refused request yields a book at a price of one. -/
theorem refusedReply_invents :
    ¬ ∀ (client : ExchangeClient) fromStr symbol limit timestamp reply,
        PricesFromBook fromStr (client.replyBids symbol limit reply)
          (client.replyAsks symbol limit reply)
          (client.orderBookReply fromStr symbol limit timestamp reply) := by
  intro quotes
  have noBids : sampleBybit.replyBids "ETH/USDT" 5 refusedReply = .null := rfl
  have noAsks : sampleBybit.replyAsks "ETH/USDT" 5 refusedReply = .null := rfl
  have book := quotes sampleBybit (fun _ => none) "ETH/USDT" 5 0 refusedReply
  have answered : sampleBybit.orderBookReply (fun _ => none) "ETH/USDT" 5 0 refusedReply =
      .ok (constructOrderBook "ETH/USDT" 0 [] []) := by
    show bookOfLevels "ETH/USDT" 0 [] [] = _
    exact if_pos (by norm_num [BookFits, constructOrderBook])
  rw [noBids, noAsks, answered] at book
  obtain ⟨⟨items, arr, -⟩, -⟩ := book
  cases arr

end ExchangeClient
end ArbEngine
