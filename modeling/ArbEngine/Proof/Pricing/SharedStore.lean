import ArbEngine.Proof.Pricing.Impact
import ArbEngine.Proof.Pricing.Loops
import ArbEngine.Proof.Pricing.V2Runs

/-!
# Trading along a route

A route is quoted with every pool as it was when the search began. Traded along, each hop changes
the pool it goes through, so the two agree as long as no pool is met twice, and none is: a simple
path takes no pool twice, and neither does a loop that pays. `trading_route` says that the amounts
are the same, and when the trades go through: a swap adds its input to a reserve, which a quote
does not have to do.

The pools are kept under their addresses, and a hop replaces the one it goes through by what
`simulate_swap` makes of it. The pools still to come are untouched by that, so by induction on the
route each of them is met as it was quoted.
-/

namespace ArbEngine

open SimplePaths

/-! ## Trading -/

/-- The pools that are traded with, each under its address. -/
abbrev PoolStore := Address → Option UniswapV2Pair

namespace PoolStore

/-- One hop: the pool is quoted as it is, and replaced by what `simulate_swap` makes of it. -/
def trade (store : PoolStore) (address : Address) (amountIn : U256) (tokenIn : Token) :
    Outcome (U256 × PoolStore) := do
  let pair ← Outcome.okOr "Pool not found" (store address)
  let amountOut ← pair.getAmountOut amountIn tokenIn
  let after ← pair.simulateSwap amountIn tokenIn
  return (amountOut, Function.update store address (some after))

/-- The hops of a route one after another: what goes into each pool, and what comes out of the
    last one. -/
def tradeAlong (store : PoolStore) : List Pool → List Token → U256 → Outcome (List U256)
  | [], _, currentAmount => .ok [currentAmount]
  | _ :: _, [], _ => .panic
  | pool :: pools, tokenIn :: path, currentAmount => do
      let (nextAmount, store) ← store.trade pool.address currentAmount tokenIn
      let amounts ← tradeAlong store pools path nextAmount
      return currentAmount :: amounts

/-- The store holds the pools, as they are. -/
def Holds (store : PoolStore) (pools : List Pool) : Prop :=
  ∀ pair, Pool.v2 pair ∈ pools → store pair.address = some pair

end PoolStore

/-! ## One hop -/

namespace UniswapV2Pair

variable {p : UniswapV2Pair} {t : Token} {x y : U256}

theorem inPair_of_quote (h : p.getAmountOut x t = .ok y) : p.InPair t := by
  obtain ⟨rin, rout, hr⟩ := getAmountOut_reserves h
  rcases getReservesOrdered_cases hr with ⟨h0, -, -⟩ | ⟨-, h1, -, -⟩
  · exact .inl h0
  · exact .inr h1

/-- A quote does not exceed the reserve it is paid from. -/
theorem quote_le_reserveOut (h : p.getAmountOut x t = .ok y) :
    y.toNat ≤ (p.reserveOut t).toNat := by
  have hr := getReservesOrdered_of_inPair (inPair_of_quote h)
  by_cases empty : p.reserveIn t = 0#256 ∨ p.reserveOut t = 0#256
  · rw [getAmountOut_of_zero hr empty] at h
    cases h
    exact Nat.zero_le _
  · obtain ⟨hin, hout⟩ := not_or.mp empty
    exact (getAmountOut_lt hr (toNat_pos hin) (toNat_pos hout) h).le

/-- **A trade that has a quote goes through if its input fits the reserve.** -/
theorem simulateSwap_ok_iff (h : p.getAmountOut x t = .ok y) :
    (∃ q, p.simulateSwap x t = .ok q) ↔ (p.reserveIn t).toNat + x.toNat < 2 ^ 256 := by
  constructor
  · rintro ⟨q, hq⟩
    obtain ⟨out, -, r0, r1, -, ⟨h0, hr0, -⟩ | ⟨h0, -, hr1, -⟩⟩ := simulateSwap_cases hq
    · rw [reserveIn, if_pos h0, ← hr0]
      exact r0.isLt
    · rw [reserveIn, if_neg h0, ← hr1]
      exact r1.isLt
  · intro fits
    have paid := quote_le_reserveOut h
    rw [reserveIn] at fits
    rw [reserveOut] at paid
    unfold simulateSwap
    rw [h, Outcome.ok_bind]
    by_cases h0 : t.address = p.token0.address
    · rw [if_pos h0] at fits paid ⊢
      obtain ⟨r0, hr0, -⟩ := Word.checkedAdd_of_lt fits
      obtain ⟨r1, hr1, -⟩ := Word.checkedSub_of_le paid
      rw [hr0, hr1]
      exact ⟨_, rfl⟩
    · rw [if_neg h0] at fits paid ⊢
      rw [if_pos ((inPair_of_quote h).resolve_left h0)]
      obtain ⟨r1, hr1, -⟩ := Word.checkedAdd_of_lt fits
      obtain ⟨r0, hr0, -⟩ := Word.checkedSub_of_le paid
      rw [hr1, hr0]
      exact ⟨_, rfl⟩

/-- It does, unless the pair keeps all of its input or is empty. -/
theorem fits_of_quote (h : p.getAmountOut x t = .ok y) (fee : p.feeBps.toNat < 10000)
    (h0 : 0 < p.reserve0.toNat) (h1 : 0 < p.reserve1.toNat) :
    (p.reserveIn t).toNat + x.toNat < 2 ^ 256 := by
  have hr := getReservesOrdered_of_inPair (inPair_of_quote h)
  have hin : 0 < (p.reserveIn t).toNat := by
    rw [reserveIn]
    split
    · exact h0
    · exact h1
  have hout : 0 < (p.reserveOut t).toNat := by
    rw [reserveOut]
    split
    · exact h1
    · exact h0
  rcases Nat.eq_zero_or_pos x.toNat with hx | hx
  · rw [hx]
    exact (p.reserveIn t).isLt
  · have fits := (getAmountOut_fits hr (traded hx hin hout) h).2
    have kept : x.toNat ≤ x.toNat * p.keptBps :=
      Nat.le_mul_of_pos_right _ (Nat.sub_pos_of_lt fee)
    omega

end UniswapV2Pair

/-! ## The hops of a route -/

namespace PoolStore

variable {m : TickMath} {fuel : ℕ} {store : PoolStore} {pools : List Pool} {path : List Token}
  {pair : UniswapV2Pair} {t : Token} {x y out : U256}

/-- At every hop the reserve that is paid into has room for the input. -/
def Fits (pools : List Pool) (path : List Token) (amounts : List U256) : Prop :=
  ∀ (j : ℕ) (pair : UniswapV2Pair) (t : Token) (x : U256), pools[j]? = some (.v2 pair) →
    path[j]? = some t → amounts[j]? = some x → (pair.reserveIn t).toNat + x.toNat < 2 ^ 256

theorem fits_cons {amounts : List U256} :
    Fits (.v2 pair :: pools) (t :: path) (x :: amounts) ↔
      (pair.reserveIn t).toNat + x.toNat < 2 ^ 256 ∧ Fits pools path amounts := by
  constructor
  · intro h
    exact ⟨h 0 pair t x rfl rfl rfl, fun j => h (j + 1)⟩
  · rintro ⟨hfst, hrest⟩ j
    cases j with
    | zero =>
      rintro _ _ _ ⟨⟩ ⟨⟩ ⟨⟩
      exact hfst
    | succ j => exact hrest j

theorem trade_eq (held : store pair.address = some pair) (quoted : pair.getAmountOut x t = .ok y) :
    store.trade pair.address x t =
      pair.simulateSwap x t >>= fun after =>
        .ok (y, Function.update store pair.address (some after)) := by
  unfold trade
  rw [held, Outcome.okOr_some, Outcome.ok_bind, quoted, Outcome.ok_bind]
  rfl

/-- A run of hops is its first one and a run of the others. -/
theorem tradeAlong_cons (pools : List Pool) (path : List Token)
    (held : store pair.address = some pair) (quoted : pair.getAmountOut x t = .ok y)
    (traded : List U256) :
    store.tradeAlong (.v2 pair :: pools) (t :: path) x = .ok traded ↔
      ∃ after, pair.simulateSwap x t = .ok after ∧ ∃ amounts,
        tradeAlong (Function.update store pair.address (some after)) pools path y =
          .ok amounts ∧ traded = x :: amounts := by
  have unfolded : store.tradeAlong (.v2 pair :: pools) (t :: path) x =
      store.trade pair.address x t >>= fun hop =>
        tradeAlong hop.2 pools path hop.1 >>= fun amounts => .ok (x :: amounts) := rfl
  rw [unfolded, trade_eq held quoted]
  simp only [Outcome.bind_eq_ok, Outcome.ok.injEq]
  constructor
  · rintro ⟨-, ⟨after, swapped, rfl⟩, amounts, rest, rfl⟩
    exact ⟨after, swapped, amounts, rest, rfl⟩
  · rintro ⟨after, swapped, amounts, rest, rfl⟩
    exact ⟨_, ⟨after, swapped, rfl⟩, amounts, rest, rfl⟩

/-- **A hop changes no other pool.** -/
theorem Holds.update (held : store.Holds (.v2 pair :: pools))
    (fresh : pair.address ∉ pools.map Pool.address) (after : UniswapV2Pair) :
    Holds (Function.update store pair.address (some after)) pools := by
  intro other hother
  have hne : other.address ≠ pair.address := by
    intro heq
    exact fresh (heq ▸ List.mem_map_of_mem hother)
  rw [Function.update_of_ne hne]
  exact held other (List.mem_cons_of_mem _ hother)

/-- **The hops, where no pool is met twice.** -/
theorem tradeAlong_of_quote (v2 : ∀ pool ∈ pools, ∃ pair, pool = .v2 pair)
    (distinct : (pools.map Pool.address).Nodup) (held : store.Holds pools)
    (quoted : Route.outputAlong m fuel pools path x = .ended (.ok out)) :
    ∃ amounts, Route.amountsAlong m fuel pools path x = .ended (.ok amounts) ∧
      amounts.getLast? = some out ∧
      (∀ traded, store.tradeAlong pools path x = .ok traded → traded = amounts) ∧
      ((∃ traded, store.tradeAlong pools path x = .ok traded) ↔ Fits pools path amounts) := by
  induction pools generalizing path x store with
  | nil =>
    obtain rfl := Fueled.pure_eq_ok.mp quoted
    refine ⟨[x], rfl, rfl, ?_, ?_⟩
    · rintro traded ⟨⟩
      rfl
    · refine iff_of_true ⟨[x], rfl⟩ ?_
      rintro j pair t y ⟨⟩
  | cons pool pools ih =>
    obtain ⟨pair, rfl⟩ := v2 pool List.mem_cons_self
    cases path with
    | nil => cases Fueled.ended_eq_ok.mp quoted
    | cons t path =>
      obtain ⟨y, hop, quoted⟩ := Fueled.bind_eq_ok.mp quoted
      obtain ⟨fresh, distinct⟩ := List.nodup_cons.mp distinct
      have rest := fun after => ih (fun pool hpool => v2 pool (List.mem_cons_of_mem _ hpool))
        distinct (held.update fresh after) quoted
      obtain ⟨amounts, hamounts, hlast, -, -⟩ := rest pair
      -- Whatever the hop leaves of its pool, the others are traded at the same amounts.
      have same : ∀ after, (∀ traded,
          tradeAlong (Function.update store pair.address (some after)) pools path y =
            .ok traded → traded = amounts) ∧
          ((∃ traded, tradeAlong (Function.update store pair.address (some after)) pools path y =
            .ok traded) ↔ Fits pools path amounts) := by
        intro after
        obtain ⟨amounts', hamounts', -, h⟩ := rest after
        rw [hamounts, Fueled.ended_eq_ok] at hamounts'
        cases hamounts'
        exact h
      have quote := Fueled.ended_eq_ok.mp hop
      have hops := tradeAlong_cons pools path (held pair List.mem_cons_self) quote
      refine ⟨x :: amounts, Fueled.bind_eq_ok.mpr ⟨y, hop, Fueled.bind_eq_ok.mpr
        ⟨amounts, hamounts, rfl⟩⟩, ?_, ?_, ?_⟩
      · rw [List.getLast?_cons, hlast]
        rfl
      · intro traded h
        obtain ⟨after, -, amounts', hrest, rfl⟩ := (hops traded).mp h
        rw [(same after).1 amounts' hrest]
      · rw [fits_cons, ← UniswapV2Pair.simulateSwap_ok_iff quote]
        constructor
        · rintro ⟨traded, h⟩
          obtain ⟨after, swapped, amounts', hrest, -⟩ := (hops traded).mp h
          exact ⟨⟨after, swapped⟩, (same after).2.mp ⟨amounts', hrest⟩⟩
        · rintro ⟨⟨after, swapped⟩, fits⟩
          obtain ⟨amounts', hrest⟩ := (same after).2.mpr fits
          exact ⟨_, (hops _).mpr ⟨after, swapped, amounts', hrest, rfl⟩⟩

/-- Pools that hold something and keep less than all of their input take whatever they quote. -/
theorem fits_of_large {amounts : List U256} (v2 : ∀ pool ∈ pools, ∃ pair, pool = .v2 pair)
    (large : ∀ pair, Pool.v2 pair ∈ pools → pair.feeBps.toNat < 10000 ∧
      0 < pair.reserve0.toNat ∧ 0 < pair.reserve1.toNat)
    (h : Route.amountsAlong m fuel pools path x = .ended (.ok amounts)) :
    Fits pools path amounts := by
  induction pools generalizing path x amounts with
  | nil => rintro j pair t y ⟨⟩
  | cons pool pools ih =>
    obtain ⟨pair, rfl⟩ := v2 pool List.mem_cons_self
    cases path with
    | nil => cases Fueled.ended_eq_ok.mp h
    | cons t path =>
      obtain ⟨y, hop, h⟩ := Fueled.bind_eq_ok.mp h
      obtain ⟨rest, hrest, h⟩ := Fueled.bind_eq_ok.mp h
      obtain rfl := Fueled.pure_eq_ok.mp h
      obtain ⟨fee, h0, h1⟩ := large pair List.mem_cons_self
      refine fits_cons.mpr ⟨UniswapV2Pair.fits_of_quote (Fueled.ended_eq_ok.mp hop) fee h0 h1, ?_⟩
      exact ih (fun pool hpool => v2 pool (List.mem_cons_of_mem _ hpool))
        (fun pair hpair => large pair (List.mem_cons_of_mem _ hpair)) hrest

end PoolStore

/-! ## The routes that are returned -/

namespace RouteFinder

variable {m : TickMath} {pools : List Pool} {tokenIn tokenOut : Token} {amountIn : U256}
  {maxHops : ℕ} {route : Route}

/-- A simple route takes no pool twice. -/
theorem IsSimple.pools_nodup (h : IsSimple pools tokenIn tokenOut maxHops route) :
    route.pools.Nodup := by
  obtain ⟨is, path, simple, rfl⟩ := h
  obtain ⟨p, rfl, rfl⟩ := exists_arcs simple.starts simple.length
  obtain ⟨hwalk, -, hnodup, havoid⟩ := (mem_search (Finset.mem_singleton_self _)).mp
    ((mem_search_places simple.addresses_ne).mpr simple)
  have edges := hwalk.edges_nodup (isEdge_places pools) hnodup
    fun arc harc heq => havoid arc harc (Finset.mem_singleton.mpr heq)
  rw [edges_along] at edges
  exact edges.of_map

/-- A loop the search lists, and one that pays. -/
def PayingLoop (m : TickMath) (pools : List Pool) (tokenIn : Token) (amountIn : U256)
    (maxHops : ℕ) (route : Route) : Prop :=
  ∃ p ∈ loopWalks pools tokenIn maxHops, route = along tokenIn p ∧
    ∃ amountOut, route.Quotes m amountIn amountOut ∧ amountIn < amountOut

/-- A route is pushed if it pays. -/
theorem pushProfitable_cases {fuel : ℕ} {pool : Pool} {subRoute : Route} {ops ops' : List Route}
    (h : pushProfitable m fuel tokenIn amountIn pool ops subRoute = .ended (.ok ops')) :
    ops' = ops ∨ ops' = ops ++ [fullRoute tokenIn pool subRoute] ∧
      ∃ amountOut, (fullRoute tokenIn pool subRoute).Quotes m amountIn amountOut ∧
        amountIn < amountOut := by
  unfold pushProfitable at h
  obtain ⟨quoted, hquoted, h⟩ := Fueled.bind_eq_ok.mp h
  obtain rfl := Fueled.pure_eq_ok.mp h
  cases quoted with
  | none => exact .inl rfl
  | some amountOut =>
    by_cases gain : amountIn < amountOut
    · exact .inr ⟨if_pos gain, amountOut, ⟨fuel, Fueled.discardErr_eq_some.mp hquoted⟩, gain⟩
    · exact .inl (if_neg gain)

/-- **A loop that is returned is one the search lists, and it pays.** -/
theorem payingLoop_of_mem {fuel : ℕ} {loops : List Route}
    (returned : (new pools).findArbitrageLoops m fuel tokenIn amountIn maxHops =
      .ended (.ok loops)) :
    ∀ route ∈ loops, PayingLoop m pools tokenIn amountIn maxHops route := by
  refine Fueled.foldlM_keeps
    (fun ops => ∀ route ∈ ops, PayingLoop m pools tokenIn amountIn maxHops route) ?_ (by simp)
    returned
  rintro ⟨pool, nextToken⟩ harc ops ops' good h
  dsimp only at h
  by_cases hops : 1 < maxHops
  · rw [if_pos hops] at h
    refine Fueled.foldlM_keeps
      (fun ops => ∀ route ∈ ops, PayingLoop m pools tokenIn amountIn maxHops route) ?_ good h
    intro subRoute hsub ops ops' good h route hroute
    rcases pushProfitable_cases h with rfl | ⟨rfl, pays⟩
    · exact good route hroute
    · rcases List.mem_append.mp hroute with earlier | last
      · exact good route earlier
      · obtain rfl := List.mem_singleton.mp last
        obtain ⟨p, hp, heq⟩ := exists_along harc hops hsub
        exact ⟨p, hp, heq, pays⟩
  · rw [if_neg hops] at h
    obtain rfl := Fueled.pure_eq_ok.mp h
    exact good

/-- The route is one that `find_all_routes` or `find_arbitrage_loops` returns. -/
def Returned (m : TickMath) (pools : List Pool) (route : Route) : Prop :=
  (∃ tokenIn tokenOut maxHops, route ∈ (new pools).findAllRoutes tokenIn tokenOut maxHops) ∨
    ∃ tokenIn amountIn maxHops fuel loops,
      (new pools).findArbitrageLoops m fuel tokenIn amountIn maxHops = .ended (.ok loops) ∧
        route ∈ loops

/-- **A route that is returned takes no pool twice.** -/
theorem Returned.pools_nodup (v2 : ∀ pool ∈ pools, ∃ pair, pool = .v2 pair)
    (h : Returned m pools route) : route.pools.Nodup ∧ ∀ pool ∈ route.pools, pool ∈ pools := by
  rcases h with ⟨tokenIn, tokenOut, maxHops, h⟩ | ⟨tokenIn, amountIn, maxHops, fuel, loops, h, hmem⟩
  · have simple := mem_findAllRoutes.mp h
    refine ⟨simple.pools_nodup, ?_⟩
    obtain ⟨is, path, -, rfl⟩ := simple
    intro pool hpool
    obtain ⟨i, -, rfl⟩ := List.mem_map.mp hpool
    exact List.get_mem pools i
  · obtain ⟨p, hp, rfl, amountOut, quoted, gain⟩ := payingLoop_of_mem h route hmem
    exact ⟨pools_nodup_of_pays hp v2 quoted gain, fun pool => mem_of_mem_along⟩

end RouteFinder

open RouteFinder in
/-- **Quoting a route equals trading it.** Whatever is traded are the intermediate amounts of the
    quote; and the trades go through exactly where each input fits the reserve it is paid into, as
    it does unless some pool keeps the whole of its input or is empty. -/
theorem trading_route (m : TickMath) (pools : List Pool)
    (v2 : ∀ pool ∈ pools, ∃ pair, pool = .v2 pair) (route : Route)
    (returned : Returned m pools route) (store : PoolStore) (held : store.Holds route.pools)
    (fuel : ℕ) (amountIn x : U256)
    (quoted : route.getOutput m fuel amountIn = .ended (.ok x)) :
    ∃ amounts, route.getIntermediateAmounts m fuel amountIn = .ended (.ok amounts) ∧
      amounts.getLast? = some x ∧
      (∀ traded, store.tradeAlong route.pools route.path amountIn = .ok traded →
        traded = amounts) ∧
      ((∃ traded, store.tradeAlong route.pools route.path amountIn = .ok traded) ↔
        PoolStore.Fits route.pools route.path amounts) ∧
      ((∀ pair, Pool.v2 pair ∈ route.pools → pair.feeBps.toNat < 10000 ∧
          0 < pair.reserve0.toNat ∧ 0 < pair.reserve1.toNat) →
        PoolStore.Fits route.pools route.path amounts) := by
  obtain ⟨distinct, subset⟩ := returned.pools_nodup v2
  have v2' : ∀ pool ∈ route.pools, ∃ pair, pool = .v2 pair := fun pool hpool =>
    v2 pool (subset pool hpool)
  -- Two pools of one address would both be what the store holds there.
  have addresses : (route.pools.map Pool.address).Nodup := by
    refine List.Nodup.map_on ?_ distinct
    intro pool hpool pool' hpool' heq
    obtain ⟨pair, rfl⟩ := v2' pool hpool
    obtain ⟨pair', rfl⟩ := v2' pool' hpool'
    have same := held pair hpool
    rw [show pair.address = pair'.address from heq, held pair' hpool'] at same
    rw [Option.some.inj same]
  obtain ⟨amounts, hamounts, hlast, hsame, hfits⟩ :=
    PoolStore.tradeAlong_of_quote v2' addresses held quoted
  exact ⟨amounts, hamounts, hlast, hsame, hfits, fun large =>
    PoolStore.fits_of_large v2' large hamounts⟩

/-! ## Two stores -/

namespace PoolStore

/-- The store of one pair. -/
def single (pair : UniswapV2Pair) : PoolStore :=
  Function.update (fun _ => none) pair.address (some pair)

theorem single_holds {pair : UniswapV2Pair} : (single pair).Holds [.v2 pair] := by
  intro other hother
  cases List.mem_singleton.mp hother
  exact Function.update_self ..

end PoolStore

/-- The route through one pair. -/
def pairRoute (pair : UniswapV2Pair) : Route where
  pools := [.v2 pair]
  path := [pair.token0, pair.token1]

open UniswapV2Pair in
theorem pairRoute_returned (r0 r1 : U256) :
    RouteFinder.Returned UniswapV3Pool.stepMath [.v2 (samplePair r0 r1)]
      (pairRoute (samplePair r0 r1)) :=
  .inl ⟨(samplePair r0 r1).token0, (samplePair r0 r1).token1, 1, List.mem_singleton.mpr rfl⟩

open UniswapV2Pair in
/-- A hundred and twelve units, quoted and traded. -/
theorem sample_trade :
    ∃ amounts, (pairRoute (samplePair 1000#256 1000#256)).getIntermediateAmounts
        UniswapV3Pool.stepMath 0 112#256 = .ended (.ok amounts) ∧
      (PoolStore.single (samplePair 1000#256 1000#256)).tradeAlong
        (pairRoute (samplePair 1000#256 1000#256)).pools
        (pairRoute (samplePair 1000#256 1000#256)).path 112#256 = .ok amounts := by
  have v2 : ∀ pool ∈ [Pool.v2 (samplePair 1000#256 1000#256)], ∃ pair, pool = .v2 pair := by
    intro pool hpool
    exact ⟨_, List.mem_singleton.mp hpool⟩
  obtain ⟨amounts, hamounts, -, same, goes, large⟩ := trading_route UniswapV3Pool.stepMath
    [.v2 (samplePair 1000#256 1000#256)] v2 (pairRoute (samplePair 1000#256 1000#256))
    (pairRoute_returned _ _) (PoolStore.single (samplePair 1000#256 1000#256))
    PoolStore.single_holds 0 112#256 100#256 (by rfl)
  obtain ⟨traded, h⟩ := goes.mpr (large (by
    intro pair hpair
    cases List.mem_singleton.mp hpair
    decide))
  exact ⟨amounts, hamounts, same traded h ▸ h⟩

open UniswapV2Pair in
/-- **A quote that cannot be traded**: a pair with nothing to pay out quotes nothing, and the
    reserve that is paid into has no room for one unit more. -/
theorem sample_trade_refused :
    RouteFinder.Returned UniswapV3Pool.stepMath [.v2 (samplePair (BitVec.allOnes 256) 0#256)]
        (pairRoute (samplePair (BitVec.allOnes 256) 0#256)) ∧
      (PoolStore.single (samplePair (BitVec.allOnes 256) 0#256)).Holds
        (pairRoute (samplePair (BitVec.allOnes 256) 0#256)).pools ∧
      (pairRoute (samplePair (BitVec.allOnes 256) 0#256)).getOutput UniswapV3Pool.stepMath 0
        1#256 = .ended (.ok 0#256) ∧
      (PoolStore.single (samplePair (BitVec.allOnes 256) 0#256)).tradeAlong
        (pairRoute (samplePair (BitVec.allOnes 256) 0#256)).pools
        (pairRoute (samplePair (BitVec.allOnes 256) 0#256)).path 1#256 =
          .err "Overflow adding reserve0" :=
  ⟨pairRoute_returned _ _, PoolStore.single_holds, by rfl, by rfl⟩

end ArbEngine
