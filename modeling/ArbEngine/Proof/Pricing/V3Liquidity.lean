import Mathlib.Data.List.Dedup
import ArbEngine.Lib.StepLevel
import ArbEngine.Proof.Pricing.V3Loop

/-!
# The active liquidity of a swap

The liquidity in range at a tick is a property of the pool: the pool's own liquidity,
plus the net liquidity of the ticks between, with a sign for the side the tick is on
(`activeLiquidity`). The loop keeps a running value instead, and changes it by the net
liquidity of each tick it crosses.

The source adds that net liquidity in both directions. Going up this is right, provided
the sums fit in the word (`crossLiquidity_up`). Going down it has the wrong sign, and none of
the fallbacks of the checked arithmetic makes up for it (`crossLiquidity_down_iff`): the
running value stays right only across ticks whose net liquidity is zero.
`liquidity_tracked_iff` says so of every head of the loop.
-/

namespace ArbEngine
namespace UniswapV3Pool

/-! ## The liquidity a pool has at a tick -/

/-- `liquidity_net` of a tick; a tick without an entry has the default, zero. -/
def netAt (p : UniswapV3Pool) (k : ℤ) : ℤ := ((p.ticks.lookup k).getD default).liquidityNet

/-- What the initialised ticks from one tick to another add, with a sign for the direction. -/
def netChange (p : UniswapV3Pool) (tick₁ tick₂ : ℤ) : ℤ :=
  StepLevel.change p.ticks.keys.toFinset p.netAt tick₁ tick₂

/-- **The liquidity in range at a tick**, as the pool's own tick and liquidity determine it. -/
def activeLiquidity (p : UniswapV3Pool) (tick : ℤ) : ℤ :=
  p.liquidity.toNat + p.netChange p.tick tick

/-- The liquidity sums of the pool fit in `u128`. -/
def LiquidityFits (p : UniswapV3Pool) : Prop :=
  ∀ tick, 0 ≤ p.activeLiquidity tick ∧ p.activeLiquidity tick < 2 ^ 128

theorem activeLiquidity_tick (p : UniswapV3Pool) : p.activeLiquidity p.tick = p.liquidity.toNat := by
  unfold activeLiquidity netChange
  rw [StepLevel.change_self, add_zero]

/-- Two ticks have the same liquidity when the net liquidity between them cancels. -/
theorem activeLiquidity_eq_iff {p : UniswapV3Pool} {tick tick' : ℤ} :
    p.activeLiquidity tick' = p.activeLiquidity tick ↔ p.netChange tick tick' = 0 := by
  unfold activeLiquidity netChange
  rw [add_right_inj]
  exact StepLevel.change_eq_iff

/-- In the order of the swap, nothing lies between where it stands and the next tick. -/
theorem not_between_of_next {p : UniswapV3Pool} {z : Bool} {tick k : ℤ} {rest : List ℤ}
    (h : p.ticksAhead z tick = k :: rest) {j : ℤ} (hj : j ∈ p.ticks.keys)
    (hbeyond : Beyond z tick j) : j = k ∨ if z then j < k else k < j := by
  have hmem : j ∈ k :: rest := by
    rw [← h]
    exact mem_ticksAhead_iff.mpr ⟨hj, hbeyond⟩
  have hsorted : (k :: rest).Pairwise fun i j => if z then j < i else i < j := by
    rw [← h]
    exact (p.ticksInOrder_pairwise z).filter _
  rcases List.mem_cons.mp hmem with rfl | hrest
  · exact Or.inl rfl
  · exact Or.inr ((List.pairwise_cons.mp hsorted).1 j hrest)

/-- Going up, the liquidity at the next tick is larger by that tick's net liquidity. -/
theorem activeLiquidity_up {p : UniswapV3Pool} {tick k : ℤ} {rest : List ℤ}
    (h : p.ticksAhead false tick = k :: rest) :
    p.activeLiquidity k = p.activeLiquidity tick + p.netAt k := by
  obtain ⟨hk, hlt⟩ := mem_ticksAhead_iff.mp (h ▸ List.mem_cons_self : k ∈ p.ticksAhead false tick)
  have hpass : p.netChange p.tick k = p.netChange p.tick tick + p.netAt k := by
    apply StepLevel.change_pass (List.mem_toFinset.mpr hk) (by simpa [Beyond] using hlt) le_rfl
    intro j hj hle
    by_cases hbeyond : Beyond false tick j
    · rcases not_between_of_next h (List.mem_toFinset.mp hj) hbeyond with rfl | habove
      · exact Or.inr rfl
      · simp only [Bool.false_eq_true, if_false] at habove
        omega
    · simp only [Beyond, Bool.false_eq_true, if_false] at hbeyond
      exact Or.inl (not_lt.mp hbeyond)
  unfold activeLiquidity
  rw [hpass, add_assoc]

/-- Going down, the liquidity below the next tick is smaller by that tick's net liquidity. -/
theorem activeLiquidity_down {p : UniswapV3Pool} {tick k : ℤ} {rest : List ℤ}
    (h : p.ticksAhead true tick = k :: rest) :
    p.activeLiquidity (k - 1) = p.activeLiquidity tick - p.netAt k := by
  obtain ⟨hk, hle⟩ := mem_ticksAhead_iff.mp (h ▸ List.mem_cons_self : k ∈ p.ticksAhead true tick)
  have hpass : p.netChange p.tick tick = p.netChange p.tick (k - 1) + p.netAt k := by
    apply StepLevel.change_pass (List.mem_toFinset.mpr hk) (by omega) (by simpa [Beyond] using hle)
    intro j hj hjle
    rcases not_between_of_next h (List.mem_toFinset.mp hj) (by simpa [Beyond] using hjle) with
      rfl | hbelow
    · exact Or.inr rfl
    · simp only [if_true] at hbelow
      exact Or.inl (by omega)
  unfold activeLiquidity
  omega

/-! ## What crossing does to the running value -/

/-- The three ends of the checked arithmetic. -/
theorem toNat_crossLiquidity (L : U128) {net : ℤ} (hnet : net.natAbs < 2 ^ 128) :
    ((crossLiquidity L net).toNat : ℤ) =
      if net < 0 then max (L.toNat + net) 0
      else if L.toNat + net < 2 ^ 128 then L.toNat + net else L.toNat := by
  unfold crossLiquidity
  by_cases hneg : net < 0
  · have habs : (BitVec.ofNat 128 net.natAbs).toNat = net.natAbs := by
      rw [BitVec.toNat_ofNat, Nat.mod_eq_of_lt hnet]
    rw [if_pos hneg, if_pos hneg]
    by_cases hle : net.natAbs ≤ L.toNat
    · obtain ⟨c, hc, hval⟩ := Word.checkedSub_of_le (a := L) (b := BitVec.ofNat 128 net.natAbs)
        (by rw [habs]; exact hle)
      rw [hc, Option.getD_some, hval, habs]
      omega
    · have hnone : Word.checkedSub L (BitVec.ofNat 128 net.natAbs) = none := by
        rw [Word.checkedSub, if_neg (by rw [habs]; exact hle)]
      rw [hnone, Option.getD_none]
      simp only [BitVec.toNat_ofNat, Nat.zero_mod]
      omega
  · have hval : (BitVec.ofInt 128 net).toNat = net.toNat := by
      rw [BitVec.toNat_ofInt, Int.emod_eq_of_lt (by omega) (by omega)]
    rw [if_neg hneg, if_neg hneg]
    by_cases hlt : (L.toNat : ℤ) + net < 2 ^ 128
    · obtain ⟨c, hc, hsum⟩ := Word.checkedAdd_of_lt (a := L) (b := BitVec.ofInt 128 net)
        (by rw [hval]; omega)
      rw [if_pos hlt, hc, Option.getD_some, hsum, hval]
      omega
    · have hnone : Word.checkedAdd L (BitVec.ofInt 128 net) = none := by
        rw [Word.checkedAdd, if_neg (by rw [hval]; omega)]
      rw [if_neg hlt, hnone, Option.getD_none]

/-- Where the sum fits, crossing adds the net liquidity. -/
theorem crossLiquidity_up {L : U128} {net : ℤ} (h0 : 0 ≤ L.toNat + net)
    (hlt : L.toNat + net < 2 ^ 128) : ((crossLiquidity L net).toNat : ℤ) = L.toNat + net := by
  have hL : L.toNat < 2 ^ 128 := L.isLt
  rw [toNat_crossLiquidity L (by omega)]
  by_cases hneg : net < 0
  · rw [if_pos hneg, max_eq_left h0]
  · rw [if_neg hneg, if_pos hlt]

/-- Where the difference fits, crossing takes the net liquidity off only if there is none. -/
theorem crossLiquidity_down_iff {L : U128} {net : ℤ} (h0 : 0 ≤ L.toNat - net)
    (hlt : L.toNat - net < 2 ^ 128) :
    ((crossLiquidity L net).toNat : ℤ) = L.toNat - net ↔ net = 0 := by
  have hL : L.toNat < 2 ^ 128 := L.isLt
  rw [toNat_crossLiquidity L (by omega)]
  split_ifs <;> omega

/-- **Down and back up**: crossing a tick twice restores the liquidity only if the tick has no
    net liquidity, or one of the fallbacks applies both times. -/
theorem crossed_crossed_iff (p : UniswapV3Pool) {k : ℤ} {L : U128}
    (hnet : (p.netAt k).natAbs < 2 ^ 128) :
    p.crossed k (p.crossed k L) = L ↔
      p.netAt k = 0 ∨ (p.netAt k < 0 ∧ L = 0#128) ∨
        (0 < p.netAt k ∧ 2 ^ 128 ≤ L.toNat + p.netAt k) := by
  have hzero : L = 0#128 ↔ L.toNat = 0 := by
    rw [← BitVec.toNat_inj]
    rfl
  rw [← BitVec.toNat_inj, ← Int.natCast_inj, hzero]
  change ((crossLiquidity (crossLiquidity L (p.netAt k)) (p.netAt k)).toNat : ℤ) = _ ↔ _
  rw [toNat_crossLiquidity _ hnet, toNat_crossLiquidity _ hnet]
  split_ifs <;> omega

/-! ## One iteration -/

section Step

variable (m : TickMath) (p : UniswapV3Pool) (z : Bool) (s : SwapState)

/-- An iteration from `s` moves the price here. -/
def MovesTo (price : U256) : Prop :=
  ∃ amountIn amountOut fee,
    computeSwapStep s.sqrtPriceX96 (ratio m (p.getNextTick s.tick z).1) s.liquidity
      s.amountSpecifiedRemaining p.fee = .ok (price, amountIn, amountOut, fee)

/-- It moves it all the way to an initialised tick. -/
def Crosses : Prop :=
  (p.getNextTick s.tick z).2 = true ∧ MovesTo m p z s (ratio m (p.getNextTick s.tick z).1)

/-- **The iterations that keep the liquidity right.** -/
structure KeepsLiquidity : Prop where
  /-- A tick that is crossed downwards has no net liquidity. -/
  crossing : z = true → Crosses m p z s → p.netAt (p.getNextTick s.tick z).1 = 0
  /-- A price that stops short of the next tick is converted to a tick with the same
      liquidity. -/
  within : ¬ Crosses m p z s → ∀ price tick, MovesTo m p z s price →
    getTickAtSqrtRatio m price = .ok tick → p.netChange s.tick tick = 0

end Step

variable {m : TickMath} {p : UniswapV3Pool} {z : Bool} {s t : SwapState}

/-- The tick and the liquidity after an iteration. -/
theorem swapBody_cases (h : swapBody m p z s = .ok t) :
    (Crosses m p z s ∧ t.tick = tickAfter z (p.getNextTick s.tick z).1 ∧
        t.liquidity = p.crossed (p.getNextTick s.tick z).1 s.liquidity) ∨
      (¬ Crosses m p z s ∧ t.liquidity = s.liquidity ∧
        ∃ price, MovesTo m p z s price ∧ getTickAtSqrtRatio m price = .ok t.tick) := by
  unfold swapBody swapIteration getSqrtRatioAtTick at h
  rw [Outcome.ok_bind] at h
  change (computeSwapStep s.sqrtPriceX96 (ratio m (p.getNextTick s.tick z).1) s.liquidity
    s.amountSpecifiedRemaining p.fee >>= _) = _ at h
  obtain ⟨⟨price, amountIn, amountOut, fee⟩, hstep, h⟩ := Outcome.bind_eq_ok.mp h
  obtain ⟨paid, _, h⟩ := Outcome.bind_eq_ok.mp h
  obtain ⟨remaining, _, h⟩ := Outcome.bind_eq_ok.mp h
  obtain ⟨calculated, _, h⟩ := Outcome.bind_eq_ok.mp h
  dsimp only at h
  split at h
  · rename_i hcross
    obtain ⟨tick, htick, h⟩ := Outcome.bind_eq_ok.mp h
    cases h
    refine Or.inl ⟨⟨hcross.2, amountIn, amountOut, fee, ?_⟩, crossTick_eq_ok htick, rfl⟩
    rw [hstep, hcross.1]
    rfl
  · rename_i hcross
    obtain ⟨tick, htick, h⟩ := Outcome.bind_eq_ok.mp h
    cases h
    refine Or.inr ⟨?_, rfl, price, ⟨amountIn, amountOut, fee, hstep⟩, htick⟩
    rintro ⟨hinit, a, b, c, hstep'⟩
    rw [hstep] at hstep'
    cases hstep'
    exact hcross ⟨rfl, hinit⟩

theorem MovesTo.unique {price price' : U256} (h : MovesTo m p z s price)
    (h' : MovesTo m p z s price') : price = price' := by
  obtain ⟨_, _, _, h⟩ := h
  obtain ⟨_, _, _, h'⟩ := h'
  rw [h] at h'
  cases h'
  rfl

/-- The running liquidity is the liquidity at the running tick. -/
def Tracked (p : UniswapV3Pool) (s : SwapState) : Prop :=
  (s.liquidity.toNat : ℤ) = p.activeLiquidity s.tick

/-- A crossing upwards keeps the liquidity right, one downwards only without net liquidity. -/
theorem tracked_crossed_iff (hfits : LiquidityFits p) (hs : Tracked p s) {k : ℤ} {rest : List ℤ}
    (hahead : p.ticksAhead z s.tick = k :: rest) (htick : t.tick = tickAfter z k)
    (hliq : t.liquidity = p.crossed k s.liquidity) :
    Tracked p t ↔ (z = true → p.netAt k = 0) := by
  unfold Tracked at hs ⊢
  rw [htick, hliq]
  change ((crossLiquidity s.liquidity (p.netAt k)).toNat : ℤ) = _ ↔ _
  obtain ⟨h0, hlt⟩ := hfits (tickAfter z k)
  cases z with
  | false =>
    change 0 ≤ p.activeLiquidity k at h0
    change p.activeLiquidity k < 2 ^ 128 at hlt
    change _ = p.activeLiquidity k ↔ _
    rw [activeLiquidity_up hahead, ← hs] at h0 hlt ⊢
    exact iff_of_true (crossLiquidity_up h0 hlt) (fun h => by cases h)
  | true =>
    change 0 ≤ p.activeLiquidity (k - 1) at h0
    change p.activeLiquidity (k - 1) < 2 ^ 128 at hlt
    change _ = p.activeLiquidity (k - 1) ↔ _
    rw [activeLiquidity_down hahead, ← hs] at h0 hlt ⊢
    rw [crossLiquidity_down_iff h0 hlt]
    exact ⟨fun h _ => h, fun h => h rfl⟩

/-- **One iteration keeps the liquidity right exactly when it meets the condition.** -/
theorem tracked_iff_keeps (hfits : LiquidityFits p) (hs : Tracked p s)
    (h : swapBody m p z s = .ok t) : Tracked p t ↔ KeepsLiquidity m p z s := by
  rcases swapBody_cases h with ⟨hcross, htick, hliq⟩ | ⟨hcross, hliq, price, hprice, htick⟩
  · have hnext := getNextTick_eq p z s.tick
    cases hahead : p.ticksAhead z s.tick with
    | nil =>
      -- The boundary is no initialised tick, so nothing is crossed there.
      rw [hahead] at hnext
      have hinit := hcross.1
      rw [hnext] at hinit
      cases hinit
    | cons k rest =>
      rw [hahead] at hnext
      rw [hnext] at htick hliq
      rw [tracked_crossed_iff hfits hs hahead htick hliq]
      constructor
      · intro hnet
        refine ⟨fun hz _ => ?_, fun hno => absurd hcross hno⟩
        rw [hnext]
        exact hnet hz
      · intro hkeeps hz
        have hnet := hkeeps.crossing hz hcross
        rw [hnext] at hnet
        exact hnet
  · unfold Tracked at hs ⊢
    rw [hliq, hs, eq_comm, activeLiquidity_eq_iff]
    constructor
    · intro hzero
      refine ⟨fun _ hyes => absurd hyes hcross, fun _ price' tick' hprice' htick' => ?_⟩
      rw [← hprice.unique hprice', htick] at htick'
      cases htick'
      exact hzero
    · intro hkeeps
      exact hkeeps.within hcross price t.tick hprice htick

/-! ## Every iteration -/

section Call

variable (m : TickMath) (p : UniswapV3Pool) (amountIn : U256) (tokenIn : Token)

/-- The heads of the loop in this call. -/
abbrev SwapReached : SwapState → Prop :=
  Loop.Reached inputLeft (swapBody m p (p.zeroForOne tokenIn)) (p.startState amountIn.toNat)

/-- **The running liquidity is right at every head of the loop exactly when every iteration
    meets the condition.** -/
theorem liquidity_tracked_iff (hfits : LiquidityFits p) :
    (∀ s, SwapReached m p amountIn tokenIn s → Tracked p s) ↔
      ∀ s t, SwapReached m p amountIn tokenIn s → inputLeft s = true →
        swapBody m p (p.zeroForOne tokenIn) s = .ok t →
          KeepsLiquidity m p (p.zeroForOne tokenIn) s := by
  apply Loop.reached_iff
  · exact (activeLiquidity_tick p).symm
  · intro s t hs hbody
    exact tracked_iff_keeps hfits hs hbody

/-- Then the liquidity is right in the state the loop ends in. -/
theorem ends_tracked {m : TickMath} {p : UniswapV3Pool} {amountIn : U256} {tokenIn : Token}
    (htracked : ∀ s, SwapReached m p amountIn tokenIn s → Tracked p s) {t : SwapState}
    (h : Loop.Ends inputLeft (swapBody m p (p.zeroForOne tokenIn)) (p.startState amountIn.toNat)
      (.ok t)) : Tracked p t := by
  obtain ⟨fuel, hrun⟩ := h
  exact htracked t (Loop.Reached.start.of_run hrun)

end Call

/-! ## A pool with a position -/

/-- A pool at tick 0 with a position of 5 units from tick 0 up to tick 443640. -/
def ranged : UniswapV3Pool where
  address := 0x9#160
  token0 := { address := 0x1#160, decimals := 18, symbol := "WETH" }
  token1 := { address := 0x2#160, decimals := 6, symbol := "USDC" }
  liquidity := 1000000000000000000#128
  sqrtPriceX96 := 1#256 <<< 96
  tick := 0
  fee := 3000#32
  tickSpacing := 60
  ticks := (AList.singleton 0 { liquidityNet := 5, liquidityGross := 5#128 }).insert 443640
    { liquidityNet := -5, liquidityGross := 5#128 }

theorem ranged_fits : LiquidityFits ranged := by
  intro tick
  have hkeys : ranged.ticks.keys.toFinset = {443640, 0} := rfl
  have hup : ∀ x, StepLevel.upTo ranged.ticks.keys.toFinset ranged.netAt x =
      (if 443640 ≤ x then -5 else 0) + if 0 ≤ x then 5 else 0 := by
    intro x
    rw [StepLevel.upTo, hkeys, Finset.sum_filter, Finset.sum_insert (by decide),
      Finset.sum_singleton]
    rfl
  have hactive : ranged.activeLiquidity tick =
      1000000000000000000 + (((if 443640 ≤ tick then -5 else 0) + if 0 ≤ tick then 5 else 0) - 5) := by
    unfold activeLiquidity netChange
    rw [StepLevel.change_eq_upTo, hup, hup]
    rfl
  rw [hactive]
  split_ifs <;> constructor <;> norm_num

/-- What 1000 units of the second token leave behind: they do not reach the upper tick. -/
def rangedFilled : SwapState where
  amountSpecifiedRemaining := 0
  amountCalculated := 996
  sqrtPriceX96 := 79228162514264416584021977057#256
  tick := 0
  liquidity := 1000000000000000000#128

theorem ranged_fill :
    swapBody stepMath ranged false (ranged.startState 1000) = .ok rangedFilled := by
  decide +kernel

/-- A swap that stays inside the position keeps the liquidity right. -/
theorem ranged_fill_tracked :
    LiquidityFits ranged ∧
      ∀ s, SwapReached stepMath ranged 1000#256 ranged.token1 s → Tracked ranged s := by
  refine ⟨ranged_fits, ?_⟩
  apply (liquidity_tracked_iff stepMath ranged 1000#256 ranged.token1 ranged_fits).mpr
  -- One iteration uses the input up, so only the first state has an iteration to judge.
  have hheads : ∀ s, SwapReached stepMath ranged 1000#256 ranged.token1 s →
      s = ranged.startState 1000 ∨ s = rangedFilled := by
    intro s hs
    induction hs with
    | start => exact Or.inl rfl
    | next _ hc hb ih =>
      rcases ih with rfl | rfl
      · rw [show swapBody stepMath ranged (ranged.zeroForOne ranged.token1)
          (ranged.startState 1000) = _ from ranged_fill] at hb
        cases hb
        exact Or.inr rfl
      · cases hc
  intro s t hs hc hb
  rcases hheads s hs with rfl | rfl
  · rw [show swapBody stepMath ranged (ranged.zeroForOne ranged.token1)
      (ranged.startState 1000) = _ from ranged_fill] at hb
    cases hb
    have htracked : Tracked ranged (ranged.startState 1000) := (activeLiquidity_tick ranged).symm
    apply (tracked_iff_keeps ranged_fits htracked ranged_fill).mp
    exact (activeLiquidity_tick ranged).symm
  · cases hc

/-- Where crossing downwards leads: below tick 0 the position is not in range. -/
def rangedBelow : SwapState where
  amountSpecifiedRemaining := 1000
  amountCalculated := 0
  sqrtPriceX96 := 1#256 <<< 96
  tick := -1
  liquidity := 1000000000000000005#128

/-- **Crossing tick 0 downwards adds the position that ends there**: the running liquidity is
    `10^18 + 5` where the pool has `10^18 - 5`. -/
theorem ranged_cross_down_not_tracked :
    ¬ ∀ (m : TickMath) (p : UniswapV3Pool) (amountIn : U256) (tokenIn : Token), LiquidityFits p →
      ∀ s, SwapReached m p amountIn tokenIn s → Tracked p s := by
  intro h
  have hcross : swapBody stepMath ranged true (ranged.startState 1000) = .ok rangedBelow := by
    decide +kernel
  have hbelow := h stepMath ranged 1000#256 ranged.token0 ranged_fits rangedBelow
    (.next .start rfl hcross)
  have hactive : ranged.activeLiquidity (-1) = 999999999999999995 := by
    decide +kernel
  change (1000000000000000005 : ℤ) = ranged.activeLiquidity (-1) at hbelow
  rw [hactive] at hbelow
  norm_num at hbelow

end UniswapV3Pool
end ArbEngine
