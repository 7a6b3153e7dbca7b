import ArbEngine.Proof.Pricing.V2Quote

/-!
# When `get_amount_in` inverts `get_amount_out`

The two functions ask `get_reserves_ordered` for their reserves in the same way, but not
about the same token: `get_amount_out` passes the token that is paid in, `get_amount_in` the
token that is taken out — and binds the answer to `(reserve_in, reserve_out)` all the same.
So `get_amount_in` prices a swap in the opposite direction.

`getAmountIn_inverts_iff` says exactly when that goes unnoticed. With `n` the least input
that buys `y`, the quotient that `get_amount_in` floors has to lie in `[n - 1, n + 1)`; each
of the two bounds decides one half of the inversion. Equal reserves are the obvious instance.
-/

namespace ArbEngine
namespace UniswapV2Pair

open ConstantProduct

/-- One of the two tokens of a pair. -/
inductive Side where
  | token0
  | token1
deriving DecidableEq, Repr

def Side.other : Side → Side
  | .token0 => .token1
  | .token1 => .token0

def token (p : UniswapV2Pair) : Side → Token
  | .token0 => p.token0
  | .token1 => p.token1

def reserve (p : UniswapV2Pair) : Side → U256
  | .token0 => p.reserve0
  | .token1 => p.reserve1

/-- The least input of the other token that buys `y` of the token on side `out`. -/
def leastInput (p : UniswapV2Pair) (out : Side) (y : U256) : ℕ :=
  leastIn p.keptBps 10000 y.toNat (p.reserve out.other).toNat (p.reserve out).toNat

/-- The two tokens are one and the same, so there is no order to get wrong. -/
def SameToken (p : UniswapV2Pair) : Prop := p.token0.address = p.token1.address

/-- The quotient with exchanged reserves reaches `n - 1`. -/
def EnoughIn (p : UniswapV2Pair) (out : Side) (y : U256) : Prop :=
  p.SameToken ∨ (p.leastInput out y - 1) *
      (((p.reserve out.other).toNat - y.toNat) * p.keptBps) ≤
    (p.reserve out).toNat * y.toNat * 10000

/-- The quotient with exchanged reserves stays below `n + 1`. -/
def NotTooMuchIn (p : UniswapV2Pair) (out : Side) (y : U256) : Prop :=
  p.SameToken ∨ (p.reserve out).toNat * y.toNat * 10000 <
    (p.leastInput out y + 1) * (((p.reserve out.other).toNat - y.toNat) * p.keptBps)

/-- `x` in buys at least `y` of the token on side `out`, and is within one unit of the least
    input that does. -/
def InvertsAt (p : UniswapV2Pair) (out : Side) (y x : U256) : Prop :=
  (∀ z, p.getAmountOut x (p.token out.other) = .ok z → y ≤ z) ∧
    (2#256 ≤ x → ∀ z, p.getAmountOut (x - 2#256) (p.token out.other) = .ok z → z < y)

/-! ## The reserves each function sees -/

theorem getReservesOrdered_token {p : UniswapV2Pair} (hne : ¬ p.SameToken) (side : Side) :
    p.getReservesOrdered (p.token side) = .ok (p.reserve side, p.reserve side.other) := by
  cases side with
  | token0 => simp [getReservesOrdered, token, reserve, Side.other]
  | token1 =>
    have h : ¬ p.token1.address = p.token0.address := fun h => hne h.symm
    simp [getReservesOrdered, token, reserve, Side.other, h]

theorem getReservesOrdered_same {p : UniswapV2Pair} (heq : p.SameToken) (side : Side) :
    p.getReservesOrdered (p.token side) = .ok (p.reserve0, p.reserve1) := by
  unfold SameToken at heq
  cases side <;> simp [getReservesOrdered, token, heq]

/-! ## The two halves of the inversion, at the input that was computed -/

section Inversion

variable {p : UniswapV2Pair} {out : Side} {y x z : U256}

theorem reserve_pos (h0 : 0 < p.reserve0.toNat) (h1 : 0 < p.reserve1.toNat) (side : Side) :
    0 < (p.reserve side).toNat := by
  cases side
  · exact h0
  · exact h1

theorem keptBps_pos (hfee : p.feeBps.toNat < 10000) : 0 < p.keptBps :=
  Nat.sub_pos_of_lt hfee

/-- The reserve roles in a quote that pays in the other token. -/
theorem getAmountOut_side (hne : ¬ p.SameToken) (hpos : 0 < (p.reserve out.other).toNat)
    (h : p.getAmountOut x (p.token out.other) = .ok z) :
    z.toNat = quote p.keptBps 10000 x.toNat (p.reserve out.other).toNat
      (p.reserve out).toNat := by
  have hr := getReservesOrdered_token hne out.other
  have hoo : out.other.other = out := by cases out <;> rfl
  rw [hoo] at hr
  exact getAmountOut_quote hr hpos h

/-- A quote paying in the other token reaches `y` from `leastInput` on. -/
theorem le_getAmountOut_iff (hne : ¬ p.SameToken) (hfee : p.feeBps.toNat < 10000)
    (hpos : 0 < (p.reserve out.other).toNat) (hy : y.toNat < (p.reserve out).toNat)
    (h : p.getAmountOut x (p.token out.other) = .ok z) :
    y ≤ z ↔ p.leastInput out y ≤ x.toNat := by
  rw [BitVec.le_def, getAmountOut_side hne hpos h]
  exact le_quote_iff_leastIn_le hpos (by norm_num) (keptBps_pos hfee) hy

/-- What `getAmountIn` computes: the floored quotient with the reserves exchanged. -/
theorem getAmountIn_side (hne : ¬ p.SameToken)
    (h : p.getAmountIn y (p.token out) = .ok x) :
    0 < ((p.reserve out.other).toNat - y.toNat) * p.keptBps ∧
      x.toNat = (p.reserve out).toNat * y.toNat * 10000 /
        (((p.reserve out.other).toNat - y.toNat) * p.keptBps) + 1 :=
  (getAmountIn_value (getReservesOrdered_token hne out) h).2

theorem toNat_sub_two (h : 2#256 ≤ x) : (x - 2#256).toNat = x.toNat - 2 := by
  rw [BitVec.toNat_sub_of_le h]
  rfl

/-- **First half**: the computed input buys `y` exactly when `EnoughIn`. -/
theorem enough_iff (hne : ¬ p.SameToken) (hfee : p.feeBps.toNat < 10000)
    (hpos : 0 < (p.reserve out.other).toNat) (hy : y.toNat < (p.reserve out).toNat)
    (hx : p.getAmountIn y (p.token out) = .ok x)
    (hz : p.getAmountOut x (p.token out.other) = .ok z) : y ≤ z ↔ p.EnoughIn out y := by
  obtain ⟨hden, hval⟩ := getAmountIn_side hne hx
  rw [le_getAmountOut_iff hne hfee hpos hy hz, hval, le_floor_add_one_iff hden]
  exact ⟨Or.inr, fun h => h.resolve_left hne⟩

/-- **Second half**: two units less no longer buy `y` exactly when `NotTooMuchIn`. -/
theorem not_too_much_iff (hne : ¬ p.SameToken) (hfee : p.feeBps.toNat < 10000)
    (hpos : 0 < (p.reserve out.other).toNat) (hy : y.toNat < (p.reserve out).toNat)
    (hx : p.getAmountIn y (p.token out) = .ok x) (h2 : 2#256 ≤ x)
    (hz : p.getAmountOut (x - 2#256) (p.token out.other) = .ok z) :
    z < y ↔ p.NotTooMuchIn out y := by
  obtain ⟨hden, hval⟩ := getAmountIn_side hne hx
  have htwo : 2 ≤ x.toNat := by simpa [BitVec.le_def] using h2
  have hiff := le_getAmountOut_iff hne hfee hpos hy hz
  have hlt : z < y ↔ ¬ y ≤ z := by rw [BitVec.le_def, BitVec.lt_def, Nat.not_le]
  rw [hlt, hiff, toNat_sub_two h2, NotTooMuchIn, ← floor_lt_add_one_iff hden]
  have hquot : (p.reserve out).toNat * y.toNat * 10000 /
      (((p.reserve out.other).toNat - y.toNat) * p.keptBps) = x.toNat - 1 := by omega
  rw [hquot]
  constructor
  · intro h
    exact Or.inr (by omega)
  · intro h
    have := h.resolve_left hne
    omega

/-- A computed input below two leaves nothing to check in the second half. -/
theorem notTooMuchIn_of_lt_two (hne : ¬ p.SameToken)
    (hx : p.getAmountIn y (p.token out) = .ok x) (h2 : ¬ 2#256 ≤ x) : p.NotTooMuchIn out y := by
  obtain ⟨hden, hval⟩ := getAmountIn_side hne hx
  have htwo : x.toNat < 2 := by simpa [BitVec.le_def] using h2
  refine Or.inr ((floor_lt_add_one_iff hden).mp ?_)
  omega

/-- With one token on both sides the reserves are always in their right roles. -/
theorem invertsAt_of_sameToken (heq : p.SameToken) (hfee : p.feeBps.toNat < 10000)
    (h0 : 0 < p.reserve0.toNat) (hx : p.getAmountIn y (p.token out) = .ok x) :
    p.InvertsAt out y x := by
  obtain ⟨hy, hden, hval⟩ := getAmountIn_value (getReservesOrdered_same heq out) hx
  have hr := getReservesOrdered_same heq out.other
  have hkey : ∀ {v z : U256}, p.getAmountOut v (p.token out.other) = .ok z →
      (y ≤ z ↔ leastIn p.keptBps 10000 y.toNat p.reserve0.toNat p.reserve1.toNat ≤ v.toNat) := by
    intro v z hz
    rw [BitVec.le_def, getAmountOut_quote hr h0 hz]
    exact le_quote_iff_leastIn_le h0 (by norm_num) (keptBps_pos hfee) hy
  have hn : leastIn p.keptBps 10000 y.toNat p.reserve0.toNat p.reserve1.toNat =
      (p.reserve0.toNat * y.toNat * 10000) ⌈/⌉
        ((p.reserve1.toNat - y.toNat) * p.keptBps) := by
    rw [leastIn, Nat.mul_comm p.keptBps]
  obtain ⟨hle, hge⟩ := floor_add_one_bounds (a := p.reserve0.toNat * y.toNat * 10000) hden
  rw [← hn] at hle hge
  refine ⟨fun z hz => (hkey hz).mpr (by omega), fun h2 z hz => ?_⟩
  have htwo : 2 ≤ x.toNat := by simpa [BitVec.le_def] using h2
  have hnot : ¬ y ≤ z := by
    rw [hkey hz, toNat_sub_two h2]
    omega
  simpa [BitVec.le_def, BitVec.lt_def] using hnot

end Inversion

/-! ## The characterisation -/

/-- **`get_amount_in` inverts `get_amount_out` exactly when exchanging the reserves does not
    move the quotient by more than the rounding.** Each half of the inversion is decided on
    its own wherever the forward quote it speaks of is `Ok`; together they decide
    `InvertsAt`. -/
theorem getAmountIn_inverts_iff (p : UniswapV2Pair) (out : Side) (y x : U256)
    (h0 : 0 < p.reserve0.toNat) (h1 : 0 < p.reserve1.toNat) (hfee : p.feeBps.toNat < 10000)
    (hy : y.toNat < (p.reserve out).toNat)
    (hx : p.getAmountIn y (p.token out) = .ok x) :
    (∀ z, p.getAmountOut x (p.token out.other) = .ok z → (y ≤ z ↔ p.EnoughIn out y)) ∧
      (2#256 ≤ x → ∀ z, p.getAmountOut (x - 2#256) (p.token out.other) = .ok z →
        (z < y ↔ p.NotTooMuchIn out y)) ∧
      ((∃ z, p.getAmountOut x (p.token out.other) = .ok z) →
        (p.InvertsAt out y x ↔ p.EnoughIn out y ∧ p.NotTooMuchIn out y)) := by
  have hpos : 0 < (p.reserve out.other).toNat := reserve_pos h0 h1 out.other
  by_cases hne : p.SameToken
  · have hinv := invertsAt_of_sameToken hne hfee h0 hx
    have henough : p.EnoughIn out y := Or.inl hne
    have hmuch : p.NotTooMuchIn out y := Or.inl hne
    exact ⟨fun z hz => iff_of_true (hinv.1 z hz) henough,
      fun h2 z hz => iff_of_true (hinv.2 h2 z hz) hmuch,
      fun _ => iff_of_true hinv ⟨henough, hmuch⟩⟩
  · refine ⟨fun z hz => enough_iff hne hfee hpos hy hx hz,
      fun h2 z hz => not_too_much_iff hne hfee hpos hy hx h2 hz, ?_⟩
    rintro ⟨z, hz⟩
    constructor
    · rintro ⟨hfst, hsnd⟩
      refine ⟨(enough_iff hne hfee hpos hy hx hz).mp (hfst z hz), ?_⟩
      by_cases h2 : 2#256 ≤ x
      · obtain ⟨z', hz'⟩ := getAmountOut_of_le (x - 2#256) hfee.le
          (by rw [toNat_sub_two h2]; omega) hz
        exact (not_too_much_iff hne hfee hpos hy hx h2 hz').mp (hsnd h2 z' hz')
      · exact notTooMuchIn_of_lt_two hne hx h2
    · rintro ⟨henough, hmuch⟩
      exact ⟨fun w hw => (enough_iff hne hfee hpos hy hx hw).mpr henough,
        fun h2 w hw => (not_too_much_iff hne hfee hpos hy hx h2 hw).mpr hmuch⟩

/-- With equal reserves the exchange is invisible: 112 units in are right for 100 out. -/
theorem samplePair_equal_reserves_inverts :
    (samplePair 1000#256 1000#256).getAmountIn 100#256
        (samplePair 1000#256 1000#256).token1 = .ok 112#256 ∧
      (samplePair 1000#256 1000#256).InvertsAt .token1 100#256 112#256 := by
  have hx : (samplePair 1000#256 1000#256).getAmountIn 100#256
      (samplePair 1000#256 1000#256).token1 = .ok 112#256 := by decide
  have hquote : (samplePair 1000#256 1000#256).getAmountOut 112#256
      (samplePair 1000#256 1000#256).token0 = .ok 100#256 := by decide
  have hiff := (getAmountIn_inverts_iff (samplePair 1000#256 1000#256) .token1 100#256 112#256
    (by decide) (by decide) (by decide) (by decide) hx).2.2 ⟨_, hquote⟩
  refine ⟨hx, hiff.mpr ⟨Or.inr ?_, Or.inr ?_⟩⟩
  · decide +kernel
  · decide +kernel

/-- Against reserves of 1000 and 2000000 the pair asks for one unit of the second token in
    return for 100 of the first, and pays nothing for it. -/
theorem samplePair_getAmountIn_not_inverse :
    (samplePair 1000#256 2000000#256).getAmountIn 100#256
        (samplePair 1000#256 2000000#256).token0 = .ok 1#256 ∧
      (samplePair 1000#256 2000000#256).getAmountOut 1#256
        (samplePair 1000#256 2000000#256).token1 = .ok 0#256 ∧
      ¬ (samplePair 1000#256 2000000#256).InvertsAt .token0 100#256 1#256 := by
  have hzero : (samplePair 1000#256 2000000#256).getAmountOut 1#256
      (samplePair 1000#256 2000000#256).token1 = .ok 0#256 := by decide
  refine ⟨by decide, hzero, ?_⟩
  rintro ⟨hbuys, _⟩
  exact absurd (hbuys 0#256 hzero) (by decide)

end UniswapV2Pair
end ArbEngine
