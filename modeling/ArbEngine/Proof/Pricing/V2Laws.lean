import ArbEngine.Pricing.Router
import ArbEngine.Proof.Pricing.V2Runs

/-!
# How V2 quotes compare

Two quotes that answered are ordered as their arguments are (`getAmountOut_mono`): more for more
input, for a smaller fee, for less of the token that is paid in and for more of the other. Along
a route of pairs this carries over from hop to hop (`Route.outputAlong_mono`).

A trade and the same trade in two parts are compared by `split_le_whole`, where the second part
is quoted by the pair that `simulate_swap` leaves behind. That the two parts pay no more needs an
input reserve: an empty pair pays nothing, but once something has been paid in it is not empty.
-/

namespace ArbEngine
namespace UniswapV2Pair

open ConstantProduct

/-! ## Order -/

section Order

variable {p q : UniswapV2Pair} {tokenIn : Token} {x x' y y' rin rout rin' rout' : U256}

/-- An empty reserve pays nothing. -/
theorem getAmountOut_of_empty (ordered : p.getReservesOrdered tokenIn = .ok (rin, rout))
    (empty : rin.toNat = 0) (h : p.getAmountOut x tokenIn = .ok y) : y.toNat = 0 := by
  have zero : rin = 0#256 := BitVec.eq_of_toNat_eq (by simpa using empty)
  unfold getAmountOut at h
  rw [ordered] at h
  simp only [Outcome.ok_bind, zero, true_or, or_true, if_true] at h
  obtain rfl := Outcome.ok.inj h
  rfl

/-- **A quote is ordered as its arguments are.** -/
theorem getAmountOut_mono (ordered : p.getReservesOrdered tokenIn = .ok (rin, rout))
    (ordered' : q.getReservesOrdered tokenIn = .ok (rin', rout')) (hx : x ≤ x')
    (fee : q.feeBps ≤ p.feeBps) (hpos : 0 < rin'.toNat) (hin : rin' ≤ rin) (hout : rout ≤ rout')
    (h : p.getAmountOut x tokenIn = .ok y) (h' : q.getAmountOut x' tokenIn = .ok y') :
    y ≤ y' := by
  rw [BitVec.le_def] at hx fee hin hout ⊢
  rw [getAmountOut_quote ordered (hpos.trans_le hin) h, getAmountOut_quote ordered' hpos h']
  exact quote_mono (by norm_num) hpos hx (Nat.sub_le_sub_left fee _) hin hout

/-- With the same reserve to pay into it need not hold anything. -/
theorem getAmountOut_mono_of_eq (ordered : p.getReservesOrdered tokenIn = .ok (rin, rout))
    (ordered' : q.getReservesOrdered tokenIn = .ok (rin, rout')) (hx : x ≤ x')
    (fee : q.feeBps ≤ p.feeBps) (hout : rout ≤ rout') (h : p.getAmountOut x tokenIn = .ok y)
    (h' : q.getAmountOut x' tokenIn = .ok y') : y ≤ y' := by
  rcases Nat.eq_zero_or_pos rin.toNat with empty | hpos
  · rw [BitVec.le_def, getAmountOut_of_empty ordered empty h]
    exact Nat.zero_le _
  · exact getAmountOut_mono ordered ordered' hx fee hpos (BitVec.le_refl _) hout h h'

/-- A larger input is not paid less. -/
theorem getAmountOut_mono_amount (hx : x ≤ x') (h : p.getAmountOut x tokenIn = .ok y)
    (h' : p.getAmountOut x' tokenIn = .ok y') : y ≤ y' := by
  obtain ⟨rin, rout, ordered⟩ := getAmountOut_reserves h
  exact getAmountOut_mono_of_eq ordered ordered hx (BitVec.le_refl _) (BitVec.le_refl _) h h'

/-- A larger fee is not paid more. -/
theorem getAmountOut_anti_fee {fee : U32} (hfee : p.feeBps ≤ fee)
    (h : p.getAmountOut x tokenIn = .ok y)
    (h' : { p with feeBps := fee }.getAmountOut x tokenIn = .ok y') : y' ≤ y := by
  obtain ⟨rin, rout, ordered⟩ := getAmountOut_reserves h
  exact getAmountOut_mono_of_eq (p := { p with feeBps := fee }) ordered ordered
    (BitVec.le_refl _) hfee (BitVec.le_refl _) h' h

end Order

end UniswapV2Pair

namespace Route

variable {m : TickMath} {fuel : ℕ} {pools : List Pool} {path : List Token} {x x' y y' : U256}

theorem outputAlong_mono (v2 : ∀ pool ∈ pools, ∃ pair, pool = .v2 pair) (hx : x ≤ x')
    (h : outputAlong m fuel pools path x = .ended (.ok y))
    (h' : outputAlong m fuel pools path x' = .ended (.ok y')) : y ≤ y' := by
  induction pools generalizing path x x' with
  | nil =>
    obtain rfl := Fueled.pure_eq_ok.mp h
    obtain rfl := Fueled.pure_eq_ok.mp h'
    exact hx
  | cons pool pools ih =>
    cases path with
    | nil => cases Fueled.ended_eq_ok.mp h
    | cons tokenIn path =>
      obtain ⟨pair, rfl⟩ := v2 pool List.mem_cons_self
      obtain ⟨z, hz, h⟩ := Fueled.bind_eq_ok.mp h
      obtain ⟨z', hz', h'⟩ := Fueled.bind_eq_ok.mp h'
      have step : z ≤ z' := UniswapV2Pair.getAmountOut_mono_amount hx
        (Fueled.ended_eq_ok.mp hz) (Fueled.ended_eq_ok.mp hz')
      exact ih (fun pool hpool => v2 pool (List.mem_cons_of_mem _ hpool)) step h h'

end Route

namespace UniswapV2Pair

/-- **V2 quotes are monotone**: in the input, the fee and either reserve; and so is the output of a
    route of pairs in its input. -/
theorem quotes_monotone (p : UniswapV2Pair) (tokenIn : Token) :
    (∀ x x' y y', x ≤ x' → p.getAmountOut x tokenIn = .ok y →
        p.getAmountOut x' tokenIn = .ok y' → y ≤ y') ∧
      (∀ fee x y y', p.feeBps ≤ fee → p.getAmountOut x tokenIn = .ok y →
        { p with feeBps := fee }.getAmountOut x tokenIn = .ok y' → y' ≤ y) ∧
      (∀ r0 r1 rin rin' rout x y y', p.getReservesOrdered tokenIn = .ok (rin, rout) →
        (p.withReserves r0 r1).getReservesOrdered tokenIn = .ok (rin', rout) →
        0 < rin.toNat → rin ≤ rin' → p.getAmountOut x tokenIn = .ok y →
        (p.withReserves r0 r1).getAmountOut x tokenIn = .ok y' → y' ≤ y) ∧
      (∀ r0 r1 rin rout rout' x y y', p.getReservesOrdered tokenIn = .ok (rin, rout) →
        (p.withReserves r0 r1).getReservesOrdered tokenIn = .ok (rin, rout') →
        rout ≤ rout' → p.getAmountOut x tokenIn = .ok y →
        (p.withReserves r0 r1).getAmountOut x tokenIn = .ok y' → y ≤ y') ∧
      ∀ (m : TickMath) (fuel : ℕ) (r : Route) (x x' y y' : U256),
        (∀ pool ∈ r.pools, ∃ pair, pool = .v2 pair) → x ≤ x' →
        r.getOutput m fuel x = .ended (.ok y) → r.getOutput m fuel x' = .ended (.ok y') →
          y ≤ y' := by
  refine ⟨?amount, ?fee, ?reserveIn, ?reserveOut, ?route⟩
  case amount =>
    intro x x' y y' hx h h'
    exact getAmountOut_mono_amount hx h h'
  case fee =>
    intro fee x y y' hfee h h'
    exact getAmountOut_anti_fee hfee h h'
  case reserveIn =>
    intro r0 r1 rin rin' rout x y y' ordered ordered' hpos hin h h'
    exact getAmountOut_mono ordered' ordered (BitVec.le_refl _) (BitVec.le_refl _) hpos hin
      (BitVec.le_refl _) h' h
  case reserveOut =>
    intro r0 r1 rin rout rout' x y y' ordered ordered' hout h h'
    exact getAmountOut_mono_of_eq ordered ordered' (BitVec.le_refl _) (BitVec.le_refl _) hout h h'
  case route =>
    intro m fuel r x x' y y' v2 hx h h'
    exact Route.outputAlong_mono v2 hx h h'

/-! ## A trade in two parts -/

section Split

open ConstantProduct

variable {p q : UniswapV2Pair} {tokenIn : Token} {a b y z w rin rout : U256}

/-- What a swap leaves behind, in the roles of its direction. -/
theorem simulateSwap_reserves (ordered : p.getReservesOrdered tokenIn = .ok (rin, rout))
    (quoted : p.getAmountOut a tokenIn = .ok y) (swapped : p.simulateSwap a tokenIn = .ok q) :
    ∃ rin' rout', q.getReservesOrdered tokenIn = .ok (rin', rout') ∧
      rin'.toNat = rin.toNat + a.toNat ∧ rout'.toNat = rout.toNat - y.toNat ∧
        q.keptBps = p.keptBps := by
  obtain ⟨out, hout, r0, r1, rfl, hres⟩ := simulateSwap_cases swapped
  obtain rfl : y = out := by
    rw [quoted] at hout
    exact Outcome.ok.inj hout
  rcases getReservesOrdered_cases ordered with ⟨h0, rfl, rfl⟩ | ⟨h0, h1, rfl, rfl⟩
  · obtain ⟨-, hr0, -, hr1⟩ | ⟨hne, -⟩ := hres
    · refine ⟨r0, r1, ?_, hr0, hr1, rfl⟩
      simp [getReservesOrdered, withReserves, h0]
    · exact absurd h0 hne
  · obtain ⟨heq, -⟩ | ⟨-, -, hr1, -, hr0⟩ := hres
    · exact absurd heq h0
    · refine ⟨r1, r0, ?_, hr1, hr0, rfl⟩
      unfold getReservesOrdered
      exact (if_neg h0).trans (if_pos h1)

/-- **A trade in two parts pays no more than the whole**, where there is a reserve to pay into.
    The sum of the two parts is the word `a + b`: where it wraps, neither part pays anything. -/
theorem split_le_whole (ordered : p.getReservesOrdered tokenIn = .ok (rin, rout))
    (hpos : 0 < rin.toNat) (first : p.getAmountOut a tokenIn = .ok y)
    (swapped : p.simulateSwap a tokenIn = .ok q) (second : q.getAmountOut b tokenIn = .ok z)
    (whole : p.getAmountOut (a + b) tokenIn = .ok w) : y.toNat + z.toNat ≤ w.toNat := by
  obtain ⟨rin', rout', ordered', hrin', hrout', hkept⟩ :=
    simulateSwap_reserves ordered first swapped
  have hpos' : 0 < rin'.toNat := by omega
  have hkept_le : p.keptBps ≤ 10000 := Nat.sub_le _ _
  have hy := getAmountOut_quote ordered hpos first
  have hz := getAmountOut_quote ordered' hpos' second
  rw [hkept, hrin', hrout', hy] at hz
  rcases lt_or_ge (a.toNat + b.toNat) (2 ^ 256) with fits | wraps
  · rw [getAmountOut_quote ordered hpos whole, BitVec.toNat_add_of_lt fits, hy, hz]
    exact quote_add_quote_le _ _ _ hpos (by norm_num) hkept_le
  · -- The second quote looked at an input that does not fit beside the first.
    have unpriced : p.keptBps = 0 ∨ rout.toNat = 0 := by
      by_contra priced
      obtain ⟨hk, ho⟩ := not_or.mp priced
      have left : y.toNat < rout.toNat := by
        rw [hy]
        exact quote_lt hpos (by norm_num) (Nat.pos_of_ne_zero ho)
      have traded : ¬ (b = 0#256 ∨ rin' = 0#256 ∨ rout' = 0#256) := by
        rintro (rfl | rfl | rfl)
        · have := a.isLt
          simp only [BitVec.toNat_ofNat, Nat.zero_mod] at wraps
          omega
        · simp at hpos'
        · simp at hrout'
          omega
      have fits := (getAmountOut_fits ordered' traded second).2
      have grows : b.toNat ≤ b.toNat * q.keptBps :=
        Nat.le_mul_of_pos_right _ (Nat.pos_of_ne_zero (hkept ▸ hk))
      omega
    rcases unpriced with free | empty
    · simp [hy, hz, quote, free]
    · simp [hy, hz, quote, empty]

end Split

/-- A hundred units in two halves, against reserves of a thousand each. -/
theorem sample_split_le_whole :
    ∃ y q z w, (samplePair 1000#256 1000#256).getAmountOut 50#256
        (samplePair 1000#256 1000#256).token0 = .ok y ∧
      (samplePair 1000#256 1000#256).simulateSwap 50#256
        (samplePair 1000#256 1000#256).token0 = .ok q ∧
      q.getAmountOut 50#256 (samplePair 1000#256 1000#256).token0 = .ok z ∧
      (samplePair 1000#256 1000#256).getAmountOut 100#256
        (samplePair 1000#256 1000#256).token0 = .ok w ∧ y.toNat + z.toNat ≤ w.toNat := by
  have ordered : (samplePair 1000#256 1000#256).getReservesOrdered
      (samplePair 1000#256 1000#256).token0 = .ok (1000#256, 1000#256) := by decide
  have first : (samplePair 1000#256 1000#256).getAmountOut 50#256
      (samplePair 1000#256 1000#256).token0 = .ok 47#256 := by decide
  have swapped : (samplePair 1000#256 1000#256).simulateSwap 50#256
      (samplePair 1000#256 1000#256).token0 = .ok (samplePair 1050#256 953#256) := by decide
  have second : (samplePair 1050#256 953#256).getAmountOut 50#256
      (samplePair 1000#256 1000#256).token0 = .ok 43#256 := by decide
  have whole : (samplePair 1000#256 1000#256).getAmountOut (50#256 + 50#256)
      (samplePair 1000#256 1000#256).token0 = .ok 90#256 := by decide
  exact ⟨_, _, _, _, first, swapped, second, whole,
    split_le_whole ordered (by decide) first swapped second whole⟩

/-- An empty pair pays nothing for a thousand units. Given one of them first, it pays 998 for the
    others. -/
theorem sample_split_pays :
    ∃ y q z w, (samplePair 0#256 1000#256).getAmountOut 1#256
        (samplePair 0#256 1000#256).token0 = .ok y ∧
      (samplePair 0#256 1000#256).simulateSwap 1#256 (samplePair 0#256 1000#256).token0 = .ok q ∧
      q.getAmountOut 999#256 (samplePair 0#256 1000#256).token0 = .ok z ∧
      (samplePair 0#256 1000#256).getAmountOut (1#256 + 999#256)
        (samplePair 0#256 1000#256).token0 = .ok w ∧ w.toNat < y.toNat + z.toNat :=
  ⟨0#256, samplePair 1#256 1000#256, 998#256, 0#256, by decide, by decide, by decide, by decide,
    by decide⟩

end UniswapV2Pair
end ArbEngine
