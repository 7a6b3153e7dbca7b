import ArbEngine.Lib.Run
import ArbEngine.Proof.Pricing.V2Quote

/-!
# Runs of simulated swaps

`simulate_swap` is a step from pair to pair; a trader who keeps calling it accumulates what
the pair pays out minus what is paid in. `SwapAccount` is the pair together with that
running account, and `swapStep` one call that returned `Ok`, for an amount and a token of
the trader's choosing.

The argument has the usual two storeys. `swapStep_keeps` is what one call preserves: it rests
on `ConstantProduct.product_le`, the only place where the fee and the two floors are looked
at. `GuardedRun.invariant` carries it over a run, and what the trader can have taken is
then read off the two reserves with `ConstantProduct.no_free_take`.
-/

namespace ArbEngine
namespace UniswapV2Pair

open ConstantProduct

/-- The same pair at other reserves. -/
def withReserves (p : UniswapV2Pair) (r0 r1 : U256) : UniswapV2Pair :=
  { p with reserve0 := r0, reserve1 := r1 }

/-! ## One call -/

/-- Everything a successful `simulateSwap` does. -/
theorem simulateSwap_cases {p q : UniswapV2Pair} {x : U256} {tok : Token}
    (h : p.simulateSwap x tok = .ok q) :
    ∃ out, p.getAmountOut x tok = .ok out ∧
      ∃ r0 r1, q = p.withReserves r0 r1 ∧
        ((tok.address = p.token0.address ∧ r0.toNat = p.reserve0.toNat + x.toNat ∧
            out.toNat ≤ p.reserve1.toNat ∧ r1.toNat = p.reserve1.toNat - out.toNat) ∨
          (tok.address ≠ p.token0.address ∧ tok.address = p.token1.address ∧
            r1.toNat = p.reserve1.toNat + x.toNat ∧
            out.toNat ≤ p.reserve0.toNat ∧ r0.toNat = p.reserve0.toNat - out.toNat)) := by
  unfold simulateSwap at h
  obtain ⟨out, hout, h⟩ := Outcome.bind_eq_ok.mp h
  refine ⟨out, hout, ?_⟩
  split at h
  · rename_i htok
    obtain ⟨r0, hr0, h⟩ := Outcome.bind_eq_ok.mp h
    obtain ⟨r1, hr1, h⟩ := Outcome.bind_eq_ok.mp h
    have hr0 := Word.checkedAdd_eq_some.mp (Outcome.okOr_eq_ok.mp hr0)
    obtain ⟨hle, hr1⟩ := Word.checkedSub_eq_some.mp (Outcome.okOr_eq_ok.mp hr1)
    cases h
    exact ⟨r0, r1, rfl, Or.inl ⟨htok, hr0, hle, hr1⟩⟩
  · rename_i hne
    split at h
    · rename_i htok
      obtain ⟨r1, hr1, h⟩ := Outcome.bind_eq_ok.mp h
      obtain ⟨r0, hr0, h⟩ := Outcome.bind_eq_ok.mp h
      have hr1 := Word.checkedAdd_eq_some.mp (Outcome.okOr_eq_ok.mp hr1)
      obtain ⟨hle, hr0⟩ := Word.checkedSub_eq_some.mp (Outcome.okOr_eq_ok.mp hr0)
      cases h
      exact ⟨r0, r1, rfl, Or.inr ⟨hne, htok, hr1, hle, hr0⟩⟩
    · cases h

/-- A quote leaves something of the reserve it is paid from. -/
theorem getAmountOut_lt {p : UniswapV2Pair} {tok : Token} {rin rout x y : U256}
    (hr : p.getReservesOrdered tok = .ok (rin, rout)) (hin : 0 < rin.toNat)
    (hout : 0 < rout.toNat) (h : p.getAmountOut x tok = .ok y) : y.toNat < rout.toNat := by
  rw [getAmountOut_quote hr hin h]
  exact quote_lt hin (by norm_num) hout

/-- The texts a quote can fail with. -/
def quoteErrors : List String :=
  ["Token not in pair", "Overflow calculating amount_in_with_fee",
    "Overflow calculating numerator", "Overflow calculating denominator base",
    "Overflow calculating denominator", "Denominator is zero"]

theorem getReservesOrdered_err {p : UniswapV2Pair} {tok : Token} {s : String}
    (h : p.getReservesOrdered tok = .err s) : s ∈ quoteErrors := by
  unfold getReservesOrdered at h
  split at h
  · cases h
  · split at h <;> cases h
    decide

theorem getAmountOut_err {p : UniswapV2Pair} {x : U256} {tok : Token} {s : String}
    (h : p.getAmountOut x tok = .err s) : s ∈ quoteErrors := by
  unfold getAmountOut at h
  rcases Outcome.bind_eq_err.mp h with h | ⟨⟨rin, rout⟩, _, h⟩
  · exact getReservesOrdered_err h
  · dsimp only at h
    split at h
    · cases h
    · rcases Outcome.bind_eq_err.mp h with h | ⟨f, _, h⟩
      · exfalso
        unfold feeMultiplier at h
        rcases Outcome.bind_eq_err.mp h with h | ⟨_, _, h⟩
        · exact Outcome.unwrap_ne_err h
        · cases h
      · rcases Outcome.bind_eq_err.mp h with h | ⟨a, _, h⟩
        · rw [← (Outcome.okOr_eq_err.mp h).2]
          decide
        rcases Outcome.bind_eq_err.mp h with h | ⟨n, _, h⟩
        · rw [← (Outcome.okOr_eq_err.mp h).2]
          decide
        rcases Outcome.bind_eq_err.mp h with h | ⟨b, _, h⟩
        · rw [← (Outcome.okOr_eq_err.mp h).2]
          decide
        rcases Outcome.bind_eq_err.mp h with h | ⟨d, _, h⟩
        · rw [← (Outcome.okOr_eq_err.mp h).2]
          decide
        split at h <;> cases h
        decide

/-- **The two `checked_sub` branches of `simulate_swap` are dead** on a pair with reserves. -/
theorem simulateSwap_not_underflow {p : UniswapV2Pair} (h0 : 0 < p.reserve0.toNat)
    (h1 : 0 < p.reserve1.toNat) (x : U256) (tok : Token) :
    p.simulateSwap x tok ≠ .err "Underflow subtracting reserve0" ∧
      p.simulateSwap x tok ≠ .err "Underflow subtracting reserve1" := by
  have hquote : ∀ {s : String}, p.simulateSwap x tok = .err s →
      s ∈ quoteErrors ∨ s = "Overflow adding reserve0" ∨ s = "Overflow adding reserve1" := by
    intro s h
    unfold simulateSwap at h
    rcases Outcome.bind_eq_err.mp h with h | ⟨out, hout, h⟩
    · exact Or.inl (getAmountOut_err h)
    obtain ⟨rin, rout, hr⟩ := getAmountOut_reserves hout
    rcases getReservesOrdered_cases hr with ⟨htok, rfl, rfl⟩ | ⟨hne, htok, rfl, rfl⟩
    · rw [if_pos htok] at h
      rcases Outcome.bind_eq_err.mp h with h | ⟨r0, _, h⟩
      · exact Or.inr (Or.inl (Outcome.okOr_eq_err.mp h).2.symm)
      · obtain ⟨r1, hr1, _⟩ := Word.checkedSub_of_le (getAmountOut_lt hr h0 h1 hout).le
        rw [hr1] at h
        cases h
    · rw [if_neg hne, if_pos htok] at h
      rcases Outcome.bind_eq_err.mp h with h | ⟨r1, _, h⟩
      · exact Or.inr (Or.inr (Outcome.okOr_eq_err.mp h).2.symm)
      · obtain ⟨r0, hr0, _⟩ := Word.checkedSub_of_le (getAmountOut_lt hr h1 h0 hout).le
        rw [hr0] at h
        cases h
  constructor
  · intro h
    exact absurd (hquote h) (by decide)
  · intro h
    exact absurd (hquote h) (by decide)

/-! ## The running account -/

/-- A pair and what one trader has taken out of it so far, net of what was paid in. -/
structure SwapAccount where
  pair : UniswapV2Pair
  take0 : ℤ
  take1 : ℤ

namespace SwapAccount

/-- One call of `simulate_swap` that returned `Ok`, entered in the account. -/
def swapStep (a : SwapAccount) (call : U256 × Token) : Option SwapAccount :=
  match a.pair.simulateSwap call.1 call.2, a.pair.getAmountOut call.1 call.2 with
  | .ok next, .ok out =>
      if call.2.address = a.pair.token0.address then
        some { pair := next, take0 := a.take0 - call.1.toNat, take1 := a.take1 + out.toNat }
      else
        some { pair := next, take0 := a.take0 + out.toNat, take1 := a.take1 - call.1.toNat }
  | _, _ => none

/-- The account before the first call. -/
def opened (p : UniswapV2Pair) : SwapAccount := { pair := p, take0 := 0, take1 := 0 }

/-- The product of the reserves, as an unbounded number. -/
def product (a : SwapAccount) : ℕ := a.pair.reserve0.toNat * a.pair.reserve1.toNat

/-- What holds of an account whose history began at `origin`. -/
structure Sound (origin : SwapAccount) (a : SwapAccount) : Prop where
  only_reserves : a.pair = origin.pair.withReserves a.pair.reserve0 a.pair.reserve1
  pos0 : 0 < a.pair.reserve0.toNat
  pos1 : 0 < a.pair.reserve1.toNat
  product_le : origin.product ≤ a.product
  balance0 : (a.pair.reserve0.toNat : ℤ) + a.take0 = origin.pair.reserve0.toNat + origin.take0
  balance1 : (a.pair.reserve1.toNat : ℤ) + a.take1 = origin.pair.reserve1.toNat + origin.take1

theorem Sound.refl {a : SwapAccount} (h0 : 0 < a.pair.reserve0.toNat)
    (h1 : 0 < a.pair.reserve1.toNat) : Sound a a :=
  ⟨rfl, h0, h1, le_refl _, rfl, rfl⟩

/-- What a call that moved the account did, in numbers. -/
theorem swapStep_cases {a b : SwapAccount} {call : U256 × Token}
    (h : a.swapStep call = some b) :
    a.pair.simulateSwap call.1 call.2 = .ok b.pair ∧
      ∃ out, a.pair.getAmountOut call.1 call.2 = .ok out ∧
        ((call.2.address = a.pair.token0.address ∧ b.take0 = a.take0 - call.1.toNat ∧
            b.take1 = a.take1 + out.toNat) ∨
          (call.2.address ≠ a.pair.token0.address ∧ b.take0 = a.take0 + out.toNat ∧
            b.take1 = a.take1 - call.1.toNat)) := by
  unfold swapStep at h
  split at h
  · rename_i next out hnext hout
    split at h
    · rename_i htok
      cases h
      exact ⟨hnext, out, hout, Or.inl ⟨htok, rfl, rfl⟩⟩
    · rename_i htok
      cases h
      exact ⟨hnext, out, hout, Or.inr ⟨htok, rfl, rfl⟩⟩
  · cases h

/-- Every call that returned `Ok` is a step, so `swapStep` leaves no call out. -/
theorem swapStep_of_simulateSwap {a : SwapAccount} {x : U256} {tok : Token} {q : UniswapV2Pair}
    (h : a.pair.simulateSwap x tok = .ok q) : ∃ b, a.swapStep (x, tok) = some b ∧ b.pair = q := by
  obtain ⟨out, hout, _⟩ := simulateSwap_cases h
  unfold swapStep
  rw [h, hout]
  dsimp only
  split
  · exact ⟨_, rfl, rfl⟩
  · exact ⟨_, rfl, rfl⟩

/-- **One call keeps the account sound.** The pair prices no more than it is paid, whatever
    the fee, so `product_le` applies in either direction. -/
theorem swapStep_keeps {origin a b : SwapAccount} {call : U256 × Token} (ha : Sound origin a)
    (h : a.swapStep call = some b) : Sound origin b := by
  obtain ⟨hsim, out, hout, htake⟩ := swapStep_cases h
  obtain ⟨out', hout', r0, r1, hb, hres⟩ := simulateSwap_cases hsim
  obtain rfl : out = out' := by
    rw [hout] at hout'
    exact Outcome.ok.inj hout'
  have hkept : a.pair.keptBps ≤ 10000 := Nat.sub_le _ _
  have honly : b.pair = origin.pair.withReserves b.pair.reserve0 b.pair.reserve1 := by
    rw [hb, ha.only_reserves]
    rfl
  have hb0 : b.pair.reserve0 = r0 := by rw [hb, withReserves]
  have hb1 : b.pair.reserve1 = r1 := by rw [hb, withReserves]
  have hprod : b.product = r0.toNat * r1.toNat := by rw [product, hb0, hb1]
  have h0 := ha.balance0
  have h1 := ha.balance1
  rcases hres with ⟨htok, hr0, hroom, hr1⟩ | ⟨hne, htok, hr1, hroom, hr0⟩
  · obtain ⟨_, ht0, ht1⟩ | ⟨hno, _⟩ := htake
    · have hr : a.pair.getReservesOrdered call.2 = .ok (a.pair.reserve0, a.pair.reserve1) := by
        simp [getReservesOrdered, htok]
      have hlt := getAmountOut_lt hr ha.pos0 ha.pos1 hout
      have hk := ConstantProduct.product_le call.1.toNat a.pair.reserve1.toNat
        ha.pos0 (show 0 < 10000 by norm_num) hkept
      rw [← getAmountOut_quote hr ha.pos0 hout] at hk
      refine ⟨honly, ?_, ?_, ?_, ?_, ?_⟩
      · have := ha.pos0
        rw [hb0]
        omega
      · rw [hb1]
        omega
      · rw [hprod, hr0, hr1]
        exact le_trans ha.product_le hk
      · rw [hb0, ht0]
        omega
      · rw [hb1, ht1]
        omega
    · exact absurd htok hno
  · obtain ⟨hyes, _⟩ | ⟨_, ht0, ht1⟩ := htake
    · exact absurd hyes hne
    · have hr : a.pair.getReservesOrdered call.2 = .ok (a.pair.reserve1, a.pair.reserve0) := by
        unfold getReservesOrdered
        rw [if_neg hne, if_pos htok]
      have hlt := getAmountOut_lt hr ha.pos1 ha.pos0 hout
      have hk := ConstantProduct.product_le call.1.toNat a.pair.reserve0.toNat
        ha.pos1 (show 0 < 10000 by norm_num) hkept
      rw [← getAmountOut_quote hr ha.pos1 hout] at hk
      refine ⟨honly, ?_, ?_, ?_, ?_, ?_⟩
      · rw [hb0]
        omega
      · have := ha.pos1
        rw [hb1]
        omega
      · have hk' : a.product ≤ r0.toNat * r1.toNat := by
          rw [hr0, hr1, product, Nat.mul_comm, Nat.mul_comm (_ - _)]
          exact hk
        rw [hprod]
        exact le_trans ha.product_le hk'
      · rw [hb0, ht0]
        omega
      · rw [hb1, ht1]
        omega

theorem swapStep_run_sound {origin a : SwapAccount} {calls : List (U256 × Token)}
    (h0 : 0 < origin.pair.reserve0.toNat) (h1 : 0 < origin.pair.reserve1.toNat)
    (run : Run swapStep origin calls a) : Sound origin a :=
  run.invariant (I := Sound origin) (fun ha _ h => swapStep_keeps ha h) (Sound.refl h0 h1)

/-- A sound account never has something for nothing. -/
theorem Sound.no_free_take {p : UniswapV2Pair} {a : SwapAccount} (h : Sound (opened p) a)
    (h0 : 0 < p.reserve0.toNat) (h1 : 0 < p.reserve1.toNat) :
    ¬ (0 ≤ a.take0 ∧ 0 ≤ a.take1 ∧ (0 < a.take0 ∨ 0 < a.take1)) := by
  rintro ⟨hnn0, hnn1, hpos⟩
  have hb0 := h.balance0
  have hb1 := h.balance1
  simp only [opened] at hb0 hb1
  obtain ⟨heq0, heq1⟩ := ConstantProduct.no_free_take h0 h1 h.product_le ⟨by omega, by omega⟩
  rcases hpos with hpos | hpos <;> omega

end SwapAccount

open SwapAccount in
/-- **Constant-product safety over runs.** Along any run of successful calls, in any mix of
    directions: between any two of its points the product does not fall; both reserves
    stay positive, so neither subtraction of a next call can underflow; nothing but the
    reserves has moved; and the trader is not ahead in one token without being behind in the
    other. -/
theorem swapRuns_safe (p : UniswapV2Pair) (h0 : 0 < p.reserve0.toNat)
    (h1 : 0 < p.reserve1.toNat) (before after : List (U256 × Token)) (mid fin : SwapAccount)
    (hmid : Run swapStep (opened p) before mid) (hfin : Run swapStep mid after fin) :
    mid.product ≤ fin.product ∧
      (0 < fin.pair.reserve0.toNat ∧ 0 < fin.pair.reserve1.toNat) ∧
      (∀ x tok, fin.pair.simulateSwap x tok ≠ .err "Underflow subtracting reserve0" ∧
        fin.pair.simulateSwap x tok ≠ .err "Underflow subtracting reserve1") ∧
      fin.pair = p.withReserves fin.pair.reserve0 fin.pair.reserve1 ∧
      ¬ (0 ≤ fin.take0 ∧ 0 ≤ fin.take1 ∧ (0 < fin.take0 ∨ 0 < fin.take1)) := by
  have hm : Sound (opened p) mid := swapStep_run_sound h0 h1 hmid
  have hf : Sound (opened p) fin := swapStep_run_sound h0 h1 (hmid.append hfin)
  have hmf : Sound mid fin := swapStep_run_sound hm.pos0 hm.pos1 hfin
  exact ⟨hmf.product_le, ⟨hf.pos0, hf.pos1⟩,
    fun x tok => simulateSwap_not_underflow hf.pos0 hf.pos1 x tok,
    hf.only_reserves, hf.no_free_take h0 h1⟩

open SwapAccount in
/-- A round trip: 100 of the first token buy 90 of the second, and those buy 98 back. The
    product is 1001000 half way and 1002000 at the end. -/
theorem samplePair_round_trip :
    ∃ mid fin : SwapAccount,
      mid.product = 1001000 ∧ fin.product = 1002000 ∧ mid.product ≤ fin.product ∧
        ¬ (0 ≤ fin.take0 ∧ 0 ≤ fin.take1 ∧ (0 < fin.take0 ∨ 0 < fin.take1)) := by
  have hmid : Run swapStep (opened (samplePair 1000#256 1000#256))
      [(100#256, (samplePair 1000#256 1000#256).token0)]
      { pair := samplePair 1100#256 910#256, take0 := -100, take1 := 90 } :=
    .single trivial rfl
  have hfin : Run swapStep { pair := samplePair 1100#256 910#256, take0 := -100, take1 := 90 }
      [(90#256, (samplePair 1000#256 1000#256).token1)]
      { pair := samplePair 1002#256 1000#256, take0 := -2, take1 := 0 } :=
    .single trivial rfl
  have hsafe := swapRuns_safe (samplePair 1000#256 1000#256) (by decide) (by decide) _ _ _ _
    hmid hfin
  exact ⟨_, _, rfl, rfl, hsafe.1, hsafe.2.2.2.2⟩

end UniswapV2Pair
end ArbEngine
