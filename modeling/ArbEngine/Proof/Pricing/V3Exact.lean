import ArbEngine.Proof.Pricing.V3Step

/-!
# What one swap step answers, in numbers

`computeSwapStep_cases` says what a step that succeeds has done. Here is the whole answer: where
prices are positive and below `2 ^ 160`, the step succeeds exactly where the numbers it makes
fit, and what it hands back are floors of those numbers (`computeSwapStep_eq_ok_iff`). A product
that overflows counts as zero, or as one in a denominator, and this is part of the answer.

The direction of the step decides which of the two amounts is computed with which rounding, and
whether the next price is a quotient or a sum. Both directions are said once each, with the terms
of the source, and the theorem puts the two branches together.
-/

namespace ArbEngine
namespace UniswapV3Pool

/-! ## The numbers -/

/-- A product of 256 bits; `d` stands in for one that overflows. -/
def fitOr (d product : ℕ) : ℕ := if product < 2 ^ 256 then product else d

/-- The amount of the first token between two prices, as the source computes it: both products can
    overflow, and so can the one below the line. -/
def amount0Of (liquidity diff start target : ℕ) : ℕ :=
  fitOr 0 (fitOr 0 (liquidity * diff) * 2 ^ 96) / fitOr 1 (start * target)

/-- The amount of the second token between two prices. One product, and a shift by the 96 places of
    a price. -/
def amount1Of (liquidity diff : ℕ) : ℕ := fitOr 0 (liquidity * diff) / 2 ^ 96

/-- What the whole way costs. On the way down it is paid in the first token, on the way up in the
    second. -/
def amountInOf (start target liquidity : ℕ) : ℕ :=
  if target ≤ start then amount0Of liquidity (start - target) start target
  else amount1Of liquidity (target - start)

/-- What the whole way pays, the other token of the two. -/
def amountOutOf (start target liquidity : ℕ) : ℕ :=
  if target ≤ start then amount1Of liquidity (start - target)
  else amount0Of liquidity (target - start) start target

/-- The price an input of `amount` stops at on its way down. -/
def priceBelow (start liquidity amount : ℕ) : ℕ :=
  liquidity * start * 2 ^ 96 / (liquidity * 2 ^ 96 + amount * start)

/-- How far an input of `amount` moves the price on its way up. -/
def movedBy (liquidity amount : ℕ) : ℕ := amount * 2 ^ 96 / liquidity

/-- **A step that stops short**: its products fit, and they are its price and its output. Here the
    source unwraps, so a product that overflows is a panic and not a zero. -/
def StopsAt (start target liquidity amount price out : ℕ) : Prop :=
  if target ≤ start then
    liquidity * start * 2 ^ 96 < 2 ^ 256 ∧ amount * start < 2 ^ 256 ∧
      liquidity * 2 ^ 96 + amount * start < 2 ^ 256 ∧
      price = priceBelow start liquidity amount ∧ out = liquidity * (start - price) / 2 ^ 96
  else
    liquidity * movedBy liquidity amount * 2 ^ 96 < 2 ^ 256 ∧
      start * (start + movedBy liquidity amount) < 2 ^ 256 ∧
      price = start + movedBy liquidity amount ∧
      out = liquidity * movedBy liquidity amount * 2 ^ 96 / (start * price)

section Numbers

variable {start target liquidity diff less : ℕ}

/-- A product that fits is itself. -/
theorem fitOr_of_lt {d product : ℕ} (h : product < 2 ^ 256) : fitOr d product = product := if_pos h

theorem fitOr_of_le {d product : ℕ} (h : 2 ^ 256 ≤ product) : fitOr d product = d :=
  if_neg (Nat.not_lt.mpr h)

/-- Where nothing overflows, the fraction of the amount between two prices. -/
theorem amount0Of_of_fits (hnum : liquidity * diff * 2 ^ 96 < 2 ^ 256)
    (hden : start * target < 2 ^ 256) :
    amount0Of liquidity diff start target = liquidity * diff * 2 ^ 96 / (start * target) := by
  unfold amount0Of
  have hmul : liquidity * diff < 2 ^ 256 := by omega
  rw [fitOr_of_lt hmul, fitOr_of_lt hnum, fitOr_of_lt hden]

/-- The same for the second token. -/
theorem amount1Of_of_fits (h : liquidity * diff < 2 ^ 256) :
    amount1Of liquidity diff = liquidity * diff / 2 ^ 96 := by
  unfold amount1Of
  rw [fitOr_of_lt h]

/-- Where its product leaves 256 bits the amount is zero. -/
theorem amount0Of_of_large (large : 2 ^ 160 ≤ liquidity * diff) :
    amount0Of liquidity diff start target = 0 := by
  -- One of the two products above the line overflows: the inner one, or the one with `2 ^ 96`.
  have none : fitOr 0 (fitOr 0 (liquidity * diff) * 2 ^ 96) = 0 := by
    unfold fitOr
    split
    · exact if_neg (by omega)
    · rfl
  unfold amount0Of
  rw [none, Nat.zero_div]

/-- Where the product of the prices does, nothing is divided. -/
theorem amount0Of_undivided (small : liquidity * diff < 2 ^ 160)
    (large : 2 ^ 256 ≤ start * target) :
    amount0Of liquidity diff start target = liquidity * diff * 2 ^ 96 := by
  have hmul : liquidity * diff < 2 ^ 256 := by omega
  have hnum : liquidity * diff * 2 ^ 96 < 2 ^ 256 := by omega
  unfold amount0Of
  rw [fitOr_of_lt hmul, fitOr_of_lt hnum, fitOr_of_le large, Nat.div_one]

/-- Without liquidity the whole way is free, and no step stops short of it. -/
theorem liquidity_pos (short : less < amountInOf start target liquidity) : 0 < liquidity := by
  apply Nat.pos_of_ne_zero
  rintro rfl
  simp [amountInOf, amount0Of, amount1Of, fitOr] at short

end Numbers

/-! ## Words -/

/-- A word of 256 bits becomes one of 128 where its value does. -/
theorem toU128_eq_ok_iff {x : U256} {y : U128} : toU128 x = .ok y ↔ y.toNat = x.toNat := by
  constructor
  · exact toU128_eq_ok
  · intro h
    have fits : x.toNat < 2 ^ 128 := h ▸ y.isLt
    unfold toU128
    rw [if_pos fits, Outcome.ok.injEq]
    apply BitVec.eq_of_toNat_eq
    rw [BitVec.toNat_setWidth, Nat.mod_eq_of_lt fits, h]

/-- A quotient of words answers where it divides by something. -/
theorem wordDiv_eq_ok_iff {w : ℕ} {a b x : BitVec w} :
    wordDiv a b = .ok x ↔ 0 < b.toNat ∧ x.toNat = a.toNat / b.toNat := by
  unfold wordDiv
  by_cases hb : b = 0#w
  · simp [hb]
  · have pos : 0 < b.toNat := by
      apply Nat.pos_of_ne_zero
      intro h
      exact hb (BitVec.eq_of_toNat_eq (by rw [h]; rfl))
    rw [if_neg hb, Outcome.ok.injEq, ← BitVec.toNat_inj, BitVec.toNat_udiv, and_iff_right pos]
    exact eq_comm

theorem toNat_q96 : q96.toNat = 2 ^ 96 := by decide

/-- The gap between two prices, taken from the upper one. -/
theorem toNat_gap {hi lo : U256} (h : lo.toNat ≤ hi.toNat) :
    (gap hi lo).toNat = hi.toNat - lo.toNat := by
  obtain ⟨c, hc, value⟩ := Word.checkedSub_of_le h
  unfold gap
  rw [hc, Option.getD_some, value]

theorem toNat_liquidity (liquidity : U128) : (liquidity.setWidth 256).toNat = liquidity.toNat :=
  BitVec.toNat_setWidth_of_le (by norm_num)

/-- What `checked_mul(..).unwrap_or(d)` is in numbers. -/
theorem toNat_fitOr (a b d : U256) :
    ((Word.checkedMul a b).getD d).toNat = fitOr d.toNat (a.toNat * b.toNat) :=
  Word.toNat_getD_checkedMul a b d

/-- The input less its fee. The product is of 128 bits, and this is what an input that is too large
    fails at. -/
theorem lessFee_eq_ok_iff {r a : U128} {fee : U32} (hfee : fee.toNat ≤ 1000000) :
    lessFee r fee = .ok a ↔
      r.toNat * (1000000 - fee.toNat) < 2 ^ 128 ∧ a.toNat = lessFeeOf fee r.toNat := by
  constructor
  · intro h
    exact (lessFee_eq_ok h).2
  · rintro ⟨fits, value⟩
    obtain ⟨a', ha'⟩ := lessFee_of_lt hfee fits
    rw [ha', Outcome.ok.injEq]
    apply BitVec.eq_of_toNat_eq
    rw [(lessFee_eq_ok ha').2.2, value]

/-! ## Amounts -/

section Amounts

variable {liquidity diff start target x : U256}

/-- What stands below the line is not zero: a product of prices is positive, and one stands in for
    it. -/
theorem fitOr_one_pos {a b : ℕ} (ha : 0 < a) (hb : 0 < b) : 0 < fitOr 1 (a * b) := by
  unfold fitOr
  split
  · exact Nat.mul_pos ha hb
  · exact Nat.one_pos

/-- The amount of the first token always answers. -/
theorem amount0Between_eq_ok_iff (hs : 0 < start.toNat) (ht : 0 < target.toNat) :
    amount0Between liquidity diff start target = .ok x ↔
      x.toNat = amount0Of liquidity.toNat diff.toNat start.toNat target.toNat := by
  show wordDiv _ _ = .ok x ↔ _
  rw [wordDiv_eq_ok_iff, toNat_fitOr, toNat_fitOr, toNat_fitOr, toNat_q96]
  exact and_iff_right (fitOr_one_pos hs ht)

/-- And so does that of the second. -/
theorem amount1Between_eq_ok_iff :
    amount1Between liquidity diff = .ok x ↔ x.toNat = amount1Of liquidity.toNat diff.toNat := by
  show wordDiv _ _ = .ok x ↔ _
  rw [wordDiv_eq_ok_iff, toNat_fitOr, toNat_q96]
  exact and_iff_right (by norm_num)

/-- What a whole way costs, in words. -/
theorem amountInMax_eq_ok_iff (hs : 0 < start.toNat) (ht : 0 < target.toNat) :
    amountInMax start target liquidity = .ok x ↔
      x.toNat = amountInOf start.toNat target.toNat liquidity.toNat := by
  unfold amountInMax amountInOf
  simp only [BitVec.le_def]
  split
  · rename_i down
    rw [amount0Between_eq_ok_iff hs ht, toNat_gap down]
  · rename_i up
    rw [amount1Between_eq_ok_iff, toNat_gap (Nat.le_of_not_le up)]

/-- What it pays. -/
theorem amountOutMax_eq_ok_iff (hs : 0 < start.toNat) (ht : 0 < target.toNat) :
    amountOutMax start target liquidity = .ok x ↔
      x.toNat = amountOutOf start.toNat target.toNat liquidity.toNat := by
  unfold amountOutMax amountOutOf
  simp only [BitVec.le_def]
  split
  · rename_i down
    rw [amount1Between_eq_ok_iff, toNat_gap down]
  · rename_i up
    rw [amount0Between_eq_ok_iff hs ht, toNat_gap (Nat.le_of_not_le up)]

/-! ## Stopping short -/

/-- The price a step down stops at. Three things can overflow on the way to it, and each of them is
    a panic. -/
theorem sqrtPNext_down_eq_ok_iff {amount : U256} (hL : 0 < liquidity.toNat)
    (hL128 : liquidity.toNat < 2 ^ 128) :
    sqrtPNext true start liquidity amount = .ok x ↔
      liquidity.toNat * start.toNat * 2 ^ 96 < 2 ^ 256 ∧ amount.toNat * start.toNat < 2 ^ 256 ∧
        liquidity.toNat * 2 ^ 96 + amount.toNat * start.toNat < 2 ^ 256 ∧
        x.toNat = priceBelow start.toNat liquidity.toNat amount.toNat := by
  unfold sqrtPNext priceBelow
  rw [if_pos rfl]
  simp only [Outcome.bind_eq_ok, Outcome.unwrap_eq_ok, Word.checkedMul_eq_some,
    Word.checkedAdd_eq_some, wordDiv_eq_ok_iff, toNat_q96]
  constructor
  · rintro ⟨a, ha, num, hnum, b, hb, c, hc, den, hden, -, hx⟩
    rw [ha] at hnum
    rw [hb, hc] at hden
    refine ⟨hnum ▸ num.isLt, hc ▸ c.isLt, hden ▸ den.isLt, ?_⟩
    rw [hx, hnum, hden]
  · rintro ⟨hnum, hc, hden, hx⟩
    -- The product without the price always fits: a liquidity has 128 bits.
    have room : liquidity.toNat * 2 ^ 96 < 2 ^ 256 :=
      calc liquidity.toNat * 2 ^ 96 < 2 ^ 128 * 2 ^ 96 :=
            (Nat.mul_lt_mul_right (by norm_num)).mpr hL128
        _ ≤ 2 ^ 256 := by norm_num
    obtain ⟨a, ha⟩ := Word.exists_toNat_eq (w := 256) (n := liquidity.toNat * start.toNat)
      (by omega)
    obtain ⟨num, hnum⟩ := Word.exists_toNat_eq hnum
    obtain ⟨b, hb⟩ := Word.exists_toNat_eq room
    obtain ⟨c, hc⟩ := Word.exists_toNat_eq hc
    obtain ⟨den, hden⟩ := Word.exists_toNat_eq hden
    refine ⟨a, ha, num, by rw [ha, hnum], b, hb, c, hc, den, by rw [hb, hc, hden], ?_, ?_⟩
    · rw [hden]
      omega
    · rw [hx, hnum, hden]

/-- On its way up nothing can: an amount of 128 bits has room for 96 more, and the price is a sum.
    -/
theorem sqrtPNext_up_eq_ok_iff {amount : U256} (hL : 0 < liquidity.toNat)
    (hs : start.toNat < 2 ^ 160) (ha : amount.toNat < 2 ^ 128) :
    sqrtPNext false start liquidity amount = .ok x ↔
      x.toNat = start.toNat + movedBy liquidity.toNat amount.toNat := by
  obtain ⟨a, hav⟩ := Word.exists_toNat_eq (w := 256) (n := amount.toNat * 2 ^ 96) (by omega)
  have product : Word.checkedMul amount q96 = some a :=
    Word.checkedMul_eq_some.mpr (by rw [toNat_q96, hav])
  obtain ⟨moved, hmoved⟩ : ∃ moved, wordDiv a liquidity = .ok moved := by
    refine ⟨a / liquidity, wordDiv_eq_ok_iff.mpr ⟨hL, BitVec.toNat_udiv⟩⟩
  have value : moved.toNat = movedBy liquidity.toNat amount.toNat := by
    rw [(wordDiv_eq_ok_iff.mp hmoved).2, hav]
    rfl
  have small : movedBy liquidity.toNat amount.toNat < 2 ^ 224 := by
    apply lt_of_le_of_lt (Nat.div_le_self _ _)
    omega
  unfold sqrtPNext
  rw [if_neg (by decide), product, Outcome.unwrap_some, Outcome.ok_bind, hmoved, Outcome.ok_bind,
    Outcome.pure_eq_ok, Outcome.ok.injEq, ← BitVec.toNat_inj, BitVec.toNat_add, value,
    Nat.mod_eq_of_lt (by omega)]
  exact eq_comm

/-- What a step down pays to where it stops. -/
theorem amountOutTo_down_eq_ok_iff {next : U256} (hle : next.toNat ≤ start.toNat)
    (fits : liquidity.toNat * start.toNat < 2 ^ 256) :
    amountOutTo true start next liquidity = .ok x ↔
      x.toNat = liquidity.toNat * (start.toNat - next.toNat) / 2 ^ 96 := by
  obtain ⟨diff, hdiff, hdv⟩ := Word.checkedSub_of_le hle
  have le : liquidity.toNat * diff.toNat ≤ liquidity.toNat * start.toNat :=
    Nat.mul_le_mul_left _ (by omega)
  obtain ⟨num, hnum, hnv⟩ := Word.checkedMul_of_lt (lt_of_le_of_lt le fits)
  unfold amountOutTo
  rw [if_pos rfl, hdiff, Outcome.unwrap_some, Outcome.ok_bind, hnum, Outcome.unwrap_some,
    Outcome.ok_bind, wordDiv_eq_ok_iff, hnv, hdv, toNat_q96]
  exact and_iff_right (by norm_num)

/-- What a step up pays. It is a fraction, and both of its products can overflow. -/
theorem amountOutTo_up_eq_ok_iff {next : U256} {moved : ℕ} (hs : 0 < start.toNat)
    (hnext : next.toNat = start.toNat + moved) :
    amountOutTo false start next liquidity = .ok x ↔
      liquidity.toNat * moved * 2 ^ 96 < 2 ^ 256 ∧ start.toNat * next.toNat < 2 ^ 256 ∧
        x.toNat = liquidity.toNat * moved * 2 ^ 96 / (start.toNat * next.toNat) := by
  obtain ⟨diff, hdiff, hdv⟩ := Word.checkedSub_of_le (a := next) (b := start) (by omega)
  have hmoved : diff.toNat = moved := by omega
  unfold amountOutTo
  rw [if_neg (by decide), hdiff, Outcome.unwrap_some, Outcome.ok_bind]
  simp only [Outcome.bind_eq_ok, Outcome.unwrap_eq_ok, Word.checkedMul_eq_some,
    wordDiv_eq_ok_iff, toNat_q96, hmoved]
  constructor
  · rintro ⟨a, ha, num, hnum, den, hden, -, hx⟩
    rw [ha] at hnum
    refine ⟨hnum ▸ num.isLt, hden ▸ den.isLt, ?_⟩
    rw [hx, hnum, hden]
  · rintro ⟨hnum, hden, hx⟩
    obtain ⟨a, ha⟩ := Word.exists_toNat_eq (w := 256) (n := liquidity.toNat * moved) (by omega)
    obtain ⟨num, hnum⟩ := Word.exists_toNat_eq hnum
    obtain ⟨den, hden⟩ := Word.exists_toNat_eq hden
    refine ⟨a, ha, num, by rw [ha, hnum], den, hden, ?_, by rw [hx, hnum, hden]⟩
    rw [hden]
    exact Nat.mul_pos hs (by omega)

/-- An input only ever lowers the price. -/
theorem priceBelow_le {start liquidity amount : ℕ} : priceBelow start liquidity amount ≤ start := by
  apply Nat.div_le_of_le_mul
  calc liquidity * start * 2 ^ 96 = liquidity * 2 ^ 96 * start := by ring
    _ ≤ (liquidity * 2 ^ 96 + amount * start) * start := Nat.mul_le_mul_right _ (by omega)

/-- On its way down an input that is not enough buys no more than the whole way. -/
theorem target_mul_le {start target liquidity amount : ℕ} (down : target ≤ start)
    (short : amount < liquidity * (start - target) * 2 ^ 96 / (start * target)) :
    target * (liquidity * 2 ^ 96 + amount * start) ≤ liquidity * start * 2 ^ 96 := by
  obtain ⟨diff, rfl⟩ := Nat.exists_eq_add_of_le down
  rw [Nat.add_sub_cancel_left] at short
  have cost : amount * ((target + diff) * target) ≤ liquidity * diff * 2 ^ 96 :=
    (Nat.mul_le_mul_right _ short.le).trans (Nat.div_mul_le_self _ _)
  calc target * (liquidity * 2 ^ 96 + amount * (target + diff))
      = liquidity * target * 2 ^ 96 + amount * ((target + diff) * target) := by ring
    _ ≤ liquidity * target * 2 ^ 96 + liquidity * diff * 2 ^ 96 := Nat.add_le_add_left cost _
    _ = liquidity * (target + diff) * 2 ^ 96 := by ring

/-- Such a step stops at the target or above. -/
theorem target_le_priceBelow {start target liquidity less : ℕ} (down : target ≤ start)
    (hL : 0 < liquidity)
    (short : less < liquidity * (start - target) * 2 ^ 96 / (start * target)) :
    target ≤ priceBelow start liquidity less := by
  unfold priceBelow
  rw [Nat.le_div_iff_mul_le (Nat.add_pos_left (Nat.mul_pos hL (by norm_num)) _)]
  exact target_mul_le down short

/-- On its way up an input that is not enough stops at the target or below. -/
theorem movedBy_le {diff liquidity amount : ℕ} (short : amount < liquidity * diff / 2 ^ 96) :
    movedBy liquidity amount ≤ diff := by
  apply Nat.div_le_of_le_mul
  exact (Nat.mul_le_mul_right _ short.le).trans (Nat.div_mul_le_self _ _)

/-- **A step that does not reach its target** answers where its products fit. -/
theorem stopsAt_iff {amount price out : U256} (hL : 0 < liquidity.toNat)
    (hL128 : liquidity.toNat < 2 ^ 128) (hs : 0 < start.toNat) (hs160 : start.toNat < 2 ^ 160)
    (ha : amount.toNat < 2 ^ 128) :
    (sqrtPNext (target ≤ start) start liquidity amount = .ok price ∧
      amountOutTo (target ≤ start) start price liquidity = .ok out) ↔
      StopsAt start.toNat target.toNat liquidity.toNat amount.toNat price.toNat out.toNat := by
  unfold StopsAt
  by_cases down : target.toNat ≤ start.toNat
  · rw [if_pos down, decide_eq_true (BitVec.le_def.mpr down), sqrtPNext_down_eq_ok_iff hL hL128]
    constructor
    · rintro ⟨⟨hnum, hc, hden, hprice⟩, hout⟩
      rw [amountOutTo_down_eq_ok_iff (hprice ▸ priceBelow_le) (by omega)] at hout
      exact ⟨hnum, hc, hden, hprice, hout⟩
    · rintro ⟨hnum, hc, hden, hprice, hout⟩
      refine ⟨⟨hnum, hc, hden, hprice⟩, ?_⟩
      rw [amountOutTo_down_eq_ok_iff (hprice ▸ priceBelow_le) (by omega)]
      exact hout
  · rw [if_neg down, decide_eq_false (fun h => down (BitVec.le_def.mp h)),
      sqrtPNext_up_eq_ok_iff hL hs160 ha]
    constructor
    · rintro ⟨hprice, hout⟩
      obtain ⟨hnum, hden, hout⟩ := (amountOutTo_up_eq_ok_iff hs hprice).mp hout
      exact ⟨hnum, hprice ▸ hden, hprice, hout⟩
    · rintro ⟨hnum, hden, hprice, hout⟩
      exact ⟨hprice, (amountOutTo_up_eq_ok_iff hs hprice).mpr ⟨hnum, hprice.symm ▸ hden, hout⟩⟩

end Amounts

/-! ## The whole step -/

/-- Two prices of the range a V3 price has room in. Being positive is what the divisions need, and
    the 160 bits keep the sums from overflowing. -/
structure Segment (start target : ℕ) : Prop where
  start_pos : 0 < start
  start_lt : start < 2 ^ 160
  target_pos : 0 < target
  target_lt : target < 2 ^ 160

/-- What a step that reaches its target answers. The fee is rounded up from the amount that was
    paid, as the source has it. -/
structure Reaches (start target liquidity less fee price paid out kept : ℕ) : Prop where
  enough : amountInOf start target liquidity ≤ less
  fee_fits : amountInOf start target liquidity * fee < 2 ^ 128
  price_eq : price = target
  paid_eq : paid = amountInOf start target liquidity
  out_eq : out = amountOutOf start target liquidity
  kept_eq : kept = (amountInOf start target liquidity * fee) ⌈/⌉ 1000000

/-- What a step that stops short answers. All that is left of the input is kept as its fee. -/
structure Stops (start target liquidity remaining less price paid out kept : ℕ) : Prop where
  short : less < amountInOf start target liquidity
  stops : StopsAt start target liquidity less price out
  paid_eq : paid = less
  kept_eq : kept = remaining - less

/-- A fee takes nothing that is not there. -/
theorem lessFeeOf_le (fee : U32) (amount : ℕ) : lessFeeOf fee amount ≤ amount := by
  apply Nat.div_le_of_le_mul
  rw [Nat.mul_comm 1000000]
  exact Nat.mul_le_mul_left _ (Nat.sub_le _ _)

section Step

variable {start target price : U256} {liquidity inMax paid out kept : U128} {fee : U32}

/-- The branch of a step that reaches its target, with its answer in numbers. -/
theorem reached_eq_ok_iff (segment : Segment start.toNat target.toNat)
    (hc : inMax.toNat = amountInOf start.toNat target.toNat liquidity.toNat)
    {less : ℕ} (enough : inMax.toNat ≤ less) :
    (do
      let amountOut ← amountOutMax start target (liquidity.setWidth 256)
      let product ← Outcome.unwrap (Word.checkedMul inMax (fee.setWidth 128))
      let amountOut ← toU128 amountOut
      return (target, inMax, amountOut, divCeil product 1000000#128)) =
      Outcome.ok (price, paid, out, kept) ↔
    Reaches start.toNat target.toNat liquidity.toNat less fee.toNat price.toNat paid.toNat
      out.toNat kept.toNat := by
  simp only [Outcome.bind_eq_ok, amountOutMax_eq_ok_iff segment.start_pos segment.target_pos,
    Outcome.unwrap_eq_ok, Word.checkedMul_eq_some, toU128_eq_ok_iff, Outcome.pure_eq_ok,
    Outcome.ok.injEq, Prod.mk.injEq, toNat_fee, toNat_liquidity]
  constructor
  · rintro ⟨o, ho, product, hproduct, o', ho', rfl, rfl, rfl, rfl⟩
    rw [hc] at enough hproduct
    refine ⟨enough, hproduct ▸ product.isLt, rfl, hc, by rw [ho', ho], ?_⟩
    rw [toNat_divCeil, hproduct]
  · rintro ⟨-, fits, hprice, hpaid, hout, hkept⟩
    obtain ⟨product, hproduct⟩ := Word.exists_toNat_eq fits
    refine ⟨out.setWidth 256, ?_, product, by rw [hproduct, hc], out, ?_, ?_, ?_, rfl, ?_⟩
    · rw [toNat_liquidity, hout]
    · rw [toNat_liquidity]
    · exact BitVec.eq_of_toNat_eq hprice.symm
    · exact BitVec.eq_of_toNat_eq (by rw [hc, hpaid])
    · apply BitVec.eq_of_toNat_eq
      rw [toNat_divCeil, hproduct, hkept]

/-- The other branch. It is the only one that asks for a price. -/
theorem stopped_eq_ok_iff {less : U128} {remaining : U128}
    (segment : Segment start.toNat target.toNat)
    (short : less.toNat < amountInOf start.toNat target.toNat liquidity.toNat)
    (hle : less.toNat ≤ remaining.toNat) :
    (do
      let next ← sqrtPNext (target ≤ start) start (liquidity.setWidth 256) (less.setWidth 256)
      let amountOut ← amountOutTo (target ≤ start) start next (liquidity.setWidth 256)
      let amountOut ← toU128 amountOut
      let feeAmount ← Outcome.unwrap (Word.checkedSub remaining less)
      return (next, less, amountOut, feeAmount)) = Outcome.ok (price, paid, out, kept) ↔
    Stops start.toNat target.toNat liquidity.toNat remaining.toNat less.toNat price.toNat
      paid.toNat out.toNat kept.toNat := by
  have hL : 0 < (liquidity.setWidth 256).toNat := by
    rw [toNat_liquidity]
    exact liquidity_pos short
  have stops (price out : U256) :
      (sqrtPNext (target ≤ start) start (liquidity.setWidth 256) (less.setWidth 256) =
        .ok price ∧
        amountOutTo (target ≤ start) start price (liquidity.setWidth 256) = .ok out) ↔ _ :=
    stopsAt_iff hL (by rw [toNat_liquidity]; exact liquidity.isLt) segment.start_pos
      segment.start_lt (by rw [toNat_liquidity]; exact less.isLt)
  simp only [toNat_liquidity] at stops
  simp only [Outcome.bind_eq_ok, Outcome.unwrap_eq_ok, Word.checkedSub_eq_some,
    toU128_eq_ok_iff, Outcome.pure_eq_ok, Outcome.ok.injEq, Prod.mk.injEq]
  constructor
  · rintro ⟨next, hnext, o, ho, o', ho', f, ⟨-, hf⟩, rfl, rfl, rfl, rfl⟩
    refine ⟨short, ?_, rfl, hf⟩
    rw [ho']
    exact (stops next o).mp ⟨hnext, ho⟩
  · rintro ⟨-, hstops, hpaid, hkept⟩
    rw [← toNat_liquidity out] at hstops
    obtain ⟨hnext, hout⟩ := (stops price (out.setWidth 256)).mpr hstops
    refine ⟨price, hnext, out.setWidth 256, hout, out, ?_, kept, ⟨hle, hkept⟩, rfl, ?_, rfl, rfl⟩
    · rw [toNat_liquidity]
    · exact BitVec.eq_of_toNat_eq hpaid.symm

/-- **The answer of a step**, where it has one. The input less its fee decides between the two
    branches, and each branch has one answer, so the step is a function of its numbers. -/
theorem computeSwapStep_eq_ok_iff {remaining : ℤ} (segment : Segment start.toNat target.toNat)
    (h0 : 0 ≤ remaining) (hlt : remaining < 2 ^ 127) (hfee : fee.toNat ≤ 1000000) :
    computeSwapStep start target liquidity remaining fee = .ok (price, paid, out, kept) ↔
      remaining.toNat * (1000000 - fee.toNat) < 2 ^ 128 ∧
        amountInOf start.toNat target.toNat liquidity.toNat < 2 ^ 128 ∧
        (Reaches start.toNat target.toNat liquidity.toNat (lessFeeOf fee remaining.toNat)
            fee.toNat price.toNat paid.toNat out.toNat kept.toNat ∨
          Stops start.toNat target.toNat liquidity.toNat remaining.toNat
            (lessFeeOf fee remaining.toNat) price.toNat paid.toNat out.toNat kept.toNat) := by
  have hrem := toNat_ofInt h0 hlt
  unfold computeSwapStep
  simp only [Outcome.bind_eq_ok, lessFee_eq_ok_iff hfee, hrem, toNat_liquidity,
    amountInMax_eq_ok_iff segment.start_pos segment.target_pos, toU128_eq_ok_iff]
  constructor
  · rintro ⟨less, ⟨hfits, hless⟩, c, hc, inMax, hin, h⟩
    rw [hc] at hin
    refine ⟨hfits, hin ▸ inMax.isLt, ?_⟩
    rw [← hless]
    split at h
    · rename_i enough
      exact .inl ((reached_eq_ok_iff segment hin (BitVec.le_def.mp enough)).mp h)
    · rename_i short
      rw [BitVec.le_def, Nat.not_le, hin] at short
      -- The subtraction that gives the fee cannot fail.
      have hle : less.toNat ≤ (BitVec.ofInt 128 remaining).toNat := by
        rw [hless, hrem]
        exact lessFeeOf_le _ _
      rw [← hrem]
      exact .inr ((stopped_eq_ok_iff segment short hle).mp h)
  · rintro ⟨hfits, hin, h⟩
    obtain ⟨less, hless⟩ := Word.exists_toNat_eq (w := 128)
      (lt_of_le_of_lt (lessFeeOf_le fee remaining.toNat) (by omega))
    obtain ⟨inMax, hin⟩ := Word.exists_toNat_eq hin
    refine ⟨less, ⟨hfits, hless⟩, inMax.setWidth 256, by rw [toNat_liquidity, hin], inMax,
      by rw [toNat_liquidity], ?_⟩
    rw [← hless] at h
    rcases h with reaches | stops
    · have enough : inMax ≤ less := by
        rw [BitVec.le_def, hin]
        exact reaches.enough
      rw [if_pos enough]
      exact (reached_eq_ok_iff segment hin (BitVec.le_def.mp enough)).mpr reaches
    · have short : ¬ inMax ≤ less := by
        rw [BitVec.le_def, hin, Nat.not_le]
        exact stops.short
      have hle : less.toNat ≤ (BitVec.ofInt 128 remaining).toNat := by
        rw [hless, hrem]
        exact lessFeeOf_le _ _
      rw [if_neg short]
      rw [← hrem] at stops
      exact (stopped_eq_ok_iff segment stops.short hle).mpr stops

end Step

end UniswapV3Pool
end ArbEngine
