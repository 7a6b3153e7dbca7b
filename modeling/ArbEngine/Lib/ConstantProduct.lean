import Mathlib.Algebra.Order.Floor.Div
import Mathlib.Tactic.Linarith
import Mathlib.Tactic.Ring

/-!
# Constant-product markets

A market holds `rin` of one good and `rout` of another and sells `rout` for `rin` along
`rin * rout = const`, keeping a fee: of every `s` units paid in, `m` are priced. Everything
is over the natural numbers and every quotient is floored, because that is the arithmetic
such markets run on; the rounding is where the content of the lemmas is.

* `le_quote_iff` and `le_quote_iff_leastIn_le` read a quote as a Galois connection: the
  quote reaches `y` from the input `leastIn y` on, and from no smaller one.
* `quote_mul_lt` compares a quote with the ratio of the reserves; that a round trip against one
  pair of reserves does not pay (`quote_quote_le`) is a consequence.
* `quote_mono` says which way a quote moves with each of its arguments, and
  `quote_add_quote_le` that a trade made in two parts pays no more than the whole.
* `product_le` is the one-swap inequality, floor and fee included.
* `no_free_take` is the run-level consequence, and needs nothing about quotes: along any
  path that never lowers the product, one reserve can only be drained by filling the other.
-/

namespace ConstantProduct

variable {m s x y rin rout : ℕ}

/-- What the market pays out for `x` units in. -/
def quote (m s x rin rout : ℕ) : ℕ := x * m * rout / (rin * s + x * m)

/-- The least input whose quote reaches `y`. -/
def leastIn (m s y rin rout : ℕ) : ℕ := (rin * y * s) ⌈/⌉ (m * (rout - y))

/-! ## Quotes -/

/-- A quote reaches `y` exactly when the priced input covers what `y` costs. -/
theorem le_quote_iff (hin : 0 < rin) (hs : 0 < s) (hy : y ≤ rout) :
    y ≤ quote m s x rin rout ↔ rin * y * s ≤ x * m * (rout - y) := by
  have hden : 0 < rin * s + x * m := Nat.add_pos_left (Nat.mul_pos hin hs) _
  obtain ⟨d, rfl⟩ := Nat.exists_eq_add_of_le hy
  rw [quote, Nat.le_div_iff_mul_le hden, Nat.add_sub_cancel_left]
  constructor <;> intro h <;> nlinarith

/-- **The quote and `leastIn` are a Galois connection**, below the reserve. -/
theorem le_quote_iff_leastIn_le (hin : 0 < rin) (hs : 0 < s) (hm : 0 < m) (hy : y < rout) :
    y ≤ quote m s x rin rout ↔ leastIn m s y rin rout ≤ x := by
  have hpos : 0 < m * (rout - y) := Nat.mul_pos hm (Nat.sub_pos_of_lt hy)
  rw [le_quote_iff hin hs hy.le, leastIn, ceilDiv_le_iff_le_mul hpos]
  constructor <;> intro h <;> nlinarith

/-- The market never sells its whole reserve. -/
theorem quote_lt (hin : 0 < rin) (hs : 0 < s) (hout : 0 < rout) :
    quote m s x rin rout < rout := by
  have hden : 0 < rin * s := Nat.mul_pos hin hs
  rw [quote, Nat.div_lt_iff_lt_mul (Nat.add_pos_left hden _)]
  nlinarith [Nat.mul_pos hout hden]

/-- **The market pays less than its spot price**: what it pays for `x`, at the ratio of its
    reserves, is worth less than `x`. -/
theorem quote_mul_lt (hin : 0 < rin) (hs : 0 < s) (hms : m ≤ s) (hout : 0 < rout)
    (hq : 0 < quote m s x rin rout) : quote m s x rin rout * rin < x * rout := by
  generalize hy : quote m s x rin rout = y at hq
  have hlt : y < rout := hy ▸ quote_lt hin hs hout
  have hle : rin * y * s ≤ x * m * (rout - y) := (le_quote_iff hin hs hlt.le).mp hy.ge
  have hx : 0 < x := by
    rw [Nat.pos_iff_ne_zero]
    rintro rfl
    rw [Nat.zero_mul, Nat.zero_mul, Nat.le_zero] at hle
    exact absurd hle (Nat.mul_pos (Nat.mul_pos hin hq) hs).ne'
  have hkept : x * m * (rout - y) ≤ x * s * (rout - y) :=
    Nat.mul_le_mul_right _ (Nat.mul_le_mul_left _ hms)
  have hless : x * s * (rout - y) < x * s * rout :=
    Nat.mul_lt_mul_of_pos_left (Nat.sub_lt hout hq) (Nat.mul_pos hx hs)
  have hall : y * rin * s < x * rout * s := by
    calc y * rin * s = rin * y * s := by ring
      _ ≤ x * m * (rout - y) := hle
      _ ≤ x * s * (rout - y) := hkept
      _ < x * s * rout := hless
      _ = x * rout * s := by ring
  exact Nat.lt_of_mul_lt_mul_right hall

theorem quote_le (hin : 0 < rin) (hs : 0 < s) : quote m s x rin rout ≤ rout := by
  rcases Nat.eq_zero_or_pos rout with rfl | hout
  · simp [quote]
  · exact (quote_lt hin hs hout).le

/-- What a quote costs, at the reserves it leaves. -/
theorem quote_paid (m x rout : ℕ) (hin : 0 < rin) (hs : 0 < s) :
    rin * quote m s x rin rout * s ≤ x * m * (rout - quote m s x rin rout) :=
  (le_quote_iff hin hs (quote_le hin hs)).mp le_rfl

/-- The unit in which the fee is counted does not matter. -/
theorem quote_scale {k : ℕ} (hk : 0 < k) :
    quote (k * m) (k * s) x rin rout = quote m s x rin rout := by
  have hnum : x * (k * m) * rout = k * (x * m * rout) := by ring
  have hden : rin * (k * s) + x * (k * m) = k * (rin * s + x * m) := by ring
  rw [quote, quote, hnum, hden, Nat.mul_div_mul_left _ _ hk]

/-- **A quote grows with the input, with the part of it that is priced and with the reserve it is
    paid from, and falls with the reserve that is paid into.** -/
theorem quote_mono {m' x' rin' rout' : ℕ} (hs : 0 < s) (hin : 0 < rin') (hx : x ≤ x')
    (hm : m ≤ m') (hrin : rin' ≤ rin) (hrout : rout ≤ rout') :
    quote m s x rin rout ≤ quote m' s x' rin' rout' := by
  have hle : quote m s x rin rout ≤ rout := quote_le (hin.trans_le hrin) hs
  rw [le_quote_iff hin hs (hle.trans hrout)]
  calc rin' * quote m s x rin rout * s
      ≤ rin * quote m s x rin rout * s :=
        Nat.mul_le_mul_right _ (Nat.mul_le_mul_right _ hrin)
    _ ≤ x * m * (rout - quote m s x rin rout) := quote_paid m x rout (hin.trans_le hrin) hs
    _ ≤ x' * m' * (rout' - quote m s x rin rout) :=
        Nat.mul_le_mul (Nat.mul_le_mul hx hm) (Nat.sub_le_sub_right hrout _)

/-- **The price gets worse with the input, but for the rounding**: one unit more for the smaller
    input, and it has the better price. -/
theorem quote_mul_lt_succ_mul {a : ℕ} (hin : 0 < rin) (hs : 0 < s) (hx : 0 < x) (ha : x ≤ a) :
    quote m s a rin rout * x < (quote m s x rin rout + 1) * a := by
  have hden : 0 < rin * s + x * m := Nat.add_pos_left (Nat.mul_pos hin hs) _
  have hle : rin * s + x * m ≤ rin * s + a * m :=
    Nat.add_le_add_left (Nat.mul_le_mul_right _ ha) _
  have paid : quote m s a rin rout * (rin * s + a * m) ≤ a * m * rout := Nat.div_mul_le_self _ _
  have next : x * m * rout < (quote m s x rin rout + 1) * (rin * s + x * m) := by
    rw [quote, Nat.add_one_mul]
    exact Nat.lt_div_mul_add hden
  apply lt_of_mul_lt_mul_right _ (Nat.zero_le (rin * s + x * m))
  calc quote m s a rin rout * x * (rin * s + x * m)
      ≤ quote m s a rin rout * x * (rin * s + a * m) := Nat.mul_le_mul_left _ hle
    _ = quote m s a rin rout * (rin * s + a * m) * x := by ring
    _ ≤ a * m * rout * x := Nat.mul_le_mul_right _ paid
    _ = x * m * rout * a := by ring
    _ < (quote m s x rin rout + 1) * (rin * s + x * m) * a :=
        Nat.mul_lt_mul_of_pos_right next (hx.trans_le ha)
    _ = (quote m s x rin rout + 1) * a * (rin * s + x * m) := by ring

/-- **A trade made in two parts pays no more than the whole**: the first part leaves its unpriced
    share in the market, where the second part has to get past it. -/
theorem quote_add_quote_le (a b rout : ℕ) (hin : 0 < rin) (hs : 0 < s) (hms : m ≤ s) :
    quote m s a rin rout + quote m s b (rin + a) (rout - quote m s a rin rout) ≤
      quote m s (a + b) rin rout := by
  have hfst : quote m s a rin rout ≤ rout := quote_le hin hs
  have hsnd : quote m s b (rin + a) (rout - quote m s a rin rout) ≤
      rout - quote m s a rin rout := quote_le (Nat.add_pos_left hin a) hs
  have hpaid := quote_paid m a rout hin hs
  have hpaid' := quote_paid m b (rout - quote m s a rin rout) (Nat.add_pos_left hin a) hs
  revert hfst hsnd hpaid hpaid'
  generalize quote m s b (rin + a) (rout - quote m s a rin rout) = z
  generalize quote m s a rin rout = y
  intro hfst hsnd hpaid hpaid'
  rw [le_quote_iff hin hs (by omega)]
  -- `left` is what both parts leave of the reserve.
  obtain ⟨left, hleft⟩ := Nat.exists_eq_add_of_le hsnd
  have hrest : rout - y - z = left := by omega
  have hwhole : rout - (y + z) = left := by omega
  rw [hleft] at hpaid
  rw [hrest] at hpaid'
  rw [hwhole]
  have hkept : a * m * z ≤ a * s * z := Nat.mul_le_mul_right _ (Nat.mul_le_mul_left _ hms)
  nlinarith

/-- **A round trip against one pair of reserves does not pay.** -/
theorem quote_quote_le (hin : 0 < rin) (hout : 0 < rout) (hs : 0 < s) (hms : m ≤ s) :
    quote m s (quote m s x rin rout) rout rin ≤ x := by
  rcases Nat.eq_zero_or_pos (quote m s (quote m s x rin rout) rout rin) with hz | hback
  · omega
  · have hthere : 0 < quote m s x rin rout := by
      apply Nat.pos_of_ne_zero
      intro hz
      rw [hz] at hback
      simp [quote] at hback
    have hfst := quote_mul_lt hin hs hms hout hthere
    have hsnd := quote_mul_lt hout hs hms hin hback
    have hlt : quote m s (quote m s x rin rout) rout rin * rout < x * rout := hsnd.trans hfst
    exact (Nat.lt_of_mul_lt_mul_right hlt).le

/-! ## The floored inverse

A market that is asked for the input of a given output answers a floored quotient plus
one. `floor_add_one_bounds` places that answer against the least input; the two lemmas after it
read a bound on the answer as one on the exact quotient. -/

theorem floor_add_one_bounds {a b : ℕ} (hb : 0 < b) :
    a ⌈/⌉ b ≤ a / b + 1 ∧ a / b ≤ a ⌈/⌉ b := by
  constructor
  · rw [ceilDiv_le_iff_le_mul hb]
    have hsplit := Nat.div_add_mod a b
    have hrem := Nat.mod_lt a hb
    nlinarith
  · rw [← Nat.floorDiv_eq_div]
    exact floorDiv_le_ceilDiv

theorem le_floor_add_one_iff {n a b : ℕ} (hb : 0 < b) : n ≤ a / b + 1 ↔ (n - 1) * b ≤ a := by
  rw [← Nat.le_div_iff_mul_le hb]
  exact Nat.sub_le_iff_le_add.symm

theorem floor_lt_add_one_iff {n a b : ℕ} (hb : 0 < b) : a / b < n + 1 ↔ a < (n + 1) * b :=
  Nat.div_lt_iff_lt_mul hb

/-! ## One swap, and a run of swaps -/

/-- **A swap does not lower the product of the reserves**, as long as the market prices no
    more than it is paid. -/
theorem product_le (x rout : ℕ) (hin : 0 < rin) (hs : 0 < s) (hms : m ≤ s) :
    rin * rout ≤ (rin + x) * (rout - quote m s x rin rout) := by
  have hden : 0 < rin * s + x * m := Nat.add_pos_left (Nat.mul_pos hin hs) _
  -- `q` is the quote: its floor is the only fact about it that is needed.
  generalize hq : quote m s x rin rout = q
  have hfloor : q * (rin * s + x * m) ≤ x * m * rout := by
    rw [← hq, quote]
    exact Nat.div_mul_le_self _ _
  have hle : q ≤ rout := by
    by_contra hlt
    nlinarith [Nat.mul_pos hin hs, Nat.mul_le_mul_left (x * m) (Nat.le_of_not_le hlt)]
  obtain ⟨d, rfl⟩ := Nat.exists_eq_add_of_le hle
  rw [Nat.add_sub_cancel_left]
  -- The priced input pays for `q`; the unpriced part only adds to the reserve.
  have hpaid : rin * q * s ≤ x * m * d := by nlinarith
  have hall : rin * q * s ≤ x * d * s := by
    calc rin * q * s ≤ x * m * d := hpaid
      _ = x * d * m := by ring
      _ ≤ x * d * s := Nat.mul_le_mul_left _ hms
  have hcost : rin * q ≤ x * d := Nat.le_of_mul_le_mul_right hall hs
  nlinarith

/-- **No free take.** Between two pairs of reserves whose product did not fall, the
    second pair cannot be below the first in both goods and strictly below in one. -/
theorem no_free_take {a b a' b' : ℕ} (ha : 0 < a) (hb : 0 < b) (hk : a * b ≤ a' * b')
    (hle : a' ≤ a ∧ b' ≤ b) : a' = a ∧ b' = b := by
  obtain ⟨hla, hlb⟩ := hle
  constructor
  · by_contra hne
    have hlt : a' < a := lt_of_le_of_ne hla hne
    nlinarith [Nat.mul_le_mul_left a' hlb, Nat.mul_lt_mul_of_pos_right hlt hb]
  · by_contra hne
    have hlt : b' < b := lt_of_le_of_ne hlb hne
    nlinarith [Nat.mul_le_mul_right b' hla, Nat.mul_lt_mul_of_pos_left hlt ha]

end ConstantProduct
