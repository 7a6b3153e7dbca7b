import Mathlib.Data.Int.Log
import Mathlib.Data.Rat.Floor
import Mathlib.Tactic.FieldSimp
import Mathlib.Tactic.Linarith
import Mathlib.Tactic.Positivity
import Mathlib.Tactic.Ring

/-!
# Rounding to binary64

A finite double is an integer multiple of a power of two: 53 bits of mantissa, and no bit below
`2 ^ -1074`. `Binary64.nearest` takes a rational to the double next to it, and to the one with
the even mantissa where two are as near. What a `+`, a `-` or a `*` of doubles computes is
`nearest` of the exact result, so a program's arithmetic is written down as it stands, with
`nearest` around every operation; its value can be evaluated, digit by digit, by `decide`.

There is no largest exponent here: beyond `2 ^ 1024` the machine has an infinity and this file
goes on with rationals. A program that saturates there, as an integer cast does, cannot tell.

Three facts carry the proofs:

* rounding stops at a value of the grid on the way (`nearest_le`, `le_nearest`), whence it keeps
  an order (`nearest_mono`) and leaves doubles as they are (`nearest_nearest`);
* it is off by half a unit in the last place at most (`nearest_error`), so that a sum of doubles,
  term by term, is off by as many halves as it has terms (`F64.foldl_add_error`);
* two doubles of one binade are a whole unit apart (`OnGrid.add_le_of_lt`).
-/

/-! ## Half to even -/

/-- The nearest integer; of two that are as near it is the even one. -/
def roundHalfEven (x : ℚ) : ℤ :=
  if Int.fract x < 1 / 2 then ⌊x⌋
  else if 1 / 2 < Int.fract x then ⌊x⌋ + 1
  else if ⌊x⌋ % 2 = 0 then ⌊x⌋
  else ⌊x⌋ + 1

section HalfEven

variable {x y : ℚ}

theorem floor_le_roundHalfEven (x : ℚ) : ⌊x⌋ ≤ roundHalfEven x := by
  unfold roundHalfEven
  split_ifs <;> omega

theorem roundHalfEven_le (x : ℚ) : roundHalfEven x ≤ ⌊x⌋ + 1 := by
  unfold roundHalfEven
  split_ifs <;> omega

/-- **Rounding keeps an order.** -/
theorem roundHalfEven_mono (h : x ≤ y) : roundHalfEven x ≤ roundHalfEven y := by
  rcases (Int.floor_mono h).eq_or_lt with same | less
  · -- Between the same two integers it is the distance from the lower one that counts.
    have further : Int.fract x ≤ Int.fract y := by
      unfold Int.fract
      rw [same]
      linarith
    unfold roundHalfEven
    rw [same]
    split_ifs <;> first | omega | linarith
  · calc roundHalfEven x ≤ ⌊x⌋ + 1 := roundHalfEven_le x
      _ ≤ ⌊y⌋ := less
      _ ≤ roundHalfEven y := floor_le_roundHalfEven y

@[simp] theorem roundHalfEven_intCast (k : ℤ) : roundHalfEven k = k := by
  unfold roundHalfEven
  rw [Int.fract_intCast, if_pos (by norm_num), Int.floor_intCast]

/-- The integer is at most one half away. -/
theorem abs_roundHalfEven_sub_le (x : ℚ) : |(roundHalfEven x : ℚ) - x| ≤ 1 / 2 := by
  have split : x = ⌊x⌋ + Int.fract x := (Int.floor_add_fract x).symm
  have nonneg := Int.fract_nonneg x
  have below := Int.fract_lt_one x
  rw [abs_le]
  unfold roundHalfEven
  split_ifs <;> push_cast <;> constructor <;> linarith

/-- **Rounding does not know a sign**: what is half way goes to the same even integer. -/
theorem roundHalfEven_neg (x : ℚ) : roundHalfEven (-x) = -roundHalfEven x := by
  by_cases whole : Int.fract x = 0
  · obtain ⟨k, rfl⟩ := Int.fract_eq_zero_iff.mp whole
    rw [roundHalfEven_intCast, ← Int.cast_neg, roundHalfEven_intCast]
  · have fract : Int.fract (-x) = 1 - Int.fract x := Int.fract_neg whole
    have floor : ⌊-x⌋ = -⌊x⌋ - 1 := by
      have split : x = ⌊x⌋ + Int.fract x := (Int.floor_add_fract x).symm
      have split' : -x = ⌊-x⌋ + Int.fract (-x) := (Int.floor_add_fract (-x)).symm
      rw [fract] at split'
      have cast : ((⌊-x⌋ : ℤ) : ℚ) = ((-⌊x⌋ - 1 : ℤ) : ℚ) := by
        push_cast
        linarith
      exact_mod_cast cast
    unfold roundHalfEven
    rw [fract, floor]
    split_ifs <;> first | omega | linarith

end HalfEven

namespace Binary64

/-! ## The grid -/

/-- The exponent of the last place of a double that is as large as `x`: 52 places below its
    leading bit, and never below the last place of the smallest doubles. -/
def ulpExponent (x : ℚ) : ℤ := max (Int.log 2 |x| - 52) (-1074)

/-- The unit in the last place. -/
def ulp (x : ℚ) : ℚ := 2 ^ ulpExponent x

/-- The double nearest to `x`, half way to the even mantissa. -/
def nearest (x : ℚ) : ℚ := roundHalfEven (x / ulp x) * ulp x

/-- The integer multiples of `2 ^ e`. -/
def OnGrid (e : ℤ) (x : ℚ) : Prop := ∃ k : ℤ, x = k * 2 ^ e

variable {x y g : ℚ} {e e' n : ℤ}

theorem ulp_pos (x : ℚ) : 0 < ulp x := by
  exact zpow_pos two_pos _

namespace OnGrid

/-- A coarser grid is part of a finer one. -/
theorem mono (h : OnGrid e' x) (le : e ≤ e') : OnGrid e x := by
  obtain ⟨k, rfl⟩ := h
  refine ⟨k * 2 ^ (e' - e).toNat, ?_⟩
  have finer : (2 : ℚ) ^ e' = 2 ^ (e' - e).toNat * 2 ^ e := by
    rw [← zpow_natCast, ← zpow_add₀ two_ne_zero, Int.toNat_of_nonneg (by omega)]
    congr 1
    omega
  push_cast
  rw [finer]
  ring

theorem zero : OnGrid e 0 := ⟨0, by simp⟩

theorem neg (h : OnGrid e x) : OnGrid e (-x) := by
  obtain ⟨k, rfl⟩ := h
  exact ⟨-k, by push_cast; ring⟩

theorem zpow (le : e ≤ n) : OnGrid e (2 ^ n) := mono ⟨1, by simp⟩ le

/-- The integers are on every grid that is not coarser than they are. -/
theorem intCast (k : ℤ) (le : e ≤ 0) : OnGrid e k := mono ⟨k, by simp⟩ le

/-- **Two values of one grid are a whole step apart.** -/
theorem add_le_of_lt (hx : OnGrid e x) (hy : OnGrid e y) (h : x < y) : x + 2 ^ e ≤ y := by
  obtain ⟨k, rfl⟩ := hx
  obtain ⟨l, rfl⟩ := hy
  have step : (0 : ℚ) < 2 ^ e := zpow_pos two_pos e
  have less : (k : ℚ) < l := lt_of_mul_lt_mul_right h step.le
  have next : (k : ℚ) + 1 ≤ l := by exact_mod_cast less
  calc (k : ℚ) * 2 ^ e + 2 ^ e = (k + 1) * 2 ^ e := by ring
    _ ≤ l * 2 ^ e := mul_le_mul_of_nonneg_right next step.le

end OnGrid

/-! ### Binades -/

/-- The leading bit of a value, from below and from above. -/
theorem zpow_log_le (h : x ≠ 0) : 2 ^ Int.log 2 |x| ≤ |x| :=
  Int.zpow_log_le_self one_lt_two (abs_pos.mpr h)

theorem lt_zpow_log (x : ℚ) : |x| < 2 ^ (Int.log 2 |x| + 1) :=
  Int.lt_zpow_succ_log_self one_lt_two |x|

theorem log_eq (least : 2 ^ n ≤ |x|) (less : |x| < 2 ^ (n + 1)) : Int.log 2 |x| = n := by
  have pos : (0 : ℚ) < |x| := (zpow_pos two_pos n).trans_le least
  have low : n ≤ Int.log 2 |x| := (Int.zpow_le_iff_le_log one_lt_two pos).mp least
  have high : Int.log 2 |x| < n + 1 := (Int.lt_zpow_iff_log_lt one_lt_two pos).mp less
  omega

/-- The last place of the values of one binade. -/
theorem ulpExponent_eq (least : 2 ^ n ≤ |x|) (less : |x| < 2 ^ (n + 1)) :
    ulpExponent x = max (n - 52) (-1074) := by
  unfold ulpExponent
  rw [log_eq least less]

/-- Small values have small last places. -/
theorem ulp_le (one : 1 ≤ n) (less : |x| < 2 ^ n) : ulp x ≤ 2 ^ (n - 53) := by
  have log : Int.log 2 |x| < n := by
    rcases eq_or_ne x 0 with rfl | ne
    · rw [abs_zero, Int.log_zero_right]
      omega
    · exact (Int.lt_zpow_iff_log_lt one_lt_two (abs_pos.mpr ne)).mp less
  refine zpow_le_zpow_right₀ one_le_two ?_
  unfold ulpExponent
  omega

theorem ulpExponent_neg (x : ℚ) : ulpExponent (-x) = ulpExponent x := by
  unfold ulpExponent
  rw [abs_neg]

/-- No value has more than 53 bits above its last place. -/
theorem lt_zpow_ulpExponent (x : ℚ) : |x| < 2 ^ (ulpExponent x + 53) := by
  refine (lt_zpow_log x).trans_le (zpow_le_zpow_right₀ one_le_two ?_)
  unfold ulpExponent
  omega

/-! ## Rounding -/

theorem onGrid_nearest (x : ℚ) : OnGrid (ulpExponent x) (nearest x) := ⟨_, rfl⟩

/-- **Rounding up stops at the grid.** -/
theorem nearest_le (hg : OnGrid (ulpExponent x) g) (h : x ≤ g) : nearest x ≤ g := by
  obtain ⟨k, rfl⟩ := hg
  have scaled : x / ulp x ≤ k := (div_le_iff₀ (ulp_pos x)).mpr h
  have rounded : roundHalfEven (x / ulp x) ≤ k := by
    simpa using roundHalfEven_mono scaled
  exact mul_le_mul_of_nonneg_right (by exact_mod_cast rounded) (ulp_pos x).le

/-- **Rounding down stops at the grid.** -/
theorem le_nearest (hg : OnGrid (ulpExponent x) g) (h : g ≤ x) : g ≤ nearest x := by
  obtain ⟨k, rfl⟩ := hg
  have scaled : (k : ℚ) ≤ x / ulp x := (le_div_iff₀ (ulp_pos x)).mpr h
  have rounded : k ≤ roundHalfEven (x / ulp x) := by
    simpa using roundHalfEven_mono scaled
  exact mul_le_mul_of_nonneg_right (by exact_mod_cast rounded) (ulp_pos x).le

/-- The doubles are the values on their own grid. -/
theorem nearest_eq_self_iff : nearest x = x ↔ OnGrid (ulpExponent x) x := by
  constructor
  · intro h
    have grid := onGrid_nearest x
    rwa [h] at grid
  · intro h
    exact le_antisymm (nearest_le h le_rfl) (le_nearest h le_rfl)

@[simp] theorem nearest_zero : nearest 0 = 0 := nearest_eq_self_iff.mpr OnGrid.zero

theorem nearest_neg (x : ℚ) : nearest (-x) = -nearest x := by
  unfold nearest ulp
  rw [ulpExponent_neg, neg_div, roundHalfEven_neg]
  push_cast
  ring

theorem nearest_nonneg (h : 0 ≤ x) : 0 ≤ nearest x := le_nearest OnGrid.zero h

/-- **A double is off by half a unit in the last place at most.** -/
theorem nearest_error (x : ℚ) : |nearest x - x| ≤ ulp x / 2 := by
  have pos := ulp_pos x
  have scaled : nearest x - x = (roundHalfEven (x / ulp x) - x / ulp x) * ulp x := by
    unfold nearest
    field_simp
  rw [scaled, abs_mul, abs_of_pos pos]
  have half := abs_roundHalfEven_sub_le (x / ulp x)
  calc |(roundHalfEven (x / ulp x) : ℚ) - x / ulp x| * ulp x
      ≤ 1 / 2 * ulp x := mul_le_mul_of_nonneg_right half pos.le
    _ = ulp x / 2 := by ring

/-- Below a power of two the last place is known. -/
theorem nearest_error_of_lt (one : 1 ≤ n) (less : |x| < 2 ^ n) :
    |nearest x - x| ≤ 2 ^ (n - 54) := by
  have half : (2 : ℚ) ^ (n - 53) / 2 = 2 ^ (n - 54) := by
    rw [show n - 53 = n - 54 + 1 by ring, zpow_add_one₀ two_ne_zero]
    ring
  calc |nearest x - x| ≤ ulp x / 2 := nearest_error x
    _ ≤ 2 ^ (n - 53) / 2 := div_le_div_of_nonneg_right (ulp_le one less) two_pos.le
    _ = 2 ^ (n - 54) := half

/-- Between two values with different last places lies one that both grids have: zero, or the
    power of two at which the larger one's binade begins. -/
theorem exists_onGrid_between (h : x ≤ y) (other : ulpExponent x ≠ ulpExponent y) :
    ∃ g, OnGrid (ulpExponent x) g ∧ OnGrid (ulpExponent y) g ∧ x ≤ g ∧ g ≤ y := by
  -- One lemma for both signs: of two positive values, the larger one's binade.
  have positive : ∀ {a b : ℚ}, 0 < a → a ≤ b → ulpExponent a ≠ ulpExponent b →
      ∃ g, OnGrid (ulpExponent a) g ∧ OnGrid (ulpExponent b) g ∧ a ≤ g ∧ g ≤ b := by
    intro a b pos le ne
    have begins := zpow_log_le (x := b) (pos.trans_le le).ne'
    have ends := lt_zpow_log a
    have logs : Int.log 2 |a| ≤ Int.log 2 |b| := by
      rw [abs_of_pos pos, abs_of_pos (pos.trans_le le)]
      exact Int.log_mono_right pos le
    rw [abs_of_pos (pos.trans_le le)] at begins
    rw [abs_of_pos pos] at ends
    unfold ulpExponent at ne ⊢
    rw [abs_of_pos pos, abs_of_pos (pos.trans_le le)] at logs ne ⊢
    refine ⟨2 ^ Int.log 2 b, OnGrid.zpow (by omega), OnGrid.zpow (by omega), ?_, begins⟩
    exact ends.le.trans (zpow_le_zpow_right₀ one_le_two (by omega))
  rcases lt_or_ge 0 x with pos | nonpos
  · exact positive pos h other
  · rcases lt_or_ge y 0 with neg | nonneg
    · rw [← ulpExponent_neg x, ← ulpExponent_neg y] at other
      obtain ⟨g, hy, hx, low, high⟩ := positive (neg_pos.mpr neg) (neg_le_neg h) other.symm
      rw [ulpExponent_neg] at hx hy
      exact ⟨-g, hx.neg, hy.neg, by linarith, by linarith⟩
    · exact ⟨0, OnGrid.zero, OnGrid.zero, nonpos, nonneg⟩

/-- **Rounding to doubles keeps an order.** -/
theorem nearest_mono (h : x ≤ y) : nearest x ≤ nearest y := by
  by_cases same : ulpExponent x = ulpExponent y
  · have unit : ulp x = ulp y := congrArg (2 ^ ·) same
    unfold nearest
    rw [unit]
    have scaled : x / ulp y ≤ y / ulp y := div_le_div_of_nonneg_right h (ulp_pos y).le
    exact mul_le_mul_of_nonneg_right (by exact_mod_cast roundHalfEven_mono scaled) (ulp_pos y).le
  · obtain ⟨g, hx, hy, low, high⟩ := exists_onGrid_between h same
    exact (nearest_le hx low).trans (le_nearest hy high)

/-- Rounding goes no further than the end of the binade. -/
theorem abs_nearest_le (x : ℚ) : |nearest x| ≤ 2 ^ (ulpExponent x + 53) := by
  have ends := lt_zpow_ulpExponent x
  have grid : OnGrid (ulpExponent x) (2 ^ (ulpExponent x + 53)) := OnGrid.zpow (by omega)
  rw [abs_lt] at ends
  rw [abs_le]
  exact ⟨le_nearest grid.neg ends.1.le, nearest_le grid ends.2.le⟩

/-- **What has been rounded is a double.** -/
theorem nearest_nearest (x : ℚ) : nearest (nearest x) = nearest x := by
  rw [nearest_eq_self_iff]
  have grid := onGrid_nearest x
  rcases le_or_gt (ulpExponent (nearest x)) (ulpExponent x) with finer | coarser
  · exact grid.mono finer
  · -- The last place has moved only where the value has been rounded up to the next binade.
    by_cases zero : nearest x = 0
    · rw [zero]
      exact OnGrid.zero
    · have most := abs_nearest_le x
      have least := zpow_log_le zero
      have exponent : ulpExponent (nearest x) = Int.log 2 |nearest x| - 52 := by
        unfold ulpExponent at coarser ⊢
        omega
      have reached : (2 : ℚ) ^ (ulpExponent x + 53) ≤ 2 ^ Int.log 2 |nearest x| :=
        zpow_le_zpow_right₀ one_le_two (by omega)
      have power : |nearest x| = 2 ^ Int.log 2 |nearest x| :=
        le_antisymm (most.trans reached) least
      have onGrid : OnGrid (ulpExponent (nearest x)) |nearest x| := by
        rw [power]
        exact OnGrid.zpow (by omega)
      rcases abs_choice (nearest x) with pos | neg
      · rwa [pos] at onGrid
      · rw [neg] at onGrid
        simpa using onGrid.neg

/-- The integers of 53 bits are doubles. -/
theorem nearest_intCast {k : ℤ} (h : |k| ≤ 2 ^ 53) : nearest k = k := by
  rw [nearest_eq_self_iff]
  rcases h.eq_or_lt with power | small
  · have cast : |(k : ℚ)| = 2 ^ (53 : ℤ) := by exact_mod_cast power
    have exponent : ulpExponent (k : ℚ) = 1 := by
      rw [ulpExponent_eq (n := 53) cast.ge (by rw [cast]; norm_num)]
      norm_num
    have grid : OnGrid 1 |(k : ℚ)| := by
      rw [cast]
      exact OnGrid.zpow (by norm_num)
    rw [exponent]
    rcases abs_choice (k : ℚ) with pos | neg
    · rwa [pos] at grid
    · rw [neg] at grid
      simpa using grid.neg
  · by_cases zero : k = 0
    · subst zero
      simpa using OnGrid.zero
    · refine OnGrid.intCast k ?_
      have below : |(k : ℚ)| < 2 ^ (53 : ℤ) := by exact_mod_cast small
      have log : Int.log 2 |(k : ℚ)| < 53 :=
        (Int.lt_zpow_iff_log_lt one_lt_two (by positivity)).mp below
      unfold ulpExponent
      omega

/-- **The whole part of a value survives** where the next integer is more than half a unit in
    the last place away. -/
theorem floor_nearest (small : ⌊x⌋ + 1 ≤ 2 ^ 53) (nonneg : 0 ≤ x)
    (far : x + ulp x / 2 < ⌊x⌋ + 1) : ⌊nearest x⌋ = ⌊x⌋ := by
  have whole : (0 : ℤ) ≤ ⌊x⌋ := Int.floor_nonneg.mpr nonneg
  rw [Int.floor_eq_iff]
  constructor
  · have double : nearest (⌊x⌋ : ℚ) = ⌊x⌋ := nearest_intCast (by rw [abs_of_nonneg whole]; omega)
    rw [← double]
    exact nearest_mono (Int.floor_le x)
  · have off := (abs_le.mp (nearest_error x)).2
    linarith

end Binary64

/-! ## Doubles -/

/-- A finite double: a rational that rounding leaves as it is. -/
def F64 : Type := {x : ℚ // Binary64.nearest x = x}

namespace F64

instance : Coe F64 ℚ := ⟨Subtype.val⟩

/-- The double nearest to a rational. -/
def ofRat (x : ℚ) : F64 := ⟨Binary64.nearest x, Binary64.nearest_nearest x⟩

theorem onGrid (x : F64) : Binary64.OnGrid (Binary64.ulpExponent x) x :=
  Binary64.nearest_eq_self_iff.mp x.2

/-- **Below a double comes the one a unit in the last place away**, as long as the last place is
    the same. -/
theorem le_sub_ulp {x y : F64} (same : Binary64.ulpExponent x = Binary64.ulpExponent y)
    (h : (x : ℚ) < y) : (x : ℚ) ≤ y - Binary64.ulp y := by
  have grid := x.onGrid
  rw [same] at grid
  exact le_sub_iff_add_le.mpr (grid.add_le_of_lt y.onGrid h)

/-! ### Arithmetic

An operation is exact but for the rounding of its result. -/

@[ext] theorem ext {x y : F64} (h : (x : ℚ) = y) : x = y := Subtype.ext h

instance : Zero F64 := ⟨ofRat 0⟩

instance : One F64 := ⟨ofRat 1⟩

instance : Add F64 := ⟨fun x y => ofRat (x + y)⟩

instance : Mul F64 := ⟨fun x y => ofRat (x * y)⟩

@[simp] theorem coe_zero : ((0 : F64) : ℚ) = 0 := Binary64.nearest_zero

@[simp] theorem coe_one : ((1 : F64) : ℚ) = 1 := by
  have one := Binary64.nearest_intCast (k := 1) (by norm_num)
  rwa [Int.cast_one] at one

theorem coe_add (x y : F64) : ((x + y : F64) : ℚ) = Binary64.nearest (x + y) := rfl

theorem coe_mul (x y : F64) : ((x * y : F64) : ℚ) = Binary64.nearest (x * y) := rfl

/-- Nothing is lost where nothing is added. -/
@[simp] theorem add_zero_eq (x : F64) : x + 0 = x := by
  ext
  rw [coe_add, coe_zero, add_zero]
  exact x.2

@[simp] theorem zero_mul_eq (x : F64) : 0 * x = 0 := by
  ext
  rw [coe_mul, coe_zero, zero_mul, Binary64.nearest_zero]

/-- **A sum is off by half a last place for each of its terms**, the last place being that of a
    bound for everything that is added up on the way. -/
theorem foldl_add_error {n : ℤ} (one : 1 ≤ n) (xs : List F64) (s : F64)
    (small :
      |(s : ℚ)| + (xs.map fun x : F64 => |(x : ℚ)|).sum + xs.length * 2 ^ (n - 54) < 2 ^ n) :
    |((xs.foldl (· + ·) s : F64) : ℚ) - (s + (xs.map fun x : F64 => (x : ℚ)).sum)| ≤
      xs.length * 2 ^ (n - 54) := by
  have unit : (0 : ℚ) < 2 ^ (n - 54) := zpow_pos two_pos _
  induction xs generalizing s with
  | nil => simp
  | cons x xs ih =>
    simp only [List.map_cons, List.sum_cons, List.length_cons, List.foldl_cons] at small ⊢
    push_cast at small ⊢
    have rest : 0 ≤ (xs.map fun x : F64 => |(x : ℚ)|).sum :=
      List.sum_nonneg (List.forall_mem_map.mpr fun y _ => abs_nonneg _)
    have turns : (0 : ℚ) ≤ xs.length * 2 ^ (n - 54) := by positivity
    have sum : |(s : ℚ) + x| ≤ |(s : ℚ)| + |(x : ℚ)| := abs_add_le _ _
    -- This addition is off by half a last place, and the others start from there.
    have here : |((s + x : F64) : ℚ) - (s + x)| ≤ 2 ^ (n - 54) :=
      Binary64.nearest_error_of_lt one (by linarith)
    have size : |((s + x : F64) : ℚ)| ≤ |(s : ℚ)| + |(x : ℚ)| + 2 ^ (n - 54) := by
      have apart := abs_sub_abs_le_abs_sub ((s + x : F64) : ℚ) (s + x)
      linarith
    have others := ih (s + x) (by linarith)
    rw [abs_le] at here others ⊢
    constructor <;> linarith [here.1, here.2, others.1, others.2]

/-- What a loop that adds these up from nothing ends with. -/
def sumLeft (xs : List F64) : F64 := xs.foldl (· + ·) 0

/-- A product of two values that were read to within a share of them. -/
theorem mul_read_error {a p a' p' ε : ℚ} (share : 0 ≤ ε) (ha : |a' - a| ≤ ε * |a|)
    (hp : |p' - p| ≤ ε * |p|) : |a' * p' - a * p| ≤ (2 * ε + ε ^ 2) * |a * p| := by
  have split : a' * p' - a * p = (a' - a) * p + a * (p' - p) + (a' - a) * (p' - p) := by ring
  have first : |(a' - a) * p| ≤ ε * |a| * |p| := by
    rw [abs_mul]
    exact mul_le_mul_of_nonneg_right ha (abs_nonneg p)
  have second : |a * (p' - p)| ≤ |a| * (ε * |p|) := by
    rw [abs_mul]
    exact mul_le_mul_of_nonneg_left hp (abs_nonneg a)
  have both : |(a' - a) * (p' - p)| ≤ ε * |a| * (ε * |p|) := by
    rw [abs_mul]
    exact mul_le_mul ha hp (abs_nonneg _) (mul_nonneg share (abs_nonneg a))
  calc |a' * p' - a * p|
      ≤ |(a' - a) * p| + |a * (p' - p)| + |(a' - a) * (p' - p)| := by
        rw [split]
        exact abs_add_three _ _ _
    _ ≤ ε * |a| * |p| + |a| * (ε * |p|) + ε * |a| * (ε * |p|) := by linarith
    _ = (2 * ε + ε ^ 2) * |a * p| := by
        rw [abs_mul]
        ring

section Values

variable {α : Type} {xs : List α} {value : α → F64} {exact : α → ℚ} {ρ unit : ℚ}

/-- Values that are each off by a share and a unit are off by that share of all and as many
    units. -/
theorem sum_map_error (each : ∀ x ∈ xs, |(value x : ℚ) - exact x| ≤ ρ * |exact x| + unit) :
    |(xs.map fun x => (value x : ℚ)).sum - (xs.map exact).sum| ≤
        ρ * (xs.map fun x => |exact x|).sum + xs.length * unit ∧
      (xs.map fun x => |(value x : ℚ)|).sum ≤
        (1 + ρ) * (xs.map fun x => |exact x|).sum + xs.length * unit := by
  induction xs with
  | nil => simp
  | cons x xs ih =>
    obtain ⟨first, others⟩ := List.forall_mem_cons.mp each
    obtain ⟨off, size⟩ := ih others
    simp only [List.map_cons, List.sum_cons, List.length_cons]
    push_cast
    have here := abs_sub_abs_le_abs_sub (value x : ℚ) (exact x)
    rw [abs_le] at first off
    have first' : |(value x : ℚ) - exact x| ≤ ρ * |exact x| + unit := abs_le.mpr first
    constructor
    · rw [abs_le]
      constructor <;> linarith [first.1, first.2, off.1, off.2]
    · linarith

/-- **A loop that adds up such values** is off by their share and by two units for each of them:
    its own one, and the one its addition loses. -/
theorem sumLeft_error {n : ℤ} (one : 1 ≤ n)
    (each : ∀ x ∈ xs, |(value x : ℚ) - exact x| ≤ ρ * |exact x| + 2 ^ (n - 54))
    (small : (1 + ρ) * (xs.map fun x => |exact x|).sum + 2 * xs.length * 2 ^ (n - 54) < 2 ^ n) :
    |(sumLeft (xs.map value) : ℚ) - (xs.map exact).sum| ≤
      ρ * (xs.map fun x => |exact x|).sum + 2 * xs.length * 2 ^ (n - 54) := by
  obtain ⟨off, size⟩ := sum_map_error each
  have added := foldl_add_error one (xs.map value) 0 (by
    rw [coe_zero, abs_zero, List.map_map, List.length_map]
    show 0 + (xs.map fun x => |(value x : ℚ)|).sum + _ < _
    linarith)
  rw [coe_zero, zero_add, List.map_map, List.length_map] at added
  change |(sumLeft (xs.map value) : ℚ) - (xs.map fun x => (value x : ℚ)).sum| ≤ _ at added
  rw [abs_le] at added off ⊢
  constructor <;> linarith [added.1, added.2, off.1, off.2]

end Values

/-- Skipping what is nothing does not change a sum. -/
theorem sumLeft_filter {α : Type} {xs : List α} {keep : α → Bool} {value : α → F64}
    (zero : ∀ x ∈ xs, keep x = false → value x = 0) :
    sumLeft ((xs.filter keep).map value) = sumLeft (xs.map value) := by
  have from_any : ∀ s : F64, ((xs.filter keep).map value).foldl (· + ·) s =
      (xs.map value).foldl (· + ·) s := by
    induction xs with
    | nil => exact fun s => rfl
    | cons x xs ih =>
      obtain ⟨first, others⟩ := List.forall_mem_cons.mp zero
      intro s
      cases kept : keep x with
      | true =>
        rw [List.filter_cons_of_pos kept, List.map_cons, List.map_cons, List.foldl_cons,
          List.foldl_cons, ih others]
      | false =>
        rw [List.filter_cons_of_neg (by simp [kept]), List.map_cons, List.foldl_cons, first kept,
          add_zero_eq, ih others]
  exact from_any 0

end F64
