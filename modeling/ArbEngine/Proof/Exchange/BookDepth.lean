import Mathlib.Algebra.Order.BigOperators.Group.List
import ArbEngine.Proof.Exchange.BookPrices

/-!
# Depth and walk agree

The loop of `depth_at_bps` breaks off at the first level that is too far from the best price. On a
sorted side the levels near enough are at the front (`near_append_far`), so it has counted them
all, and a walk for that quantity takes just these levels, whole.
-/

namespace ArbEngine
namespace OrderBookAnalyzer

open Greedy

variable {a : OrderBookAnalyzer} {levels : List Level} {b b' : ℚ} {side walked : String}

/-! ## The levels near the best price -/

/-- How far each level is from the best price, in basis points. -/
def distance (levels : List Level) (l : Level) : ℚ :=
  |l.1 - bestPrice levels| / bestPrice levels * 10000

/-- All the levels within `b` basis points of the best price. -/
def near (levels : List Level) (b : ℚ) : List Level :=
  levels.filter fun l => distance levels l ≤ b

/-- What `depth_at_bps` says of these levels. -/
def notional (levels : List Level) : ℚ := (levels.map fun l => l.1 * l.2).sum

/-- Of a sorted list, what satisfies a bound is at the front, and everything behind it exceeds the
    bound. -/
theorem filter_append_of_sorted {α : Type} {f : α → ℚ} {l : List α}
    (sorted : l.Pairwise fun x y => f x ≤ f y) :
    ∃ rest, l = l.filter (fun x => f x ≤ b) ++ rest ∧ ∀ x ∈ rest, b < f x := by
  induction l with
  | nil => exact ⟨[], rfl, by simp⟩
  | cons x l ih =>
    obtain ⟨first, sorted⟩ := List.pairwise_cons.mp sorted
    by_cases hx : f x ≤ b
    · obtain ⟨rest, hl, hrest⟩ := ih sorted
      refine ⟨rest, ?_, hrest⟩
      rw [List.filter_cons_of_pos (by simpa using hx), List.cons_append, ← hl]
    · have beyond : ∀ y ∈ x :: l, b < f y := by
        refine List.forall_mem_cons.mpr ⟨not_le.mp hx, fun y hy => ?_⟩
        exact (not_le.mp hx).trans_le (first y hy)
      refine ⟨x :: l, ?_, beyond⟩
      rw [List.filter_eq_nil_iff.mpr, List.nil_append]
      intro y hy
      simpa using beyond y hy

/-- On a side that is sorted best first no level is nearer than one before it: the prices go up
    from the best one or down from it, and the distance is absolute. -/
theorem distance_sorted (sorted : a.BestFirst side)
    (positive : ∀ l ∈ a.walkSide side, 0 < l.1) :
    (a.walkSide side).Pairwise fun l l' =>
      distance (a.walkSide side) l ≤ distance (a.walkSide side) l' := by
  have best : 0 ≤ bestPrice (a.walkSide side) := by
    cases hlevels : a.walkSide side with
    | nil => exact le_rfl
    | cons level levels => exact (positive level (hlevels ▸ List.mem_cons_self)).le
  unfold BestFirst at sorted
  split at sorted
  · refine sorted.imp_of_mem ?_
    intro l l' hl hl' hle
    have h := bestPrice_le sorted l hl
    have h' := bestPrice_le sorted l' hl'
    unfold distance
    rw [abs_of_nonneg (sub_nonneg.mpr h), abs_of_nonneg (sub_nonneg.mpr h')]
    gcongr
  · refine sorted.imp_of_mem ?_
    intro l l' hl hl' hle
    have h := le_bestPrice sorted l hl
    have h' := le_bestPrice sorted l' hl'
    unfold distance
    rw [abs_sub_comm, abs_sub_comm l'.1, abs_of_nonneg (sub_nonneg.mpr h),
      abs_of_nonneg (sub_nonneg.mpr h')]
    gcongr

/-- **The levels near enough are at the front.** So a loop that breaks off at the first level that
    is too far has seen all of them. -/
theorem near_append_far (sorted : a.BestFirst side) (positive : ∀ l ∈ a.walkSide side, 0 < l.1)
    (b : ℚ) :
    ∃ far, a.walkSide side = near (a.walkSide side) b ++ far ∧
      ∀ l ∈ far, b < distance (a.walkSide side) l :=
  filter_append_of_sorted (distance_sorted sorted positive)

/-! ## The loop -/

/-- The loop adds up the levels that are near enough, -/
theorem depthLevels_near {best : ℚ} (far : List Level) (total : ℚ × ℚ)
    (h : ∀ l ∈ levels, priceDiffBps best l.1 ≤ b) :
    depthLevels best b (levels ++ far) total =
      depthLevels best b far (total.1 + depth levels, total.2 + notional levels) := by
  induction levels generalizing total with
  | nil => simp [notional]
  | cons level levels ih =>
    obtain ⟨price, qty⟩ := level
    obtain ⟨totalQty, totalCost⟩ := total
    obtain ⟨first, rest⟩ := List.forall_mem_cons.mp h
    rw [List.cons_append, depthLevels, if_pos first, ih _ rest, depth_cons]
    simp only [notional, List.map_cons, List.sum_cons, add_assoc]

/-- and breaks off at the first that is not. -/
theorem depthLevels_far {best : ℚ} (total : ℚ × ℚ) (h : ∀ l ∈ levels, b < priceDiffBps best l.1) :
    depthLevels best b levels total = total := by
  cases levels with
  | nil => rfl
  | cons level levels =>
    exact if_neg (not_le.mpr (h level List.mem_cons_self))

/-- **The loop counts all the levels near enough**: their quantities, and what they are worth at
    their own prices. -/
theorem depthAtBps_eq {far : List Level} (positive : ∀ l ∈ levels, 0 < l.1)
    (hsplit : levels = near levels b ++ far) (hfar : ∀ l ∈ far, b < distance levels l)
    (hside : a.depthSide side = levels) :
    a.depthAtBps side b = (depth (near levels b), notional (near levels b)) := by
  unfold depthAtBps
  rw [hside]
  cases levels with
  | nil => rfl
  | cons best rest =>
    have hbest : best.1 ≠ 0 := (positive best List.mem_cons_self).ne'
    have diff : ∀ l : Level, priceDiffBps best.1 l.1 = distance (best :: rest) l := by
      intro l
      rw [priceDiffBps, if_neg hbest]
      rfl
    have enough : ∀ l ∈ near (best :: rest) b, priceDiffBps best.1 l.1 ≤ b := by
      intro l hl
      rw [diff]
      exact of_decide_eq_true (List.mem_filter.mp hl).2
    show depthLevels best.1 b (best :: rest) (0, 0) = _
    conv_lhs => rw [hsplit]
    rw [depthLevels_near far (0, 0) enough, depthLevels_far, zero_add, zero_add]
    intro l hl
    rw [diff]
    exact hfar l hl

/-! ## The walk -/

/-- A level near enough is within `b` basis points of the best price, up or down. -/
theorem near_bounds (hbest : 0 < bestPrice levels) {l : Level} (hl : l ∈ near levels b) :
    bestPrice levels - bestPrice levels * b / 10000 ≤ l.1 ∧
      l.1 ≤ bestPrice levels + bestPrice levels * b / 10000 := by
  have hdist : distance levels l ≤ b := by simpa using (List.mem_filter.mp hl).2
  unfold distance at hdist
  have hdiff : |l.1 - bestPrice levels| ≤ bestPrice levels * b / 10000 := by
    rw [div_mul_eq_mul_div, div_le_iff₀ hbest] at hdist
    linarith
  have := abs_le.mp hdiff
  constructor <;> linarith

/-- An average of prices that are all near enough is near enough. What is walked is just the near
    levels, since the quantity is theirs. -/
theorem slippage_append {best : ℚ} {front far : List Level} (hfront : Offered front)
    (hfar : Offered far) (hbest : 0 < best) (hb : 0 ≤ b)
    (bounds : ∀ l ∈ front, best - best * b / 10000 ≤ l.1 ∧ l.1 ≤ best + best * b / 10000) :
    slippage best (average (front ++ far) (depth front)) ≤ b := by
  unfold slippage
  split
  · exact hb
  · rename_i some
    -- the quantity is that of the near levels, so nothing is taken of the far ones
    have hsum := sum_greedy_append hfront hfar
    -- an average of nothing has no slippage, which the first branch was about
    have taken : 0 < depth front := by
      refine (depth_nonneg hfront).lt_of_ne ?_
      intro zero
      refine some (.inr ?_)
      unfold average
      rw [hsum, if_pos zero.symm]
    have havg : average (front ++ far) (depth front) =
        cost front (front.map Prod.snd) / depth front := by
      unfold average
      rw [hsum, if_neg taken.ne', cost_greedy_append hfront hfar]
    have low : (best - best * b / 10000) * depth front ≤ cost front (front.map Prod.snd) :=
      mul_sum_le_cost (fun l hl => (bounds l hl).1) (alloc_all hfront)
    have high : cost front (front.map Prod.snd) ≤ (best + best * b / 10000) * depth front :=
      cost_le_mul_sum (fun l hl => (bounds l hl).2) (alloc_all hfront)
    have close : |average (front ++ far) (depth front) - best| ≤ best * b / 10000 := by
      rw [havg, abs_le]
      constructor
      · rw [neg_le_sub_iff_le_add, ← sub_le_iff_le_add, le_div_iff₀ taken]
        exact low
      · rw [sub_le_iff_le_add, div_le_iff₀ taken, add_comm]
        exact high
    rw [div_mul_eq_mul_div, div_le_iff₀ hbest]
    linarith

/-! ## The result -/

/-- **Depth and walk agree**, for a side of these levels and `b` basis points. -/
structure DepthAgrees (a : OrderBookAnalyzer) (side walked : String) (levels : List Level)
    (b : ℚ) : Prop where
  depth : a.depthAtBps side b =
    (((levels.filter fun l => distance levels l ≤ b).map Prod.snd).sum,
      ((levels.filter fun l => distance levels l ≤ b).map fun l => l.1 * l.2).sum)
  mono : ∀ b', b ≤ b' → (a.depthAtBps side b).1 ≤ (a.depthAtBps side b').1 ∧
    (a.depthAtBps side b).2 ≤ (a.depthAtBps side b').2
  filled : (a.walkTheBook walked (a.depthAtBps side b).1).fullyFilled = true
  paid : (a.walkTheBook walked (a.depthAtBps side b).1).totalCost = (a.depthAtBps side b).2
  slippage : (a.walkTheBook walked (a.depthAtBps side b).1).slippageBps ≤ roundDp b 2

/-- More basis points are as deep or deeper. -/
theorem near_mono (positive : ∀ l ∈ levels, 0 < l.1) (offered : Offered levels) (h : b ≤ b') :
    depth (near levels b) ≤ depth (near levels b') ∧
      notional (near levels b) ≤ notional (near levels b') := by
  have sub : (near levels b).Sublist (near levels b') := by
    apply List.monotone_filter_right
    intro l hl
    simp only [decide_eq_true_eq] at hl ⊢
    exact hl.trans h
  constructor
  · refine (sub.map Prod.snd).sum_le_sum ?_
    refine List.forall_mem_map.mpr fun l hl => ?_
    exact offered l (List.mem_of_mem_filter hl)
  · refine (sub.map fun l => l.1 * l.2).sum_le_sum ?_
    refine List.forall_mem_map.mpr fun l hl => ?_
    have hmem := List.mem_of_mem_filter hl
    exact mul_nonneg (positive l hmem).le (offered l hmem)

/-- **What `depth_at_bps` counts is what a walk of that quantity takes**, on the side the two texts
    name. The walk takes the near levels, whole and in order, so it is filled and costs what they
    are worth, and its average is a mean of prices that are all near enough. -/
theorem depth_and_walk (a : OrderBookAnalyzer) (side walked : String)
    (same : a.lowerTable.toLowercase side = "ask" ↔ a.lowerTable.toLowercase walked = "buy")
    (positive : ∀ l ∈ a.walkSide walked, 0 < l.1) (quantity : ∀ l ∈ a.walkSide walked, 0 < l.2)
    (sorted : a.BestFirst walked) {b : ℚ} (hb : 0 ≤ b) :
    DepthAgrees a side walked (a.walkSide walked) b := by
  have offered : Offered (a.walkSide walked) := fun l hl => (quantity l hl).le
  have hside : a.depthSide side = a.walkSide walked := by
    unfold depthSide walkSide
    simp only [same]
  -- the loop stops at the first level that is too far; in a sorted side nothing near comes after
  -- it
  have hdepth : ∀ b, a.depthAtBps side b =
      (Greedy.depth (near (a.walkSide walked) b), notional (near (a.walkSide walked) b)) := by
    intro b
    -- the side falls into the near levels and the far ones, for the depth and for the walk alike
    obtain ⟨far, hsplit, hfar⟩ := near_append_far sorted positive b
    exact depthAtBps_eq positive hsplit hfar hside
  obtain ⟨far, hsplit, -⟩ := near_append_far sorted positive b
  have hnear : Offered (near (a.walkSide walked) b) := fun l hl =>
    offered l (List.mem_of_mem_filter hl)
  have hfar : Offered far := fun l hl => offered l (hsplit ▸ List.mem_append_right _ hl)
  have hsum := sum_greedy_append hnear hfar
  have hcost := cost_greedy_append hnear hfar
  rw [← hsplit] at hsum hcost
  have hwalk := walkTheBook_eq offered (depth_nonneg hnear)
  refine ⟨hdepth b, ?mono, ?filled, ?paid, ?slippage⟩
  case mono =>
    intro b' h
    rw [hdepth b, hdepth b']
    dsimp only
    exact near_mono positive offered h
  case filled =>
    rw [hdepth b, hwalk, hsum, sub_self]
    exact decide_eq_true (le_refl (0 : ℚ))
  case paid =>
    rw [hdepth b, hwalk, hcost, cost_all]
    rfl
  case slippage =>
    rw [hdepth b, hwalk]
    refine roundDp_mono ?_ 2
    -- without a level there is no best price, and the slippage is zero
    by_cases empty : a.walkSide walked = []
    · have none : bestPrice (a.walkSide walked) = 0 := by
        rw [empty]
        rfl
      unfold slippage
      rw [if_pos (.inl none)]
      exact hb
    · have hbest := Tradable.bestPrice_pos ⟨empty, positive, quantity⟩
      have close := slippage_append hnear hfar hbest hb fun l hl => near_bounds hbest hl
      rw [← hsplit] at close
      exact close

/-- Ten basis points reach the best ask only. -/
theorem sampleAnalyzer_depth : sampleAnalyzer.depthAtBps "ask" 10 = (10, 20100) := by
  have buy := walkSide_buy sampleAnalyzer
  have asks : sampleAnalyzer.walkSide "buy" = [(2010, 10), (2020, 20)] := buy
  have positive : ∀ l ∈ sampleAnalyzer.walkSide "buy", 0 < l.1 := by
    rw [asks]
    norm_num
  have quantity : ∀ l ∈ sampleAnalyzer.walkSide "buy", 0 < l.2 := by
    rw [asks]
    norm_num
  have sorted : sampleAnalyzer.BestFirst "buy" := by
    rw [BestFirst, if_pos sampleAnalyzer.lowercase_buy, asks]
    norm_num
  have agrees := depth_and_walk (b := 10) sampleAnalyzer "ask" "buy" (by decide) positive quantity
    sorted (by norm_num)
  rw [agrees.depth, asks]
  norm_num [distance, bestPrice]

end OrderBookAnalyzer
end ArbEngine
