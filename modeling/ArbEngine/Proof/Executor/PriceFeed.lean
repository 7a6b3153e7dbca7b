import ArbEngine.Executor.Checks
import ArbEngine.Lib.Window
import Mathlib.Algebra.Order.BigOperators.Group.List
import Mathlib.Tactic.NormNum

/-!
# The price feed as a window per pair

The validator compares a price with the mean of the recent prices of its pair, and keeps it
before it has decided about it. After any calls, for any pairs and in any order, the history of a
pair is the end of the stream of its positive prices (`priceHistory_afterCalls`), and nothing else
of the calls matters to the answer (`validatePriceFeed_window`).
-/

namespace ArbEngine

/-- One call of `validate_price_feed`. -/
structure FeedCall where
  price : ℚ
  pair : String
deriving DecidableEq, Repr

namespace PreTradeValidator

variable {v : PreTradeValidator} {windowSize : ℕ} {calls calls' : List FeedCall}
  {call : FeedCall} {pair : String}

/-- The answer to one more call. -/
def answer (v : PreTradeValidator) (call : FeedCall) : Except ValidationError Unit :=
  (v.validatePriceFeed call.price call.pair).1

/-- The validator after one more call. -/
def called (v : PreTradeValidator) (call : FeedCall) : PreTradeValidator :=
  (v.validatePriceFeed call.price call.pair).2

/-- A new validator after the calls. -/
def afterCalls (windowSize : ℕ) (calls : List FeedCall) : PreTradeValidator :=
  calls.foldl called (new windowSize)

/-! ## What the feed is for -/

/-- The call is one that counts for the pair. -/
def Counts (pair : String) (call : FeedCall) : Prop := call.pair = pair ∧ 0 < call.price

instance : Decidable (Counts pair call) := by
  unfold Counts
  infer_instance

/-- The positive prices of a pair, the oldest first. -/
def pairPrices (pair : String) (calls : List FeedCall) : List ℚ :=
  (calls.filter fun call => Counts pair call).map FeedCall.price

def mean (prices : List ℚ) : ℚ := prices.sum / prices.length

/-- **A price passes** if it is positive and, once there are positive prices of its pair, within
    five percent of the mean of the last `windowSize` of them. -/
def Passes (windowSize : ℕ) (calls : List FeedCall) (call : FeedCall) : Prop :=
  0 < call.price ∧
    (pairPrices call.pair calls = [] ∨
      |call.price - mean ((pairPrices call.pair calls).rtake windowSize)| ≤
        5 / 100 * mean ((pairPrices call.pair calls).rtake windowSize))

theorem pairPrices_concat :
    pairPrices pair (calls ++ [call]) =
      pairPrices pair calls ++ if Counts pair call then [call.price] else [] := by
  unfold pairPrices
  rw [List.filter_append, List.map_append]
  congr 1
  by_cases h : Counts pair call
  · simp [h]
  · simp [h]

/-- A call that does not count might as well not have been made. -/
theorem pairPrices_insert {before after : List FeedCall} (h : ¬ Counts pair call) :
    pairPrices pair (before ++ call :: after) = pairPrices pair (before ++ after) := by
  unfold pairPrices
  rw [List.filter_append, List.filter_append, List.filter_cons_of_neg (by simpa using h)]

theorem pos_of_mem_pairPrices {price : ℚ} (h : price ∈ pairPrices pair calls) : 0 < price := by
  obtain ⟨call, hcall, rfl⟩ := List.mem_map.mp h
  have counts : Counts pair call := of_decide_eq_true (List.mem_filter.mp hcall).2
  exact counts.2

theorem mean_pos {prices : List ℚ} (pos : ∀ price ∈ prices, 0 < price) (hne : prices ≠ []) :
    0 < mean prices := by
  have sum : 0 < prices.sum := List.sum_pos _ pos hne
  have length : (0 : ℚ) < prices.length := Nat.cast_pos.mpr (List.length_pos_of_ne_nil hne)
  exact div_pos sum length

/-! ## One call -/

@[simp] theorem called_windowSize : (v.called call).windowSize = v.windowSize := by
  unfold called validatePriceFeed
  split
  · rfl
  · dsimp only
    split
    · rfl
    · rfl

/-- A positive price is kept, whatever becomes of it. -/
theorem called_of_pos (positive : 0 < call.price) :
    (v.called call).priceHistory = fun p =>
      if p = call.pair then
        Window.push v.windowSize (v.priceHistory call.pair) call.price
      else v.priceHistory p := by
  unfold called validatePriceFeed
  rw [if_neg (not_le.mpr positive)]
  dsimp only
  split
  · rfl
  · rfl

/-- A call whose price is not positive is turned away and leaves no trace. -/
theorem validatePriceFeed_of_le (h : call.price ≤ 0) :
    v.answer call = .error .priceNotPositive ∧ v.called call = v := by
  unfold answer called validatePriceFeed
  rw [if_pos h]
  exact ⟨rfl, rfl⟩

/-- A call that counts for the pair moves its window, and any other call leaves it alone. -/
theorem called_priceHistory :
    (v.called call).priceHistory pair =
      if Counts pair call then
        Window.push v.windowSize (v.priceHistory pair) call.price
      else v.priceHistory pair := by
  rcases le_or_gt call.price 0 with refused | positive
  · rw [(validatePriceFeed_of_le refused).2, if_neg (fun counts => not_lt.mpr refused counts.2)]
  · rw [called_of_pos positive]
    dsimp only
    by_cases same : pair = call.pair
    · subst same
      rw [if_pos rfl, if_pos ⟨rfl, positive⟩]
    · rw [if_neg same, if_neg (fun counts => same counts.1.symm)]

/-- What a call answers depends on the history of its own pair. -/
theorem answer_eq_ok_iff :
    v.answer call = .ok () ↔
      0 < call.price ∧
        (0 < recentAvg (v.priceHistory call.pair) →
          |call.price - recentAvg (v.priceHistory call.pair)| ≤
            5 / 100 * recentAvg (v.priceHistory call.pair)) := by
  unfold answer validatePriceFeed
  by_cases positive : call.price ≤ 0
  · rw [if_pos positive]
    exact iff_of_false (by simp) (fun h => absurd h.1 (not_lt.mpr positive))
  · rw [if_neg positive, and_iff_right (not_le.mp positive)]
    dsimp only
    split
    · rename_i far
      refine iff_of_false (by simp) (fun h => ?_)
      exact absurd ((div_le_iff₀ far.1).mpr (h far.1)) (not_le.mpr far.2)
    · rename_i near
      refine iff_of_true rfl (fun some => ?_)
      rw [← div_le_iff₀ some]
      exact not_lt.mp fun far => near ⟨some, far⟩

theorem answer_congr {v' : PreTradeValidator}
    (h : v.priceHistory call.pair = v'.priceHistory call.pair) :
    v.answer call = v'.answer call := by
  unfold answer validatePriceFeed
  rw [h]
  split
  · rfl
  · dsimp only
    split
    · rfl
    · rfl

/-! ## All calls -/

theorem afterCalls_concat :
    afterCalls windowSize (calls ++ [call]) = (afterCalls windowSize calls).called call := by
  unfold afterCalls
  rw [List.foldl_concat]

theorem afterCalls_windowSize : (afterCalls windowSize calls).windowSize = windowSize := by
  induction calls using List.reverseRecOn with
  | nil => rfl
  | append_singleton calls call ih => rw [afterCalls_concat, called_windowSize, ih]

/-- **The history of a pair is the end of the stream of its positive prices.** -/
theorem priceHistory_afterCalls (hw : 1 ≤ windowSize) :
    (afterCalls windowSize calls).priceHistory pair =
      (pairPrices pair calls).rtake windowSize := by
  obtain ⟨cap, rfl⟩ := Nat.exists_eq_add_of_le' hw
  induction calls using List.reverseRecOn with
  | nil =>
    rw [pairPrices, List.filter_nil, List.map_nil, List.rtake_nil]
    rfl
  | append_singleton calls call ih =>
    rw [afterCalls_concat, called_priceHistory, afterCalls_windowSize, ih, pairPrices_concat]
    split
    · exact Window.push_rtake _ _
    · rw [List.append_nil]

theorem recentAvg_rtake (hw : 1 ≤ windowSize) {prices : List ℚ} (hne : prices ≠ []) :
    recentAvg (prices.rtake windowSize) = mean (prices.rtake windowSize) ∧
      prices.rtake windowSize ≠ [] := by
  have some : prices.rtake windowSize ≠ [] := by
    rw [← List.length_pos_iff, Window.length_rtake]
    exact lt_min hw (List.length_pos_of_ne_nil hne)
  refine ⟨?_, some⟩
  rw [recentAvg, if_neg (by rwa [List.isEmpty_iff]), mean]

/-- **Every answer is that of the window.** -/
theorem answer_afterCalls_iff (hw : 1 ≤ windowSize) :
    (afterCalls windowSize calls).answer call = .ok () ↔ Passes windowSize calls call := by
  rw [answer_eq_ok_iff, priceHistory_afterCalls hw, Passes]
  refine and_congr_right fun _ => ?_
  by_cases first : pairPrices call.pair calls = []
  · have none : recentAvg (List.rtake (pairPrices call.pair calls) windowSize) = 0 := by
      rw [first, List.rtake_nil]
      rfl
    rw [none]
    exact iff_of_true (fun h => absurd h (lt_irrefl 0)) (.inl first)
  · obtain ⟨avg, some⟩ := recentAvg_rtake hw first
    have positive : 0 < mean ((pairPrices call.pair calls).rtake windowSize) :=
      mean_pos (fun price h => pos_of_mem_pairPrices (List.mem_of_mem_drop h)) some
    rw [avg, imp_iff_right positive, or_iff_right first]

/-- **The price feed is a sliding window for each pair.** After any calls, a call is accepted
    exactly if its price passes the window of its pair; and a call whose price is not positive, or
    one for another pair, changes no later answer. -/
theorem validatePriceFeed_window (hw : 1 ≤ windowSize) (calls : List FeedCall)
    (call : FeedCall) :
    ((afterCalls windowSize calls).answer call = .ok () ↔ Passes windowSize calls call) ∧
      (call.price ≤ 0 → (afterCalls windowSize calls).answer call = .error .priceNotPositive) ∧
      ∀ before stray after, calls = before ++ stray :: after →
        stray.price ≤ 0 ∨ stray.pair ≠ call.pair →
        (afterCalls windowSize calls).answer call =
          (afterCalls windowSize (before ++ after)).answer call := by
  refine ⟨answer_afterCalls_iff hw, fun h => (validatePriceFeed_of_le h).1, ?_⟩
  rintro before stray after rfl apart
  apply answer_congr
  rw [priceHistory_afterCalls hw, priceHistory_afterCalls hw, pairPrices_insert]
  rintro ⟨same, positive⟩
  rcases apart with refused | other
  · exact absurd positive (not_lt.mpr refused)
  · exact other same

/-- Three prices through a window of two: the third is compared with the mean of both others. A
    refused price and one of another pair in between make no difference. -/
theorem sampleFeed_window :
    (afterCalls 2 [⟨100, "ETH/USDC"⟩, ⟨0, "ETH/USDC"⟩, ⟨110, "ETH/USDC"⟩,
        ⟨7, "BTC/USDC"⟩]).answer ⟨105, "ETH/USDC"⟩ = .ok () ∧
      (afterCalls 2 [⟨100, "ETH/USDC"⟩, ⟨110, "ETH/USDC"⟩, ⟨105, "ETH/USDC"⟩]).answer
        ⟨114, "ETH/USDC"⟩ ≠ .ok () := by
  have fst : pairPrices "ETH/USDC" [⟨100, "ETH/USDC"⟩, ⟨0, "ETH/USDC"⟩, ⟨110, "ETH/USDC"⟩,
      ⟨7, "BTC/USDC"⟩] = [100, 110] := by decide +kernel
  have snd : pairPrices "ETH/USDC" [⟨100, "ETH/USDC"⟩, ⟨110, "ETH/USDC"⟩, ⟨105, "ETH/USDC"⟩] =
      [100, 110, 105] := by decide +kernel
  constructor
  · refine (validatePriceFeed_window (by decide) _ _).1.mpr ?_
    rw [Passes, fst]
    norm_num [mean, List.rtake]
  · refine (validatePriceFeed_window (by decide) _ _).1.not.mpr ?_
    rw [Passes, snd, or_iff_right (List.cons_ne_nil _ _)]
    norm_num [mean, List.rtake]

end PreTradeValidator
end ArbEngine
