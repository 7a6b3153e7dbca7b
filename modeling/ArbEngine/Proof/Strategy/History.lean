import ArbEngine.Lib.Window
import ArbEngine.Strategy.Scorer

/-!
# What the history of a pair is scored by

The scorer keeps the last hundred results of all pairs, and twenty of those of the pair decide.
They are taken from the front of the queue, where the oldest are, so that the score lags behind
once a pair has more of them (`scoreHistory_iff`).
-/

namespace ArbEngine
namespace SignalScorer

variable {s : SignalScorer} {results : List (String × Bool)} {pair : String}

/-- Results are recorded one after the other. -/
def recordAll (s : SignalScorer) (results : List (String × Bool)) : SignalScorer :=
  results.foldl (fun s r => s.recordResult r.1 r.2) s

theorem recordResult_recentResults (s : SignalScorer) (pair : String) (success : Bool) :
    (s.recordResult pair success).recentResults =
      Window.push 100 s.recentResults (pair, success) := rfl

theorem recordAll_recentResults (s : SignalScorer) (results : List (String × Bool)) :
    (s.recordAll results).recentResults = results.foldl (Window.push 100) s.recentResults := by
  induction results generalizing s with
  | nil => rfl
  | cons r results ih =>
    have rest := ih (s.recordResult r.1 r.2)
    rw [recordResult_recentResults] at rest
    exact rest

/-- The results of the pair among the last hundred, the oldest first. -/
def pairResults (results : List (String × Bool)) (pair : String) : List Bool :=
  ((results.rtake 100).filter fun r => r.1 = pair).map Prod.snd

/-- The success rate in percent, and one half for fewer than three results. -/
def successRate (results : List Bool) : ℚ :=
  if results.length < 3 then 50 else results.count true / results.length * 100

/-- **The score of the recent past**: the newest twenty results of the pair decide. -/
def recentScore (results : List (String × Bool)) (pair : String) : ℚ :=
  successRate ((pairResults results pair).rtake 20)

/-- The oldest twenty decide. -/
theorem scoreHistory_eq (config : Option ScorerConfig) (results : List (String × Bool))
    (pair : String) :
    ((new config).recordAll results).scoreHistory pair =
      successRate ((pairResults results pair).take 20) := by
  have kept : ((new config).recordAll results).recentResults = results.rtake 100 := by
    rw [recordAll_recentResults]
    exact Window.foldl_push_nil results
  unfold scoreHistory
  rw [kept, List.map_take]
  rfl

theorem pairResults_append_replicate (results : List (String × Bool)) (pair : String)
    (success : Bool) {k : ℕ} (enough : 20 ≤ k) :
    (pairResults (results ++ List.replicate k (pair, success)) pair).rtake 20 =
      List.replicate 20 success := by
  rcases le_total 100 k with many | some
  · have full : pairResults (results ++ List.replicate k (pair, success)) pair =
        [] ++ List.replicate 100 success := by
      unfold pairResults
      rw [Window.rtake_append_replicate results _ many]
      simp
    rw [full, Window.rtake_append_replicate [] success (by norm_num)]
  · have split : (results ++ List.replicate k (pair, success)).rtake 100 =
        results.rtake (100 - k) ++ List.replicate k (pair, success) := by
      rw [List.rtake, List.rtake, List.length_append, List.length_replicate]
      rw [List.drop_append_of_le_length (by omega)]
      congr 2
      omega
    have ends : pairResults (results ++ List.replicate k (pair, success)) pair =
        ((results.rtake (100 - k)).filter fun r => r.1 = pair).map Prod.snd ++
          List.replicate k success := by
      unfold pairResults
      rw [split]
      simp
    rw [ends, Window.rtake_append_replicate _ success enough]

/-- Twenty results in a row settle the score. -/
theorem recentScore_append_replicate (results : List (String × Bool)) (pair : String)
    (success : Bool) {k : ℕ} (enough : 20 ≤ k) :
    recentScore (results ++ List.replicate k (pair, success)) pair =
      if success then 100 else 0 := by
  unfold recentScore
  rw [pairResults_append_replicate results pair success enough]
  cases success with
  | false => norm_num [successRate, List.count_replicate]
  | true => norm_num [successRate, List.count_replicate]

theorem successRate_inj {xs ys : List Bool} (length : xs.length = ys.length)
    (enough : 3 ≤ xs.length) : successRate xs = successRate ys ↔ xs.count true = ys.count true := by
  unfold successRate
  rw [← length, if_neg (not_lt.mpr enough), if_neg (not_lt.mpr enough)]
  have pos : (xs.length : ℚ) ≠ 0 := by
    rw [Nat.cast_ne_zero]
    omega
  rw [mul_left_inj' (by norm_num), div_left_inj' pos, Nat.cast_inj]

/-- **When the history is scored by recent results**: the pair has at most twenty of the last
    hundred, or as many successes in its oldest twenty as in its newest. -/
theorem scoreHistory_iff (config : Option ScorerConfig) (results : List (String × Bool))
    (pair : String) :
    ((new config).recordAll results).scoreHistory pair = recentScore results pair ↔
      (pairResults results pair).length ≤ 20 ∨
        ((pairResults results pair).take 20).count true =
          ((pairResults results pair).rtake 20).count true := by
  rw [scoreHistory_eq, recentScore]
  rcases le_or_gt (pairResults results pair).length 20 with few | many
  · rw [List.take_of_length_le few, Window.rtake_of_length_le few]
    exact iff_of_true rfl (.inl few)
  · have oldest : ((pairResults results pair).take 20).length = 20 := by
      rw [List.length_take]
      omega
    have newest : ((pairResults results pair).rtake 20).length = 20 := by
      rw [Window.length_rtake]
      omega
    rw [successRate_inj (oldest.trans newest.symm) (by omega)]
    exact ⟨.inr, fun h => h.resolve_left (by omega)⟩

/-- After twenty failures, twenty successes leave the score at nothing. -/
theorem scoreHistory_lags :
    ¬ ∀ config results pair, ((new config).recordAll results).scoreHistory pair =
        recentScore results pair := by
  intro recent
  have score := recent none (List.replicate 20 ("ETH/USDT", false) ++
    List.replicate 20 ("ETH/USDT", true)) "ETH/USDT"
  rw [scoreHistory_eq, recentScore_append_replicate _ _ _ le_rfl] at score
  have oldest : (pairResults (List.replicate 20 ("ETH/USDT", false) ++
      List.replicate 20 ("ETH/USDT", true)) "ETH/USDT").take 20 = List.replicate 20 false := by
    unfold pairResults
    rw [Window.rtake_of_length_le (by simp)]
    simp
  rw [oldest] at score
  norm_num [successRate, List.count_replicate] at score

end SignalScorer
end ArbEngine
