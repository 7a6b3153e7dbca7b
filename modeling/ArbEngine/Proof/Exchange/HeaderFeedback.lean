import Mathlib.Algebra.Order.BigOperators.Group.List
import ArbEngine.Proof.Exchange.RateGuarantee

/-!
# What the feedback of the exchange is worth

A response of the exchange says what weight it has seen in the last minute, and the limiter sets
its tokens to what is left. The time of the last fill stays what it was: the next turn fills the
bucket for the time before the feedback as well, which the feedback has taken into account
already. So the feedback holds where there is no such time, or nothing to fill
(`feedback_respected`), and nowhere else (`respected_after_iff`).

A run here is any sequence of turns and feedbacks at times that do not go back.
-/

namespace ArbEngine

open TokenBucket

inductive LimiterEvent where
  | turn (weight : ℕ) (now : ℚ)
  | headers (usedWeight now : ℚ)
deriving DecidableEq, Repr

def LimiterEvent.time : LimiterEvent → ℚ
  | .turn _ now => now
  | .headers _ now => now

/-- The limiter, the time of the last event, the last feedback with its time, and the weights
    that have been granted since, each with its time. -/
structure FeedbackRun where
  limiter : RateLimiter
  now : ℚ
  feedback : Option (ℚ × ℚ)
  grants : List (ℕ × ℚ)
deriving DecidableEq, Repr

namespace FeedbackRun

def start (maxWeightPerMinute : ℕ) (now : ℚ) : FeedbackRun where
  limiter := RateLimiter.new maxWeightPerMinute now
  now := now
  feedback := none
  grants := []

def next (r : FeedbackRun) : LimiterEvent → FeedbackRun
  | .turn weight now =>
      let turn := r.limiter.attempt weight now
      { r with
        limiter := turn.2, now
        grants := if turn.1 = .granted then r.grants ++ [(weight, now)] else r.grants }
  | .headers usedWeight now =>
      { limiter := r.limiter.updateFromHeaders usedWeight, now
        feedback := some (usedWeight, now), grants := [] }

/-- The clock does not go back. -/
def step (r : FeedbackRun) (e : LimiterEvent) : Option FeedbackRun :=
  if r.now ≤ e.time then some (r.next e) else none

variable {r s : FeedbackRun} {e : LimiterEvent} {events : List LimiterEvent} {n weight : ℕ}
  {now t u start₀ : ℚ}

theorem step_eq_some : step r e = some s ↔ r.now ≤ e.time ∧ s = r.next e := by
  unfold step
  split
  · rename_i later
    simp [later, eq_comm]
  · rename_i earlier
    simp [earlier]

/-! ## What is granted -/

/-- The weight of the grants after `t` and up to `t'`. -/
def within (t t' : ℚ) (grants : List (ℕ × ℚ)) : ℚ :=
  (grants.map fun g => if t < g.2 ∧ g.2 ≤ t' then (g.1 : ℚ) else 0).sum

/-- The weight of the grants after `t`. -/
def since (t : ℚ) (grants : List (ℕ × ℚ)) : ℚ :=
  (grants.map fun g => if t < g.2 then (g.1 : ℚ) else 0).sum

@[simp] theorem since_nil : since t [] = 0 := rfl

@[simp] theorem since_snoc (grants : List (ℕ × ℚ)) :
    since t (grants ++ [(weight, now)]) = since t grants + if t < now then (weight : ℚ) else 0 := by
  simp [since]

@[simp] theorem within_snoc {t' : ℚ} (grants : List (ℕ × ℚ)) :
    within t t' (grants ++ [(weight, now)]) =
      within t t' grants + if t < now ∧ now ≤ t' then (weight : ℚ) else 0 := by
  simp [within]

theorem within_le_since {t' : ℚ} (grants : List (ℕ × ℚ)) : within t t' grants ≤ since t grants := by
  apply List.sum_le_sum
  intro g _
  by_cases later : t < g.2
  · rw [if_pos later]
    split
    · exact le_rfl
    · exact Nat.cast_nonneg _
  · rw [if_neg later, if_neg fun h => later h.1]

/-- **The feedback is respected**: of the weight that the exchange has left, and of what comes in
    after it said so, no more is granted. -/
def Respected (r : FeedbackRun) : Prop :=
  ∀ u t, r.feedback = some (u, t) → 0 ≤ u → u ≤ r.limiter.capacity → ∀ t', t ≤ t' →
    within t t' r.grants ≤ (r.limiter.capacity - u) + r.limiter.tokensPerMs * (t' - t)

/-- There is nothing to fill in, or no time for which it would be filled in. -/
def Fresh (r : FeedbackRun) (u t : ℚ) : Prop := u = 0 ∨ r.limiter.lastFill = t

/-- Every feedback that names a weight within the capacity is fresh. -/
def FreshFeedback (r : FeedbackRun) (e : LimiterEvent) : Prop :=
  ∀ u t, e = .headers u t → 0 ≤ u → u ≤ r.limiter.capacity → r.Fresh u t

/-! ## The invariant -/

/-- What holds of every limiter. -/
structure Settled (n : ℕ) (r : FeedbackRun) : Prop where
  capacity : r.limiter.capacity = n
  rate : r.limiter.tokensPerMs = LimitedTasks.perMs n
  filled : r.limiter.lastFill ≤ r.now
  tokens : 0 ≤ r.limiter.tokens

/-- Where the feedback was fresh: what is granted since and what is available together are what
    the exchange has left and what came in. -/
structure Credited (n : ℕ) (r : FeedbackRun) : Prop extends Settled n r where
  respected : r.Respected
  credit : ∀ u t, r.feedback = some (u, t) → 0 ≤ u → u ≤ n →
    t ≤ r.now ∧ r.limiter.tokens ≤ n ∧
      available (n : ℚ) (LimitedTasks.perMs n) r.limiter.bucket r.now + since t r.grants ≤
        (n - u) + LimitedTasks.perMs n * (r.now - t)

theorem credited_start : Credited n (start n start₀) where
  capacity := rfl
  rate := rfl
  filled := le_rfl
  tokens := Nat.cast_nonneg n
  respected := by
    intro u t h
    cases h
  credit := by
    intro u t h
    cases h

/-! ## Turns -/

/-- After a turn that has taken this much. -/
def afterTurn (r : FeedbackRun) (now taken : ℚ) (grants : List (ℕ × ℚ)) : FeedbackRun :=
  { r with limiter := r.limiter.withBucket (r.limiter.visited ⟨now, taken⟩), now, grants }

theorem Settled.rate_nonneg (h : Settled n r) : 0 ≤ r.limiter.tokensPerMs := by
  rw [h.rate]
  exact LimitedTasks.perMs_nonneg n

theorem Settled.filled_nonneg (h : Settled n r) : 0 ≤ (r.limiter.filled now).level := by
  unfold RateLimiter.filled fill
  split
  · rename_i pos
    refine le_min (add_nonneg h.tokens pos.le) ?_
    rw [h.capacity]
    exact Nat.cast_nonneg n
  · exact h.tokens

theorem next_turn_of_le (h : Settled n r) (enough : (weight : ℚ) ≤ (r.limiter.filled now).level) :
    r.next (.turn weight now) = r.afterTurn now weight (r.grants ++ [(weight, now)]) := by
  simp only [next]
  rw [RateLimiter.attempt_of_le h.rate_nonneg enough]
  rfl

theorem next_turn_of_lt (h : Settled n r) (short : (r.limiter.filled now).level < weight) :
    r.next (.turn weight now) = r.afterTurn now 0 r.grants := by
  simp only [next]
  rw [RateLimiter.attempt_of_lt h.rate_nonneg short]
  rfl

section Turn

variable {taken : ℚ} {grants : List (ℕ × ℚ)}

theorem Settled.afterTurn (h : Settled n r) (later : r.now ≤ now)
    (found : taken ≤ (r.limiter.filled now).level) : Settled n (r.afterTurn now taken grants) where
  capacity := h.capacity
  rate := h.rate
  filled := fill_stamp_le (h.filled.trans later)
  tokens := sub_nonneg.mpr found

/-- **A turn takes its grant off what is available.** What was granted since the feedback and what
    is available now are counted together; a turn moves its tokens from the second to the first and
    adds nothing. -/
theorem Credited.afterTurn (h : Credited n r) (later : r.now ≤ now) (h0 : 0 ≤ taken)
    (found : taken ≤ (r.limiter.filled now).level)
    (hsince : ∀ t, since t grants ≤ since t r.grants + if t < now then taken else 0)
    (hwithin : ∀ t t', t' < now → within t t' grants = within t t' r.grants) :
    Credited n (r.afterTurn now taken grants) := by
  have settled : Settled n (r.afterTurn now taken grants) := h.toSettled.afterTurn later found
  have rate := LimitedTasks.perMs_nonneg n
  -- the new balance: the bound from before, the tokens that have come in since, less the grant
  have credit : ∀ u t, r.feedback = some (u, t) → 0 ≤ u → u ≤ n →
      t ≤ now ∧ (r.afterTurn now taken grants).limiter.tokens ≤ n ∧
        available (n : ℚ) (LimitedTasks.perMs n) (r.afterTurn now taken grants).limiter.bucket now +
          since t grants ≤ (n - u) + LimitedTasks.perMs n * (now - t) := by
    intro u t hfeedback hu hcap
    obtain ⟨past, full, bound⟩ := h.credit u t hfeedback hu hcap
    have bucket : (r.afterTurn now taken grants).limiter.bucket =
        visit (n : ℚ) (LimitedTasks.perMs n) r.limiter.bucket ⟨now, taken⟩ := by
      rw [← h.capacity, ← h.rate]
      rfl
    have cut : (fill (n : ℚ) (LimitedTasks.perMs n) r.limiter.bucket now).level ≤ n :=
      fill_level_le_cap full
    have turned : available (n : ℚ) (LimitedTasks.perMs n)
        (visit (n : ℚ) (LimitedTasks.perMs n) r.limiter.bucket ⟨now, taken⟩) now + taken ≤
          available (n : ℚ) (LimitedTasks.perMs n) r.limiter.bucket now :=
      available_visit_le full (h.filled.trans later : r.limiter.bucket.stamp ≤ now) rate
    have grown : available (n : ℚ) (LimitedTasks.perMs n) r.limiter.bucket now ≤ _ :=
      available_le_of_le rate later
    refine ⟨past.trans later, ?_, ?_⟩
    · show (r.afterTurn now taken grants).limiter.bucket.level ≤ n
      rw [bucket, visit_level]
      linarith
    · rw [bucket]
      have counted := hsince t
      split at counted
      · linarith
      · linarith
  refine { settled with respected := ?_, credit := credit }
  intro u t hfeedback hu hcap t' ht'
  rcases lt_or_ge t' now with before | after
  · show within t t' grants ≤ _
    rw [hwithin t t' before]
    exact h.respected u t hfeedback hu hcap t' ht'
  · -- a span that reaches beyond this turn is bounded by what is available now
    rw [settled.capacity] at hcap
    obtain ⟨-, -, bound⟩ := credit u t hfeedback hu hcap
    have left : 0 ≤ available (n : ℚ) (LimitedTasks.perMs n)
        (r.afterTurn now taken grants).limiter.bucket now :=
      available_nonneg settled.tokens settled.filled (Nat.cast_nonneg n) rate
    have more : LimitedTasks.perMs n * (now - t) ≤ LimitedTasks.perMs n * (t' - t) :=
      mul_le_mul_of_nonneg_left (by linarith) rate
    rw [settled.capacity, settled.rate]
    have counted : within t t' grants ≤ since t grants := within_le_since grants
    show within t t' grants ≤ _
    linarith

end Turn

/-- One turn, granted or not. -/
theorem credited_turn (h : Credited n r) (later : r.now ≤ now) :
    Credited n (r.next (.turn weight now)) := by
  rcases le_or_gt (weight : ℚ) (r.limiter.filled now).level with enough | short
  · rw [next_turn_of_le h.toSettled enough]
    apply h.afterTurn later (Nat.cast_nonneg _) enough
    · intro t
      rw [since_snoc]
    · intro t t' before
      rw [within_snoc, if_neg fun h => not_lt.mpr h.2 before, add_zero]
  · rw [next_turn_of_lt h.toSettled short]
    apply h.afterTurn later le_rfl h.filled_nonneg
    · intro t
      simp
    · intro t t' _
      rfl

/-! ## Feedback -/

theorem Settled.headers (h : Settled n r) (later : r.now ≤ now) :
    Settled n (r.next (.headers u now)) where
  capacity := h.capacity
  rate := h.rate
  filled := h.filled.trans later
  tokens := le_max_right _ _

/-- What the feedback leaves, where it leaves something. -/
theorem headers_tokens (h : Settled n r) (hcap : u ≤ n) :
    (r.limiter.updateFromHeaders u).tokens = n - u := by
  show max (r.limiter.capacity - u) 0 = _
  rw [h.capacity, max_eq_left (sub_nonneg.mpr hcap)]

theorem headers_respected (h : Settled n r) : (r.next (.headers u now)).Respected := by
  rintro _ _ ⟨⟩ hu hcap t' ht'
  have came : 0 ≤ r.limiter.tokensPerMs * (t' - now) :=
    mul_nonneg h.rate_nonneg (sub_nonneg.mpr ht')
  have left : 0 ≤ r.limiter.capacity - u := sub_nonneg.mpr hcap
  exact add_nonneg left came

/-- **A fresh feedback is credited once.** -/
theorem credited_headers (h : Settled n r) (later : r.now ≤ now)
    (fresh : 0 ≤ u → u ≤ n → r.Fresh u now) : Credited n (r.next (.headers u now)) := by
  refine { h.headers later with respected := headers_respected h, credit := ?_ }
  rintro _ _ ⟨⟩ hu hcap
  have tokens := headers_tokens h hcap
  refine ⟨le_rfl, ?_, ?_⟩
  · show (r.limiter.updateFromHeaders u).tokens ≤ n
    linarith
  · show available (n : ℚ) (LimitedTasks.perMs n) (r.limiter.updateFromHeaders u).bucket now +
      since now [] ≤ (n - u) + LimitedTasks.perMs n * (now - now)
    rw [since_nil, sub_self, mul_zero, add_zero, add_zero]
    rcases fresh hu hcap with rfl | filled
    · rw [sub_zero]
      exact available_le_cap
    · have level : (r.limiter.updateFromHeaders u).bucket.level = n - u := tokens
      have stamp : (r.limiter.updateFromHeaders u).bucket.stamp = now := filled
      unfold available
      rw [level, stamp, sub_self, mul_zero, add_zero]
      exact min_le_left _ _

/-! ## Every run -/

theorem credited_step (h : Credited n r) (fresh : r.FreshFeedback e) (next : step r e = some s) :
    Credited n s := by
  obtain ⟨later, rfl⟩ := step_eq_some.mp next
  cases e with
  | turn weight now => exact credited_turn h later
  | headers u t =>
    apply credited_headers h.toSettled later
    intro hu hcap
    exact fresh u t rfl hu (by rwa [h.capacity])

/-- **Where every feedback is fresh, every feedback is respected**: after a response has said that
    a weight `u` was used, at most what is left and what comes in is granted. -/
theorem feedback_respected (run : GuardedRun step FreshFeedback (start n start₀) events r) :
    r.Respected :=
  (run.invariant (fun kept fresh next => credited_step kept fresh next) credited_start).respected

/-- A feedback at the moment of the last fill. -/
def promptFeedback : List LimiterEvent := [.turn 100 5, .headers 1150 5, .turn 50 5, .turn 1 60]

theorem sample_feedback_respected :
    ∃ r, GuardedRun step FreshFeedback (start 1200 0) promptFeedback r ∧
      r.grants = [(50, 5), (1, 60)] ∧ r.Respected := by
  have first : GuardedRun step FreshFeedback (start 1200 0) [.turn 100 5] _ :=
    .single (by rintro _ _ ⟨⟩) rfl
  have second := GuardedRun.snoc first (i := .headers 1150 5)
    (by rintro _ _ ⟨⟩ _ _; right; decide +kernel) rfl
  have third := GuardedRun.snoc second (i := .turn 50 5) (by rintro _ _ ⟨⟩) rfl
  have run := GuardedRun.snoc third (i := .turn 1 60) (by rintro _ _ ⟨⟩) rfl
  exact ⟨_, run, by decide +kernel, feedback_respected run⟩

/-- **A minute of silence, and then the feedback that nothing is left**: a millisecond later the
    whole capacity is granted. -/
def staleFeedback : List LimiterEvent := [.headers 1200 60000, .turn 1200 60001]

theorem sample_feedback_ignored :
    ∃ r, Run step (start 1200 0) staleFeedback r ∧ r.grants = [(1200, 60001)] ∧ ¬r.Respected := by
  have seen : (staleFeedback.foldlM step (start 1200 0)).map
      (fun r => (r.grants, r.feedback, r.limiter.capacity, r.limiter.tokensPerMs)) =
        some ([(1200, 60001)], some (1200, 60000), 1200, 1 / 50) := by decide +kernel
  obtain ⟨r, hr, read⟩ := Option.map_eq_some_iff.mp seen
  simp only [Prod.mk.injEq] at read
  obtain ⟨grants, feedback, capacity, rate⟩ := read
  refine ⟨r, Run.of_foldlM hr, grants, fun respected => ?_⟩
  have bound := respected 1200 60000 feedback (by norm_num) (by rw [capacity]) 60001 (by norm_num)
  rw [grants, capacity, rate] at bound
  revert bound
  decide +kernel

/-! ## A feedback that is not fresh -/

theorem settled_step (h : Settled n r) (next : step r e = some s) : Settled n s := by
  obtain ⟨later, rfl⟩ := step_eq_some.mp next
  cases e with
  | turn weight now =>
    rcases le_or_gt (weight : ℚ) (r.limiter.filled now).level with enough | short
    · rw [next_turn_of_le h enough]
      exact h.afterTurn later enough
    · rw [next_turn_of_lt h short]
      exact h.afterTurn later h.filled_nonneg
  | headers u t => exact h.headers later

theorem settled_run (run : Run step (start n start₀) events r) : Settled n r :=
  run.invariant (fun kept _ next => settled_step kept next) credited_start.toSettled

/-- The requests after a feedback. -/
def turns (requests : List (ℕ × ℚ)) : List LimiterEvent :=
  requests.map fun request => .turn request.1 request.2

/-- **Whatever is asked for next**, the feedback `u` at `now` is respected. -/
def RespectedAfter (r : FeedbackRun) (u now : ℚ) : Prop :=
  ∀ requests s, Run step (r.next (.headers u now)) (turns requests) s → s.Respected

/-- After a feedback the bucket is full again once as much has come in since the last fill as the
    feedback says was used. -/
theorem filled_headers (h : Settled n r) (later : r.now ≤ now) (used : 0 < u) (hcap : u ≤ n)
    (came : u ≤ LimitedTasks.perMs n * (t - r.limiter.lastFill)) :
    ((r.next (.headers u now)).limiter.filled t).level = n := by
  have settled : Settled n (r.next (.headers u now)) := h.headers later
  have level : (r.next (.headers u now)).limiter.bucket.level = n - u := headers_tokens h hcap
  have stamp : (r.next (.headers u now)).limiter.bucket.stamp = r.limiter.lastFill := rfl
  have refill : 0 < LimitedTasks.perMs n *
      (t - (r.next (.headers u now)).limiter.bucket.stamp) := by
    rw [stamp]
    exact used.trans_le came
  unfold RateLimiter.filled
  rw [settled.capacity, settled.rate, fill_of_pos refill, level, stamp]
  apply min_eq_right
  linarith

/-- One token after another is granted at a time when the bucket is full. -/
theorem drained (hn : 0 < n) (h : Settled n r) (later : r.now ≤ now)
    (full : (r.limiter.filled now).level = n) (earlier : t < now) {k : ℕ} (hk : k ≤ n) :
    ∃ s, Run step r (turns (List.replicate k (1, now))) s ∧ Settled n s ∧ s.now ≤ now ∧
      s.feedback = r.feedback ∧ (s.limiter.filled now).level = n - k ∧
      within t now s.grants = within t now r.grants + k := by
  induction k with
  | zero => exact ⟨r, .nil r, h, later, rfl, by simp [full], by simp⟩
  | succ k ih =>
    obtain ⟨s, run, hs, past, feedback, level, counted⟩ := ih (Nat.le_of_succ_le hk)
    have left : ((1 : ℕ) : ℚ) ≤ (s.limiter.filled now).level := by
      rw [level, Nat.cast_one]
      have : (k : ℚ) + 1 ≤ n := by exact_mod_cast hk
      linarith
    have next : step s (.turn 1 now) = some (s.afterTurn now (1 : ℕ) (s.grants ++ [(1, now)])) :=
      step_eq_some.mpr ⟨past, (next_turn_of_le hs left).symm⟩
    have refilled : (s.afterTurn now (1 : ℕ) (s.grants ++ [(1, now)])).limiter.filled now =
        s.limiter.visited ⟨now, (1 : ℕ)⟩ := by
      refine fill_visit_self (v := ⟨now, (1 : ℕ)⟩) ?_
      show 0 < s.limiter.tokensPerMs
      rw [hs.rate]
      exact LimitedTasks.perMs_pos hn
    refine ⟨s.afterTurn now (1 : ℕ) (s.grants ++ [(1, now)]), ?_, hs.afterTurn past left, le_rfl,
      feedback, ?_, ?_⟩
    · rw [List.replicate_succ', turns, List.map_append]
      exact .snoc run trivial next
    · rw [refilled]
      show (s.limiter.filled now).level - ((1 : ℕ) : ℚ) = _
      rw [level]
      push_cast
      ring
    · show within t now (s.grants ++ [(1, now)]) = _
      rw [within_snoc, if_pos ⟨earlier, le_rfl⟩, counted]
      push_cast
      ring

/-- **The feedback is respected, whatever comes next, exactly where it is fresh**: in any state of
    any run. -/
theorem respected_after_iff (run : Run step (start n start₀) events r) (later : r.now ≤ now)
    (hu : 0 ≤ u) (hcap : u ≤ n) : r.RespectedAfter u now ↔ r.Fresh u now := by
  have h := settled_run run
  constructor
  · intro respected
    by_contra stale
    obtain ⟨some_used, some_idle⟩ := not_or.mp stale
    have used : 0 < u := lt_of_le_of_ne hu (Ne.symm some_used)
    have idle : r.limiter.lastFill < now := lt_of_le_of_ne (h.filled.trans later) some_idle
    have hn : 0 < n := by exact_mod_cast used.trans_le hcap
    have rate := LimitedTasks.perMs_pos hn
    -- The bucket is full a little before what was used has come in again.
    obtain ⟨gained, pos, idled, small⟩ : ∃ gained : ℚ, 0 < gained ∧
        gained ≤ now - r.limiter.lastFill ∧ gained < u / LimitedTasks.perMs n := by
      refine ⟨min (now - r.limiter.lastFill) (u / LimitedTasks.perMs n) / 2, ?_, ?_, ?_⟩
      · exact half_pos (lt_min (sub_pos.mpr idle) (div_pos used rate))
      · have := min_le_left (now - r.limiter.lastFill) (u / LimitedTasks.perMs n)
        linarith [lt_min (sub_pos.mpr idle) (div_pos used rate)]
      · have := min_le_right (now - r.limiter.lastFill) (u / LimitedTasks.perMs n)
        linarith [lt_min (sub_pos.mpr idle) (div_pos used rate)]
    have product : LimitedTasks.perMs n * (u / LimitedTasks.perMs n) = u :=
      mul_div_cancel₀ u rate.ne'
    have earlier : now < now + (u / LimitedTasks.perMs n - gained) := by linarith
    have settled : Settled n (r.next (.headers u now)) := h.headers later
    have full : ((r.next (.headers u now)).limiter.filled
        (now + (u / LimitedTasks.perMs n - gained))).level = n := by
      have idle_part := mul_nonneg rate.le (sub_nonneg.mpr idled)
      have split : now + (u / LimitedTasks.perMs n - gained) - r.limiter.lastFill =
          u / LimitedTasks.perMs n + (now - r.limiter.lastFill - gained) := by ring
      apply filled_headers h later used hcap
      rw [split, mul_add, product]
      linarith
    obtain ⟨s, drain, hs, -, feedback, -, counted⟩ :=
      drained hn settled earlier.le full earlier (le_refl n)
    have bound := respected _ s drain u now feedback hu (by rw [hs.capacity]; exact hcap) _
      earlier.le
    rw [counted, hs.capacity, hs.rate] at bound
    have none : within now (now + (u / LimitedTasks.perMs n - gained))
        (r.next (.headers u now)).grants = 0 := rfl
    have lost : 0 < LimitedTasks.perMs n * gained := mul_pos rate pos
    rw [none, add_sub_cancel_left, mul_sub, product] at bound
    linarith
  · intro fresh requests s continued
    have credited : Credited n (r.next (.headers u now)) :=
      credited_headers h later fun _ _ => fresh
    have quiet : GuardedRun step FreshFeedback (r.next (.headers u now)) (turns requests) s := by
      apply continued.weaken_of_mem
      rintro _ e he - u t rfl
      obtain ⟨request, -, heq⟩ := List.mem_map.mp he
      cases heq
    exact (quiet.invariant (fun kept fresh next => credited_step kept fresh next)
      credited).respected

end FeedbackRun

end ArbEngine
