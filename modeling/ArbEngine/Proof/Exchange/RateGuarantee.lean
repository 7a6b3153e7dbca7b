import ArbEngine.Exchange.RateLimiter
import ArbEngine.Lib.Run
import ArbEngine.Lib.TokenBucket

/-!
# What the rate limiter guarantees

The tokens and the time of the last fill are a token bucket, and a turn of `wait` is a visit to
it (`attempt_of_le`, `attempt_of_lt`). In every run of the tasks the limiter is what the turns
taken so far have made of the new one (`Paced`), so a bound on what visits take from a bucket is
a bound on the weight that is granted; that the readings of the turns are out of order does not
matter to it.

What is not assumed is that the clock reading of a turn is fresh: a task reads the clock before it
waits for the lock, so others may have their turns with later readings first. A fill with a stale
reading adds nothing and does not move the stamp back, which is why the bucket is always stamped
with the latest reading (`stamp_bucketAfter`).
-/

namespace ArbEngine

open TokenBucket

namespace RateLimiter

variable {l : RateLimiter} {weight : ℕ} {now : ℚ}

/-! ## The limiter as a bucket -/

/-- The tokens of the limiter and the time of its last fill, as a bucket of the library. -/
def bucket (l : RateLimiter) : TokenBucket ℚ where
  level := l.tokens
  stamp := l.lastFill

/-- The limiter with another bucket in it. Its capacity and its rate are never changed. -/
def withBucket (l : RateLimiter) (b : TokenBucket ℚ) : RateLimiter :=
  { l with tokens := b.level, lastFill := b.stamp }

@[simp] theorem bucket_withBucket (b : TokenBucket ℚ) : (l.withBucket b).bucket = b := rfl

/-- The bucket after a fill at this time. -/
def filled (l : RateLimiter) (now : ℚ) : TokenBucket ℚ :=
  fill l.capacity l.tokensPerMs l.bucket now

/-- The bucket after a visit. -/
def visited (l : RateLimiter) (v : Visit ℚ) : TokenBucket ℚ :=
  visit l.capacity l.tokensPerMs l.bucket v

/-- **A refill is a fill of the bucket.** The source clips the elapsed time at zero and adds only
    what is positive; the library looks at the gain itself. They agree, whichever side of the last
    fill the reading is on. -/
theorem refill_eq (hrate : 0 ≤ l.tokensPerMs) : l.refill now = l.withBucket (l.filled now) := by
  unfold refill filled
  rcases le_or_gt now l.lastFill with stale | later
  · -- A reading that is not after the last fill brings nothing.
    have nothing : ¬0 < l.tokensPerMs * (now - l.bucket.stamp) :=
      not_lt.mpr (mul_nonpos_of_nonneg_of_nonpos hrate (sub_nonpos.mpr stale))
    have zero : ¬0 < max (now - l.lastFill) 0 * l.tokensPerMs := by
      rw [max_eq_right (sub_nonpos.mpr stale), zero_mul]
      exact lt_irrefl 0
    rw [fill_of_nonpos nothing]
    exact if_neg zero
  · rw [max_eq_left (sub_nonneg.mpr later.le)]
    dsimp only
    rw [mul_comm]
    split
    · rename_i pos
      rw [fill_of_pos pos]
      rfl
    · rename_i nothing
      rw [fill_of_nonpos nothing]
      rfl

/-- **A turn that finds enough** takes it. -/
theorem attempt_of_le (hrate : 0 ≤ l.tokensPerMs) (h : (weight : ℚ) ≤ (l.filled now).level) :
    l.attempt weight now = (.granted, l.withBucket (l.visited ⟨now, weight⟩)) := by
  unfold attempt
  rw [refill_eq hrate]
  exact if_pos h

/-- **A turn that does not** takes nothing, and sleeps. -/
theorem attempt_of_lt (hrate : 0 ≤ l.tokensPerMs) (h : (l.filled now).level < weight) :
    l.attempt weight now =
      (.sleep (waitMs (weight - (l.filled now).level) l.tokensPerMs),
        l.withBucket (l.visited ⟨now, 0⟩)) := by
  -- a visit that takes nothing is a fill
  have nothing : l.visited ⟨now, 0⟩ = l.filled now := by
    unfold visited visit filled
    rw [sub_zero]
  unfold attempt
  rw [refill_eq hrate, nothing]
  exact if_neg (not_le.mpr h)

/-- A sleep is as long as what is missing takes to come in. The milliseconds are rounded up, and a
    minute is far from where they would saturate. -/
theorem le_waitMs {missing tokensPerMs : ℚ} (hrate : 0 < tokensPerMs)
    (fits : missing / tokensPerMs ≤ 60000) :
    missing ≤ tokensPerMs * (waitMs missing tokensPerMs : ℕ) := by
  have ceil : ⌈missing / tokensPerMs⌉₊ ≤ 2 ^ 64 - 1 := by
    have small : ⌈missing / tokensPerMs⌉₊ ≤ 60000 := Nat.ceil_le.mpr (by exact_mod_cast fits)
    omega
  have enough : missing / tokensPerMs ≤ (waitMs missing tokensPerMs : ℕ) := by
    unfold waitMs
    rw [if_neg hrate.ne', min_eq_left ceil]
    exact (Nat.le_ceil _).trans (by exact_mod_cast le_max_left _ _)
  rw [mul_comm]
  exact (div_le_iff₀ hrate).mp enough

end RateLimiter

namespace LimiterSection

variable {τ : Type}

/-- The visit a turn was. -/
def visit (x : LimiterSection τ) : Visit ℚ := ⟨x.now, if x.granted then x.weight else 0⟩

end LimiterSection

namespace LimitedTasks

variable {τ : Type} {n : ℕ} {start₀ : ℚ} {s u : LimitedTasks τ} {e : WaitEvent τ}
  {events : List (WaitEvent τ)} {task : τ} {weight : ℕ} {now : ℚ}

/-- The rate of a limiter for this weight a minute. -/
def perMs (n : ℕ) : ℚ := n / 60000

/-- The bucket after these turns. -/
def bucketAfter (n : ℕ) (start₀ : ℚ) (sections : List (LimiterSection τ)) : TokenBucket ℚ :=
  TokenBucket.run n (perMs n) ⟨n, start₀⟩ (sections.map LimiterSection.visit)

/-- **The limiter is what the turns have made of it**, and the readings lie in the past. -/
structure Paced (n : ℕ) (start₀ : ℚ) (s : LimitedTasks τ) : Prop where
  capacity : s.limiter.capacity = n
  rate : s.limiter.tokensPerMs = perMs n
  replay : s.limiter.bucket = bucketAfter n start₀ s.sections
  honest : Honest (n : ℚ) (perMs n) ⟨n, start₀⟩ (s.sections.map LimiterSection.visit)
  started : start₀ ≤ s.clock
  past : ∀ x ∈ s.sections, start₀ ≤ x.now ∧ x.now ≤ s.clock
  read : ∀ task weight now, s.phase task = .hasRead weight now → start₀ ≤ now ∧ now ≤ s.clock

/-- A new limiter is full, and no turn has been taken. -/
theorem paced_start : Paced n start₀ (start n start₀ : LimitedTasks τ) where
  capacity := rfl
  rate := rfl
  replay := rfl
  honest := trivial
  started := le_rfl
  past := by
    intro x hx
    cases hx
  read := by
    intro task weight now h
    cases h

theorem perMs_nonneg (n : ℕ) : 0 ≤ perMs n := div_nonneg (Nat.cast_nonneg n) (by norm_num)

theorem perMs_pos (hn : 0 < n) : 0 < perMs n := div_pos (Nat.cast_pos.mpr hn) (by norm_num)

theorem Paced.rate_nonneg (h : Paced n start₀ s) : 0 ≤ s.limiter.tokensPerMs := by
  rw [h.rate]
  exact perMs_nonneg n

/-- The bucket is never below zero, since visits take no more than they find, and never above the
    capacity, since fills are cut there. -/
theorem Paced.level_mem (h : Paced n start₀ s) :
    0 ≤ s.limiter.bucket.level ∧ s.limiter.bucket.level ≤ n := by
  rw [h.replay]
  exact ⟨h.honest.level_nonneg (Nat.cast_nonneg n), h.honest.level_le_cap le_rfl⟩

theorem Paced.tokens_mem (h : Paced n start₀ s) :
    0 ≤ s.limiter.tokens ∧ s.limiter.tokens ≤ s.limiter.capacity := by
  rw [h.capacity]
  exact h.level_mem

/-- A fill does not take anything away. -/
theorem Paced.filled_nonneg (h : Paced n start₀ s) : 0 ≤ (s.limiter.filled now).level := by
  refine h.level_mem.1.trans (level_le_fill ?_)
  rw [h.capacity]
  exact h.level_mem.2

/-- One more turn, where it takes no more than it finds. The invariant says that the bucket is what
    a run over all sections so far leaves, so the turn is one more visit of that run. -/
theorem Paced.snoc (h : Paced n start₀ s) {x : LimiterSection τ}
    (hx : start₀ ≤ x.now ∧ x.now ≤ s.clock)
    (hvisit : x.visit.taken ≤ (s.limiter.filled x.now).level) :
    Paced n start₀ { s with
      limiter := s.limiter.withBucket (s.limiter.visited x.visit)
      sections := s.sections ++ [x] } where
  capacity := h.capacity
  rate := h.rate
  replay := by
    have replay : _ = TokenBucket.run _ _ _ _ := h.replay
    simp only [RateLimiter.bucket_withBucket, RateLimiter.visited, bucketAfter, List.map_append,
      List.map_singleton, run_append, run_cons, run_nil, ← replay, h.capacity, h.rate]
  honest := by
    have replay : _ = TokenBucket.run _ _ _ _ := h.replay
    have nonneg : 0 ≤ x.visit.taken := by
      unfold LimiterSection.visit
      dsimp only
      split
      · exact Nat.cast_nonneg _
      · exact le_rfl
    unfold RateLimiter.filled at hvisit
    rw [h.capacity, h.rate] at hvisit
    rw [List.map_append, honest_append, ← replay]
    exact ⟨h.honest, nonneg, hvisit, trivial⟩
  started := h.started
  past := by
    intro y hy
    rcases List.mem_append.mp hy with hy | hy
    · exact h.past y hy
    · rw [List.mem_singleton.mp hy]
      exact hx
  read := h.read

/-! ## One step -/

section Step

variable [DecidableEq τ]

/-- The turn of a task that finds enough. -/
theorem enter_of_le (hrate : 0 ≤ s.limiter.tokensPerMs)
    (h : (weight : ℚ) ≤ (s.limiter.filled now).level) :
    s.enter task weight now =
      { s.withPhase task .outside with
        limiter := s.limiter.withBucket (s.limiter.visited ⟨now, weight⟩)
        sections := s.sections ++ [⟨task, weight, now, true⟩] } := by
  unfold enter
  rw [RateLimiter.attempt_of_le hrate h]

/-- The turn of a task that does not. -/
theorem enter_of_lt (hrate : 0 ≤ s.limiter.tokensPerMs)
    (h : (s.limiter.filled now).level < weight) :
    s.enter task weight now =
      { s.withPhase task (.loopHead weight (s.clock +
          (RateLimiter.waitMs (weight - (s.limiter.filled now).level) s.limiter.tokensPerMs : ℕ)))
        with
        limiter := s.limiter.withBucket (s.limiter.visited ⟨now, 0⟩)
        sections := s.sections ++ [⟨task, weight, now, false⟩] } := by
  unfold enter
  rw [RateLimiter.attempt_of_lt hrate h]

/-- Each event, with what it needs and what it does. -/
theorem step_cases (h : step s e = some u) :
    (∃ ms, e = .elapse ms ∧ 0 ≤ ms ∧ u = { s with clock := s.clock + ms }) ∨
    (∃ task weight, e = .call task weight ∧ s.phase task = .outside ∧
      u = s.withPhase task (.loopHead weight s.clock)) ∨
    (∃ task weight notBefore, e = .readClock task ∧ s.phase task = .loopHead weight notBefore ∧
      notBefore ≤ s.clock ∧ u = s.withPhase task (.hasRead weight s.clock)) ∨
    (∃ task weight now, e = .enter task ∧ s.phase task = .hasRead weight now ∧
      u = s.enter task weight now) := by
  cases e with
  | elapse ms =>
    simp only [step, Option.ite_none_right_eq_some, Option.some.injEq] at h
    exact .inl ⟨ms, rfl, h.1, h.2.symm⟩
  | call task weight =>
    simp only [step] at h
    split at h
    · rename_i hphase
      exact .inr (.inl ⟨task, weight, rfl, hphase, (Option.some.inj h).symm⟩)
    · cases h
  | readClock task =>
    simp only [step] at h
    split at h
    · rename_i weight notBefore hphase
      split at h
      · rename_i due
        exact .inr (.inr (.inl
          ⟨task, weight, notBefore, rfl, hphase, due, (Option.some.inj h).symm⟩))
      · cases h
    · cases h
  | enter task =>
    simp only [step] at h
    split at h
    · rename_i weight now hphase
      exact .inr (.inr (.inr ⟨task, weight, now, rfl, hphase, (Option.some.inj h).symm⟩))
    · cases h

/-- A phase that is not of a task with a reading can be set at will. -/
theorem Paced.withPhase (h : Paced n start₀ s) {phase : WaitPhase}
    (hphase : ∀ weight now, phase = .hasRead weight now → start₀ ≤ now ∧ now ≤ s.clock) :
    Paced n start₀ (s.withPhase task phase) where
  capacity := h.capacity
  rate := h.rate
  replay := h.replay
  honest := h.honest
  started := h.started
  past := h.past
  read := by
    intro other weight now hread
    by_cases same : other = task
    · subst same
      exact hphase weight now (by simpa [LimitedTasks.withPhase] using hread)
    · exact h.read other weight now (by simpa [LimitedTasks.withPhase, same] using hread)

/-- A turn keeps the invariant. It is granted or it is not, and in both cases it is one more visit:
    of the weight in the first case, and of nothing in the second. -/
theorem Paced.enter (h : Paced n start₀ s) (hread : s.phase task = .hasRead weight now) :
    Paced n start₀ (s.enter task weight now) := by
  have hx := h.read task weight now hread
  rcases le_or_gt (weight : ℚ) (s.limiter.filled now).level with enough | short
  · rw [enter_of_le h.rate_nonneg enough]
    have set : Paced n start₀ (s.withPhase task .outside) := h.withPhase (by
      intro weight now hphase
      cases hphase)
    exact set.snoc (x := ⟨task, weight, now, true⟩) hx enough
  · rw [enter_of_lt h.rate_nonneg short]
    exact (h.withPhase (by
      intro weight now hphase
      cases hphase)).snoc (x := ⟨task, weight, now, false⟩) hx h.filled_nonneg

/-- **Every event keeps it.** -/
theorem paced_step (h : Paced n start₀ s) (next : step s e = some u) : Paced n start₀ u := by
  obtain ⟨ms, -, nonneg, rfl⟩ | ⟨task, weight, -, -, rfl⟩ | ⟨task, weight, _, -, -, -, rfl⟩ |
    ⟨task, weight, now, -, hread, rfl⟩ := step_cases next
  · -- time passes, and what was past stays past
    refine ⟨h.capacity, h.rate, h.replay, h.honest, ?_, ?_, ?_⟩
    · exact h.started.trans (by linarith)
    · intro x hx
      obtain ⟨after, before⟩ := h.past x hx
      exact ⟨after, by linarith⟩
    · intro task weight now hread
      obtain ⟨after, before⟩ := h.read task weight now hread
      exact ⟨after, by linarith⟩
  · exact h.withPhase (by
      intro weight now hphase
      cases hphase)
  · -- the reading that a task makes is of now, so it lies in the past from here on
    exact h.withPhase (by
      intro weight now hphase
      cases hphase
      exact ⟨h.started, le_rfl⟩)
  · exact h.enter hread

/-- And so does every run, under any guard. -/
theorem paced_run {G : LimitedTasks τ → WaitEvent τ → Prop} (h : Paced n start₀ s)
    (run : GuardedRun step G s events u) : Paced n start₀ u :=
  run.invariant (fun kept _ next => paced_step kept next) h

end Step

/-! ## The rate -/

/-- The weight that these turns were granted. -/
def granted (sections : List (LimiterSection τ)) : ℚ :=
  (sections.map fun x => if x.granted then (x.weight : ℚ) else 0).sum

/-- The clock readings of these turns. -/
def readings (sections : List (LimiterSection τ)) : Set ℚ := {t | ∃ x ∈ sections, x.now = t}

/-- What the visits have taken is what the turns were granted. -/
theorem taken_visits (sections : List (LimiterSection τ)) :
    taken (sections.map LimiterSection.visit) = granted sections := by
  unfold taken granted
  rw [List.map_map]
  rfl

/-- **The bucket of the first turns is stamped with the latest of their readings.** -/
theorem stamp_bucketAfter {sections : List (LimiterSection τ)} {latest : ℚ} (hn : 0 < n)
    (after : ∀ x ∈ sections, start₀ ≤ x.now) (h : IsGreatest (readings sections) latest) :
    (bucketAfter n start₀ sections).stamp = latest := by
  refine run_stamp_eq (perMs_pos hn) ?_ ?_
  · intro v hv
    obtain ⟨x, hx, rfl⟩ := List.mem_map.mp hv
    exact after x hx
  · have same : {t | ∃ v ∈ sections.map LimiterSection.visit, v.time = t} = readings sections := by
      ext t
      simp [readings, LimiterSection.visit]
    rw [same]
    exact h

/-- From any turn on, what is granted is what the bucket holds and what comes in. -/
theorem granted_le {pre mid post : List (LimiterSection τ)} {g : LimiterSection τ}
    {first last : ℚ} (hn : 0 < n) (h : Paced n start₀ s)
    (split : s.sections = pre ++ g :: mid ++ post)
    (hfirst : IsGreatest (readings (pre ++ [g])) first)
    (hlast : IsGreatest (readings (pre ++ g :: mid)) last) :
    granted (g :: mid) ≤ n + perMs n * (last - first) := by
  have after : ∀ x ∈ pre ++ g :: mid, start₀ ≤ x.now := by
    intro x hx
    refine (h.past x ?_).1
    rw [split]
    exact List.mem_append_left post hx
  have after' : ∀ x ∈ pre ++ [g], start₀ ≤ x.now := by
    intro x hx
    apply after x
    rw [← List.singleton_append, ← List.append_assoc]
    exact List.mem_append_left mid hx
  have honest := h.honest
  rw [split, List.map_append, honest_append] at honest
  have left : 0 ≤ (bucketAfter n start₀ (pre ++ g :: mid)).level :=
    honest.1.level_nonneg (Nat.cast_nonneg n)
  -- The bucket when `g` comes holds no more than the capacity.
  have before := honest.1
  rw [List.map_append, honest_append] at before
  have cut : (bucketAfter n start₀ pre).level ≤ n := before.1.level_le_cap le_rfl
  have bound : (TokenBucket.run (n : ℚ) (perMs n) (bucketAfter n start₀ pre)
      (g.visit :: mid.map LimiterSection.visit)).level + taken (g.visit :: mid.map _) ≤ _ :=
    taken_le_of_first cut
  -- the turns from `g` on, as visits to the bucket that `g` found
  have whole : TokenBucket.run (n : ℚ) (perMs n) (bucketAfter n start₀ pre)
      (g.visit :: mid.map LimiterSection.visit) = bucketAfter n start₀ (pre ++ g :: mid) := by
    simp [bucketAfter]
  have one : TokenBucket.run (n : ℚ) (perMs n) (bucketAfter n start₀ pre) [g.visit] =
      bucketAfter n start₀ (pre ++ [g]) := by
    simp [bucketAfter]
  rw [whole, one, stamp_bucketAfter hn after hlast, stamp_bucketAfter hn after' hfirst,
    ← List.map_cons, taken_visits] at bound
  linarith

/-! ## Sleeps -/

/-- The limiter was never filled at a time that is still to come. -/
theorem Paced.stamp_le (h : Paced n start₀ s) : s.limiter.bucket.stamp ≤ s.clock := by
  rw [h.replay]
  have found : (bucketAfter n start₀ s.sections).stamp = start₀ ∨
      ∃ v ∈ s.sections.map LimiterSection.visit,
        (bucketAfter n start₀ s.sections).stamp = v.time := run_stamp_mem
  rcases found with old | ⟨v, hv, heq⟩
  · rw [old]
    exact h.started
  · obtain ⟨x, hx, rfl⟩ := List.mem_map.mp hv
    rw [heq]
    exact (h.past x hx).2

/-- What a turn finds later, if nothing is granted in between. The others may still have visited
    the bucket, but a visit that takes nothing only fills it, so what has come in since then is
    there, up to the capacity. -/
theorem le_filled {mid : List (LimiterSection τ)} (hn : 0 < n) (hs : Paced n start₀ s)
    (hu : Paced n start₀ u) (more : u.sections = s.sections ++ mid)
    (none : ∀ x ∈ mid, x.granted = false) :
    min (s.limiter.tokens + perMs n * (now - s.clock)) n ≤ (u.limiter.filled now).level := by
  have bucket : u.limiter.bucket =
      TokenBucket.run (n : ℚ) (perMs n) s.limiter.bucket (mid.map LimiterSection.visit) := by
    rw [hu.replay, hs.replay, more, bucketAfter, List.map_append, run_append]
    rfl
  -- none of the visits takes anything, and the one at the end is the fill of the turn itself
  have untouched : ∀ v ∈ mid.map LimiterSection.visit ++ [⟨now, 0⟩], v.taken = 0 := by
    intro v hv
    rcases List.mem_append.mp hv with hv | hv
    · obtain ⟨x, hx, rfl⟩ := List.mem_map.mp hv
      exact if_neg (by simp [none x hx])
    · rw [List.mem_singleton.mp hv]
  have level := le_run_level (perMs_pos hn) hs.level_mem.2 untouched
  rw [run_append, ← bucket, run_cons, run_nil, visit_level, visit_stamp, sub_zero] at level
  have stamp : now ≤ (fill (n : ℚ) (perMs n) u.limiter.bucket now).stamp := by
    rw [fill_stamp (perMs_pos hn)]
    exact le_max_right _ _
  -- the fill may have come at a later time than the turn has read, and then there is more
  have elapsed : perMs n * (now - s.clock) ≤
      perMs n * ((fill (n : ℚ) (perMs n) u.limiter.bucket now).stamp - s.limiter.bucket.stamp) :=
    mul_le_mul_of_nonneg_left (by linarith [hs.stamp_le]) (perMs_nonneg n)
  unfold RateLimiter.filled
  rw [hu.capacity, hu.rate]
  refine le_trans (min_le_min_right _ ?_) level
  show s.limiter.bucket.level + _ ≤ _
  linarith

section Sleeps

variable [DecidableEq τ]

/-- A task that sleeps stays where it is, or has read the clock when its sleep was over. -/
def Sleeping (task : τ) (weight : ℕ) (notBefore : ℚ) (s : LimitedTasks τ) : Prop :=
  s.phase task = .loopHead weight notBefore ∨
    ∃ now, notBefore ≤ now ∧ s.phase task = .hasRead weight now

/-- A change of the phase of one task leaves the others in theirs. -/
theorem withPhase_phase_of_ne {other : τ} {phase : WaitPhase} (h : other ≠ task) :
    (s.withPhase task phase).phase other = s.phase other := Function.update_of_ne h ..

@[simp] theorem withPhase_phase_self {phase : WaitPhase} :
    (s.withPhase task phase).phase task = phase := Function.update_self ..

/-- And so does the turn of one task. -/
theorem enter_phase_of_ne {other : τ} (h : other ≠ task) :
    (s.enter task weight now).phase other = s.phase other := by
  unfold enter
  split
  · exact withPhase_phase_of_ne h
  · exact withPhase_phase_of_ne h

/-- Only the turn of the task itself ends its sleep. -/
theorem sleeping_step {notBefore : ℚ} (h : Sleeping task weight notBefore s)
    (own : e ≠ .enter task) (next : step s e = some u) : Sleeping task weight notBefore u := by
  obtain ⟨ms, -, -, rfl⟩ | ⟨other, w, -, hphase, rfl⟩ | ⟨other, w, due, -, hphase, hdue, rfl⟩ |
    ⟨other, w, now, rfl, -, rfl⟩ := step_cases next
  · exact h
  · -- a task that calls is outside, and one that sleeps is not
    have ne : task ≠ other := by
      rintro rfl
      rcases h with h | ⟨_, -, h⟩ <;> rw [hphase] at h <;> cases h
    unfold Sleeping
    rw [withPhase_phase_of_ne ne]
    exact h
  · by_cases same : task = other
    · subst same
      rcases h with h | ⟨_, -, h⟩
      · rw [hphase] at h
        cases h
        exact .inr ⟨s.clock, hdue, withPhase_phase_self⟩
      · rw [hphase] at h
        cases h
    · unfold Sleeping
      rw [withPhase_phase_of_ne same]
      exact h
  · have ne : task ≠ other := by
      rintro rfl
      exact own rfl
    unfold Sleeping
    rw [enter_phase_of_ne ne]
    exact h

/-- **A task that has slept is granted its weight**, if nothing was granted to others. When its
    turn comes it has read the clock after its sleep was over, so what was missing has come in. -/
theorem granted_after_sleep {notBefore : ℚ} {mid : List (LimiterSection τ)}
    {v : LimitedTasks τ} (hn : 0 < n) (hs : Paced n start₀ s) (hu : Paced n start₀ u)
    (sleeping : Sleeping task weight notBefore u) (fits : (weight : ℚ) ≤ n)
    (enough : (weight : ℚ) ≤ s.limiter.tokens + perMs n * (notBefore - s.clock))
    (more : u.sections = s.sections ++ mid) (none : ∀ x ∈ mid, x.granted = false)
    (next : step u (.enter task) = some v) :
    v.phase task = .outside ∧
      ∃ now, v.sections = u.sections ++ [⟨task, weight, now, true⟩] := by
  obtain ⟨_, h, -⟩ | ⟨_, _, h, -⟩ | ⟨_, _, _, h, -⟩ | ⟨_, weight', now, h, hread, rfl⟩ :=
    step_cases next <;> cases h
  rcases sleeping with asleep | ⟨read, due, asleep⟩ <;> rw [hread] at asleep <;> cases asleep
  have later : perMs n * (notBefore - s.clock) ≤ perMs n * (now - s.clock) :=
    mul_le_mul_of_nonneg_left (by linarith) (perMs_nonneg n)
  have found : (weight : ℚ) ≤ (u.limiter.filled now).level :=
    le_trans (le_min (by linarith) fits) (le_filled hn hs hu more none)
  rw [enter_of_le hu.rate_nonneg found]
  exact ⟨withPhase_phase_self, now, rfl⟩

/-! ## Every run -/

/-- **The rate is kept**: the tokens stay within the capacity, and what is granted from any turn
    to any later one is at most the capacity and what comes in between the latest readings. -/
structure RateKept (s : LimitedTasks τ) : Prop where
  tokens : 0 ≤ s.limiter.tokens ∧ s.limiter.tokens ≤ s.limiter.capacity
  rate : ∀ pre g mid post first last, s.sections = pre ++ g :: mid ++ post →
    IsGreatest (readings (pre ++ [g])) first → IsGreatest (readings (pre ++ g :: mid)) last →
      granted (g :: mid) ≤ s.limiter.capacity + s.limiter.tokensPerMs * (last - first)

/-- **Sleeps are long enough**: a task that is told to sleep and does not meet a grant to another
    before its next turn is granted its weight there. -/
def SleepsSuffice (s : LimitedTasks τ) : Prop :=
  ∀ task weight now waitMs, s.phase task = .hasRead weight now →
    (weight : ℚ) ≤ s.limiter.capacity → (s.limiter.attempt weight now).1 = .sleep waitMs →
    ∀ u events v mid w, step s (.enter task) = some u →
      GuardedRun step (fun _ e => e ≠ .enter task) u events v →
      v.sections = u.sections ++ mid → (∀ x ∈ mid, x.granted = false) →
      step v (.enter task) = some w →
        w.phase task = .outside ∧
          ∃ read, w.sections = v.sections ++ [⟨task, weight, read, true⟩]

/-- Sleeps are long enough in every state that the invariant holds of. The task is told how much is
    missing at the rate of the limiter, sleeps for as long, and finds it there in the end. -/
theorem Paced.sleepsSuffice (hn : 0 < n) (h : Paced n start₀ s) : SleepsSuffice s := by
  intro task weight now waitMs hread fits told u events v mid w first run more none next
  have hu := paced_step h first
  have hv := paced_run hu run
  obtain ⟨_, heq, -⟩ | ⟨_, _, heq, -⟩ | ⟨_, _, _, heq, -⟩ | ⟨_, weight', now', heq, hread', rfl⟩ :=
    step_cases first <;> cases heq
  rw [hread] at hread'
  cases hread'
  -- it was told to sleep, so the bucket held too little
  have short : (s.limiter.filled now).level < weight := by
    by_contra enough
    rw [RateLimiter.attempt_of_le h.rate_nonneg (not_lt.mp enough)] at told
    cases told
  rw [enter_of_lt h.rate_nonneg short] at hu run more
  -- the others cannot end its sleep
  have sleeping := run.invariant (fun kept own next => sleeping_step kept own next)
    (show Sleeping task weight _ _ from .inl withPhase_phase_self)
  refine granted_after_sleep hn hu hv sleeping (by rwa [← h.capacity]) ?_ more none next
  -- The sleep is what is missing, at the rate of the limiter.
  have nonneg : 0 ≤ (s.limiter.filled now).level := h.filled_nonneg
  have slept : (weight : ℚ) - (s.limiter.filled now).level ≤ perMs n * (RateLimiter.waitMs
      (weight - (s.limiter.filled now).level) (perMs n) : ℕ) := by
    apply RateLimiter.le_waitMs (perMs_pos hn)
    rw [div_le_iff₀ (perMs_pos hn), perMs, mul_div_cancel₀ _ (by norm_num)]
    rw [h.capacity] at fits
    linarith
  have kept : (s.limiter.visited ⟨now, 0⟩).level = (s.limiter.filled now).level := sub_zero _
  show (weight : ℚ) ≤ (s.limiter.visited ⟨now, 0⟩).level + perMs n * (s.clock + _ - s.clock)
  rw [kept, h.rate, add_sub_cancel_left]
  linarith

/-- **The limiter keeps its rate**, in every order of turns and readings. Both halves hold of any
    state that the invariant holds of, and the invariant holds all along the run. -/
theorem rate_guarantee (hn : 0 < n) (run : Run step (start n start₀) events s) :
    RateKept s ∧ SleepsSuffice s := by
  have h : Paced n start₀ s := paced_run paced_start run
  refine ⟨⟨h.tokens_mem, ?_⟩, h.sleepsSuffice hn⟩
  intro pre g mid post first last split hfirst hlast
  rw [h.capacity, h.rate]
  exact granted_le hn h split hfirst hlast

end Sleeps

/-! ## Two tasks -/

/-- The second task reads the clock later and gets the locks first; then the first one does. -/
def outOfOrder : List (WaitEvent Bool) :=
  [.call false 600, .call true 800, .readClock false, .elapse 5, .readClock true, .enter true,
    .enter false]

theorem sample_rate_guarantee :
    ∃ s, Run step (start 1200 0) outOfOrder s ∧
      s.sections.map LimiterSection.granted = [true, false] ∧ RateKept s ∧ SleepsSuffice s := by
  have seen : (outOfOrder.foldlM step (start 1200 0)).map
      (fun s => s.sections.map LimiterSection.granted) = some [true, false] := by decide +kernel
  obtain ⟨s, hs, sections⟩ := Option.map_eq_some_iff.mp seen
  have run : Run step (start 1200 0) outOfOrder s := Run.of_foldlM hs
  obtain ⟨kept, suffice⟩ := rate_guarantee (by norm_num) run
  exact ⟨s, run, sections, kept, suffice⟩

end LimitedTasks

end ArbEngine
