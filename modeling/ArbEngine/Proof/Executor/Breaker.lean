import Mathlib.Data.List.TakeWhile
import Mathlib.Tactic.Linarith
import ArbEngine.Executor.Recovery
import ArbEngine.Lib.Run

/-!
# The circuit breaker over a run

The breaker keeps the failures of its window in a queue that it prunes from the front, and only
when a failure is recorded; the time of its trip stays until a query after the cooldown clears
both. A run here is any sequence of the three calls at times that do not go back.

`Watched` says what the queue is at any moment: a tail of the failures recorded since the last
reset, short of failures that are too old only. So a failure counts exactly the failures of its
window (`Watched.failures_recordFailure`), and the breaker trips exactly where they are enough.

What the lazy reset costs is said by `bursts_honoured_iff`: a trip whose cooldown is over and
that nobody has asked about since swallows the next one.
-/

namespace ArbEngine

/-- The calls of a breaker, each with the time that its clock says. -/
inductive BreakerEvent where
  | recordFailure (time : ℚ)
  | recordSuccess (time : ℚ)
  | isOpen (time : ℚ)
deriving DecidableEq, Repr

def BreakerEvent.time : BreakerEvent → ℚ
  | .recordFailure t => t
  | .recordSuccess t => t
  | .isOpen t => t

/-- The breaker, the time of its last call, and what has been recorded since its last reset. The
    record is not in the source; it is what the queue is compared with. -/
structure BreakerRun where
  breaker : CircuitBreaker
  now : ℚ
  recorded : List ℚ
deriving DecidableEq, Repr

namespace BreakerRun

def start (config : CircuitBreakerConfig) (now : ℚ) : BreakerRun where
  breaker := CircuitBreaker.new (some config)
  now := now
  recorded := []

/-- What a call does. A query clears the record where it clears the breaker. -/
def next (r : BreakerRun) : BreakerEvent → BreakerRun
  | .recordFailure t =>
      { breaker := r.breaker.recordFailure t, now := t, recorded := r.recorded ++ [t] }
  | .recordSuccess t => { r with breaker := r.breaker.recordSuccess, now := t }
  | .isOpen t =>
      let after := (r.breaker.isOpen t).2
      { breaker := after, now := t
        recorded := if r.breaker.trippedAt.isSome ∧ after.trippedAt.isNone then []
          else r.recorded }

/-- The clock does not go back. -/
def step (r : BreakerRun) (e : BreakerEvent) : Option BreakerRun :=
  if r.now ≤ e.time then some (r.next e) else none

theorem step_eq_some {r s : BreakerRun} {e : BreakerEvent} :
    step r e = some s ↔ r.now ≤ e.time ∧ s = r.next e := by
  unfold step
  split
  · rename_i later
    simp [later, eq_comm]
  · rename_i earlier
    simp [earlier]

@[simp] theorem next_now (r : BreakerRun) (e : BreakerEvent) : (r.next e).now = e.time := by
  cases e <;> rfl

/-- The failures since the last reset that lie in the window before `t`. -/
def recent (r : BreakerRun) (t : ℚ) : List ℚ :=
  r.recorded.filter fun f => t - r.breaker.config.windowSeconds < f ∧ f ≤ t

/-! ## What one call does -/

section Calls

variable {cb : CircuitBreaker} {t t₀ : ℚ}

/-- A call never changes the configuration. -/
@[simp] theorem recordFailure_config : (cb.recordFailure t).config = cb.config := by
  unfold CircuitBreaker.recordFailure CircuitBreaker.trip CircuitBreaker.cleanupOldFailures
  dsimp only
  split_ifs <;> rfl

/-- The queue after a failure: the failure at its end, and at its front what is too old dropped. -/
@[simp] theorem recordFailure_failures : (cb.recordFailure t).failures =
    (cb.failures ++ [t]).dropWhile (· ≤ t - cb.config.windowSeconds) := by
  unfold CircuitBreaker.recordFailure CircuitBreaker.trip CircuitBreaker.cleanupOldFailures
  dsimp only
  split_ifs <;> rfl

/-- A trip keeps its time. A failure sets it only where the breaker has not tripped, and enough
    failures are in the queue. -/
theorem recordFailure_trippedAt : (cb.recordFailure t).trippedAt =
    if cb.config.failureThreshold ≤ (cb.recordFailure t).failures.length ∧
      cb.trippedAt = none then some t else cb.trippedAt := by
  rw [recordFailure_failures]
  unfold CircuitBreaker.recordFailure CircuitBreaker.trip CircuitBreaker.cleanupOldFailures
  dsimp only
  split_ifs <;> simp_all

/-- A breaker that has not tripped is closed, and stays as it is. -/
theorem isOpen_of_none (h : cb.trippedAt = none) : cb.isOpen t = (false, cb) := by
  unfold CircuitBreaker.isOpen
  rw [h]

/-- One that has tripped is open until its cooldown is over. -/
theorem isOpen_of_cooling (h : cb.trippedAt = some t₀) (ht : t ≤ t₀ + cb.config.cooldownSeconds) :
    cb.isOpen t = (true, cb) := by
  unfold CircuitBreaker.isOpen
  rw [h]
  exact if_neg (by linarith)

/-- After that the query makes it new, queue and all. -/
theorem isOpen_of_cooled (h : cb.trippedAt = some t₀) (ht : t₀ + cb.config.cooldownSeconds < t) :
    cb.isOpen t = (false, CircuitBreaker.new (some cb.config)) := by
  unfold CircuitBreaker.isOpen
  rw [h]
  exact if_pos (by linarith)

@[simp] theorem isOpen_config : (cb.isOpen t).2.config = cb.config := by
  unfold CircuitBreaker.isOpen
  split
  · split <;> rfl
  · rfl

end Calls

theorem next_config (r : BreakerRun) (e : BreakerEvent) :
    (r.next e).breaker.config = r.breaker.config := by
  cases e with
  | recordFailure t => exact recordFailure_config
  | recordSuccess t => rfl
  | isOpen t => exact isOpen_config

/-! ## The queue is what is left of the record -/

/-- In a list that does not go back, the front that is dropped is all there is to drop. This is
    where it matters that the clock does not go back. -/
theorem dropWhile_eq_filter {cutoff : ℚ} {l : List ℚ} (sorted : l.Pairwise (· ≤ ·)) :
    l.dropWhile (· ≤ cutoff) = l.filter (cutoff < ·) := by
  induction l with
  | nil => rfl
  | cons x l ih =>
    obtain ⟨first, rest⟩ := List.pairwise_cons.mp sorted
    by_cases old : x ≤ cutoff
    · rw [List.dropWhile_cons_of_pos (by simpa using old), ih rest,
        List.filter_cons_of_neg (by simpa using old)]
    · rw [List.dropWhile_cons_of_neg (by simpa using old), eq_comm, List.filter_eq_self]
      intro y hy
      rcases List.mem_cons.mp hy with rfl | hy
      · simpa using old
      · have := first y hy
        simp only [decide_eq_true_eq]
        linarith

/-- The queue is the end of the record; what is missing from it has left the window. -/
structure Watched (config : CircuitBreakerConfig) (r : BreakerRun) : Prop where
  settings : r.breaker.config = config
  known : ∀ f ∈ r.recorded, f ≤ r.now
  sorted : r.recorded.Pairwise (· ≤ ·)
  kept : ∃ old, r.recorded = old ++ r.breaker.failures ∧
    ∀ f ∈ old, f ≤ r.now - config.windowSeconds

section Watching

variable {config : CircuitBreakerConfig} {r s : BreakerRun} {t : ℚ}

theorem watched_start (now : ℚ) : Watched config (start config now) where
  settings := rfl
  known := by simp [start]
  sorted := .nil
  kept := ⟨[], rfl, by simp⟩

/-- A failure is recorded last. -/
theorem Watched.sorted_snoc (h : Watched config r) (ht : r.now ≤ t) :
    (r.recorded ++ [t]).Pairwise (· ≤ ·) := by
  rw [List.pairwise_append]
  refine ⟨h.sorted, List.pairwise_singleton _ _, ?_⟩
  intro f hf u hu
  rw [List.mem_singleton.mp hu]
  exact (h.known f hf).trans ht

/-- A failure goes to the end of both, and what the queue drops at its front has left the window.
    -/
theorem Watched.recordFailure (h : Watched config r) (ht : r.now ≤ t) :
    Watched config (r.next (.recordFailure t)) := by
  obtain ⟨old, recorded, left⟩ := h.kept
  refine ⟨recordFailure_config.trans h.settings, ?_, h.sorted_snoc ht, ?_⟩
  · intro f hf
    rcases List.mem_append.mp hf with hf | hf
    · exact (h.known f hf).trans ht
    · exact (List.mem_singleton.mp hf).le
  · -- what was missing before and what is dropped now
    refine ⟨old ++ (r.breaker.failures ++ [t]).takeWhile (· ≤ t - config.windowSeconds), ?_, ?_⟩
    · show r.recorded ++ [t] = _
      rw [show (r.next (.recordFailure t)).breaker = r.breaker.recordFailure t from rfl,
        recordFailure_failures, h.settings, List.append_assoc, List.takeWhile_append_dropWhile,
        recorded, List.append_assoc]
    · intro f hf
      rcases List.mem_append.mp hf with hf | hf
      · have := left f hf
        show f ≤ t - _
        linarith
      · show f ≤ t - _
        simpa using List.mem_takeWhile_imp hf

/-- A query forgets everything or nothing. It forgets where the cooldown of a tripped breaker is
    over, and what is left then is a breaker that has just been made. -/
theorem Watched.isOpen (h : Watched config r) (ht : r.now ≤ t) :
    Watched config (r.next (.isOpen t)) := by
  obtain ⟨old, recorded, left⟩ := h.kept
  -- the record is cleared only where a tripped breaker comes back without a trip
  have stays : (r.breaker.isOpen t).2 = r.breaker → (r.next (.isOpen t)) =
      { r with now := t } := by
    intro same
    unfold next
    simp only [same]
    rw [if_neg]
    rintro ⟨tripped, clear⟩
    cases hcb : r.breaker.trippedAt <;> simp_all
  -- later than before, less of what was recorded is within the window
  have keeps : Watched config { r with now := t } :=
    ⟨h.settings, fun f hf => (h.known f hf).trans ht, h.sorted, old, recorded, fun f hf => by
      have := left f hf
      show f ≤ t - _
      linarith⟩
  cases tripped : r.breaker.trippedAt with
  | none =>
    rw [stays (by rw [isOpen_of_none tripped])]
    exact keeps
  | some t₀ =>
    rcases le_or_gt t (t₀ + r.breaker.config.cooldownSeconds) with cooling | cooled
    · rw [stays (by rw [isOpen_of_cooling tripped cooling])]
      exact keeps
    · have forgotten : r.next (.isOpen t) = start config t := by
        unfold next start
        simp only [isOpen_of_cooled tripped cooled, h.settings]
        simp [tripped, CircuitBreaker.new]
      rw [forgotten]
      exact watched_start t

/-- Every call keeps it. -/
theorem Watched.step (h : Watched config r) {e : BreakerEvent} (hs : r.step e = some s) :
    Watched config s := by
  obtain ⟨ht, rfl⟩ := step_eq_some.mp hs
  cases e with
  | recordFailure t => exact h.recordFailure ht
  | recordSuccess t =>
    obtain ⟨old, recorded, left⟩ := h.kept
    refine ⟨h.settings, fun f hf => (h.known f hf).trans ht, h.sorted, old, recorded, ?_⟩
    intro f hf
    have := left f hf
    show f ≤ t - _
    change r.now ≤ t at ht
    linarith
  | isOpen t => exact h.isOpen ht

/-- And so it holds all along a run. -/
theorem watched_run {t₀ : ℚ} {events : List BreakerEvent}
    (run : Run step (start config t₀) events r) : Watched config r := by
  apply run.invariant (I := Watched config)
  · intro s t e h _ hs
    exact h.step hs
  · exact watched_start t₀

/-- **A failure leaves the failures of its window in the queue**, itself included. -/
theorem Watched.failures_recordFailure (h : Watched config r) (ht : r.now ≤ t) :
    (r.breaker.recordFailure t).failures = (r.next (.recordFailure t)).recent t := by
  obtain ⟨old, recorded, left⟩ := h.kept
  have sorted := h.sorted_snoc ht
  rw [recorded, List.append_assoc, List.pairwise_append] at sorted
  rw [recordFailure_failures, dropWhile_eq_filter sorted.2.1]
  unfold recent
  show _ = (r.recorded ++ [t]).filter fun f =>
    t - (r.breaker.recordFailure t).config.windowSeconds < f ∧ f ≤ t
  rw [recordFailure_config, recorded, List.append_assoc, List.filter_append old]
  -- what the queue has lost is outside of the window
  have gone : old.filter (fun f => t - r.breaker.config.windowSeconds < f ∧ f ≤ t) = [] := by
    rw [List.filter_eq_nil_iff]
    intro f hf
    have := left f hf
    rw [h.settings]
    simp only [decide_eq_true_eq, not_and]
    intro inside
    linarith
  rw [gone, List.nil_append]
  apply List.filter_congr
  intro f hf
  -- and nothing is later than the failure itself
  have known : f ≤ t := by
    rcases List.mem_append.mp hf with hf | hf
    · exact (h.known f (by rw [recorded]; exact List.mem_append_right _ hf)).trans ht
    · exact (List.mem_singleton.mp hf).le
  simp [known]

end Watching

/-! ## Soundness -/

/-- **The breaker trips only for failures of its window**, and only when one is recorded. -/
def TripsSoundly (r : BreakerRun) : Prop :=
  ∀ e s, step r e = some s → r.breaker.trippedAt = none →
    ∀ t₀, s.breaker.trippedAt = some t₀ → e = .recordFailure t₀ ∧
      s.breaker.config.failureThreshold ≤ (s.recent t₀).length

/-- **Whatever is recorded, the breaker is open until its cooldown is over.** -/
def StaysOpen (r : BreakerRun) (t₀ : ℚ) : Prop :=
  ∀ later s, Run step r later s → ∀ t, s.now ≤ t →
    t ≤ t₀ + r.breaker.config.cooldownSeconds → (s.breaker.isOpen t).1 = true

/-- **The first query after the cooldown finds the breaker closed**, and leaves it as new. -/
def Reopens (r : BreakerRun) (t₀ : ℚ) : Prop :=
  ∀ later s, Run step r later s →
    (∀ t, .isOpen t ∈ later → t ≤ t₀ + r.breaker.config.cooldownSeconds) →
    ∀ t, t₀ + r.breaker.config.cooldownSeconds < t →
      s.breaker.isOpen t = (false, CircuitBreaker.new (some r.breaker.config)) ∧
        (s.next (.isOpen t)).recorded = []

section Soundness

variable {config : CircuitBreakerConfig} {r s : BreakerRun} {later : List BreakerEvent} {t₀ : ℚ}

/-- The calls of a run are not later than its end. -/
theorem time_le_now (run : Run step r later s) : ∀ e ∈ later, e.time ≤ s.now := by
  induction run with
  | nil => simp
  | snoc _ _ next ih =>
    obtain ⟨ht, rfl⟩ := step_eq_some.mp next
    intro e he
    rw [next_now]
    rcases List.mem_append.mp he with he | he
    · exact (ih e he).trans ht
    · rw [List.mem_singleton.mp he]

/-- A trip stays where it is until somebody asks after the cooldown. Failures do not move it,
    successes do not touch it, and earlier queries find it cooling. -/
theorem tripped_run (run : Run step r later s) (tripped : r.breaker.trippedAt = some t₀)
    (asked : ∀ t, .isOpen t ∈ later → t ≤ t₀ + r.breaker.config.cooldownSeconds) :
    s.breaker.trippedAt = some t₀ ∧ s.breaker.config = r.breaker.config := by
  induction run with
  | nil => exact ⟨tripped, rfl⟩
  | @snoc u v es e _ _ next ih =>
    obtain ⟨stands, same⟩ := ih fun t ht => asked t (List.mem_append_left _ ht)
    obtain ⟨-, rfl⟩ := step_eq_some.mp next
    refine ⟨?_, (next_config u e).trans same⟩
    cases e with
    | recordFailure t =>
      show (u.breaker.recordFailure t).trippedAt = _
      rw [recordFailure_trippedAt, if_neg (by simp [stands]), stands]
    | recordSuccess t => exact stands
    | isOpen t =>
      have cooling := asked t (List.mem_append_right _ (List.mem_singleton.mpr rfl))
      rw [← same] at cooling
      show (u.breaker.isOpen t).2.trippedAt = _
      rw [isOpen_of_cooling stands cooling, stands]

/-- Only a failure sets a trip, and it does so with the failures of its window in the queue. -/
theorem trips_soundly (h : Watched config r) : TripsSoundly r := by
  intro e s hs clear t₀ tripped
  obtain ⟨ht, rfl⟩ := step_eq_some.mp hs
  cases e with
  | recordFailure t =>
    have counted := h.failures_recordFailure (t := t) ht
    change (r.breaker.recordFailure t).trippedAt = some t₀ at tripped
    rw [recordFailure_trippedAt] at tripped
    split at tripped
    · rename_i enough
      cases tripped
      rw [next_config, ← counted]
      exact ⟨rfl, enough.1⟩
    · rw [clear] at tripped
      cases tripped
  | recordSuccess t =>
    change r.breaker.trippedAt = some t₀ at tripped
    rw [clear] at tripped
    cases tripped
  | isOpen t =>
    change (r.breaker.isOpen t).2.trippedAt = some t₀ at tripped
    rw [isOpen_of_none clear, clear] at tripped
    cases tripped

/-- Until the cooldown is over no query can have cleared the trip, so this one finds it. -/
theorem stays_open (tripped : r.breaker.trippedAt = some t₀) : StaysOpen r t₀ := by
  intro later s run t ht cooling
  have asked : ∀ u, .isOpen u ∈ later → u ≤ t₀ + r.breaker.config.cooldownSeconds := by
    intro u hu
    exact ((time_le_now run _ hu).trans ht).trans cooling
  obtain ⟨stands, same⟩ := tripped_run run tripped asked
  rw [isOpen_of_cooling stands (by rw [same]; exact cooling)]

/-- After it the first query finds the old trip, whatever was recorded since, and clears it. -/
theorem reopens (tripped : r.breaker.trippedAt = some t₀) : Reopens r t₀ := by
  intro later s run asked t cooled
  obtain ⟨stands, same⟩ := tripped_run run tripped asked
  have answer := isOpen_of_cooled stands (by rw [same]; exact cooled)
  refine ⟨by rw [answer, same], ?_⟩
  unfold next
  simp only [answer]
  rw [if_pos]
  exact ⟨by rw [stands]; rfl, rfl⟩

/-- **The breaker is sound in every run.** -/
theorem breaker_sound {now : ℚ} {events : List BreakerEvent}
    (run : Run step (start config now) events r) :
    TripsSoundly r ∧ ∀ t₀, r.breaker.trippedAt = some t₀ → StaysOpen r t₀ ∧ Reopens r t₀ :=
  ⟨trips_soundly (watched_run run), fun _ tripped => ⟨stays_open tripped, reopens tripped⟩⟩

end Soundness

/-- One failure is enough, and the cooldown is a tenth of a second. -/
def quickBreaker : CircuitBreakerConfig where
  failureThreshold := 1
  windowSeconds := 60
  cooldownSeconds := 1 / 10

/-- A failure, and one a second later, with a query in between. -/
def askedBetween : List BreakerEvent := [.recordFailure 0, .isOpen 1, .recordFailure 1]

/-- Both failures trip the breaker. -/
theorem sample_breaker_sound :
    ∃ r, Run step (start quickBreaker 0) askedBetween r ∧ r.breaker.trippedAt = some 1 ∧
      TripsSoundly r ∧ StaysOpen r 1 ∧ Reopens r 1 := by
  have seen : (askedBetween.foldlM step (start quickBreaker 0)).map
      (fun r => r.breaker.trippedAt) = some (some 1) := by decide +kernel
  obtain ⟨r, hr, tripped⟩ := Option.map_eq_some_iff.mp seen
  have run : Run step (start quickBreaker 0) askedBetween r := Run.of_foldlM hr
  obtain ⟨trips, open_⟩ := breaker_sound run
  exact ⟨r, run, tripped, trips, open_ 1 tripped⟩

/-! ## Completeness -/

/-- A failure at `t` would be one too many in its window. -/
def Enough (r : BreakerRun) (t : ℚ) : Prop :=
  r.breaker.config.failureThreshold ≤ ((r.next (.recordFailure t)).recent t).length

/-- **A burst of failures is honoured**: asked at once, the breaker is open. -/
def Honoured (r : BreakerRun) (t : ℚ) : Prop :=
  r.Enough t → ((r.breaker.recordFailure t).isOpen t).1 = true

/-- No burst falls on an earlier trip whose cooldown is over and that nobody has asked about. -/
def NotSwallowed (r : BreakerRun) (t : ℚ) : Prop :=
  r.Enough t → ∀ t₀, r.breaker.trippedAt = some t₀ →
    t ≤ t₀ + r.breaker.config.cooldownSeconds

/-- What holds of every failure of a run, and of the state that it finds. -/
def AtEveryFailure (config : CircuitBreakerConfig) (now : ℚ) (events : List BreakerEvent)
    (P : BreakerRun → ℚ → Prop) : Prop :=
  ∀ past t rest r, events = past ++ .recordFailure t :: rest →
    Run step (start config now) past r → P r t

section Completeness

variable {config : CircuitBreakerConfig} {r : BreakerRun} {t now : ℚ}
  {events : List BreakerEvent}

/-- **One failure**: the trip it makes is its own, or it is lost with the old one. Asked at once,
    the breaker is open by a trip of now or by an old one that is still cooling; an old one that is
    not makes the query reset everything, the new failure included. -/
theorem honoured_iff (h : Watched config r) (ht : r.now ≤ t) (cooldown : 0 < config.cooldownSeconds) :
    Honoured r t ↔ NotSwallowed r t := by
  have counted := h.failures_recordFailure ht
  unfold Honoured NotSwallowed Enough
  rw [← counted]
  apply imp_congr_right
  intro enough
  have after : (r.breaker.recordFailure t).trippedAt = _ := recordFailure_trippedAt
  have same : (r.breaker.recordFailure t).config = r.breaker.config := recordFailure_config
  cases tripped : r.breaker.trippedAt with
  -- no old trip: the failure sets one
  | none =>
    rw [if_pos ⟨enough, tripped⟩] at after
    refine iff_of_true ?_ (fun _ h => by cases h)
    rw [isOpen_of_cooling after]
    rw [same, h.settings]
    linarith
  -- an old trip keeps its time, so it decides
  | some t₀ =>
    rw [if_neg (by simp [tripped]), tripped] at after
    simp only [Option.some.injEq, forall_eq']
    rcases le_or_gt t (t₀ + r.breaker.config.cooldownSeconds) with cooling | cooled
    · refine iff_of_true ?_ cooling
      rw [isOpen_of_cooling after (by rw [same]; exact cooling)]
    · refine iff_of_false ?_ (not_le.mpr cooled)
      rw [isOpen_of_cooled after (by rw [same]; exact cooled)]
      exact Bool.false_ne_true

/-- **The bursts of a run are honoured exactly where none of them is swallowed by an old trip.** -/
theorem bursts_honoured_iff (cooldown : 0 < config.cooldownSeconds)
    (run : Run step (start config now) events r) :
    AtEveryFailure config now events Honoured ↔
      AtEveryFailure config now events NotSwallowed := by
  unfold AtEveryFailure
  refine forall₄_congr fun past t rest s => forall₂_congr fun split past_run => ?_
  rw [split] at run
  -- the state that the failure finds is the one that its past leads to
  obtain ⟨u, past_run', after⟩ := run.split
  obtain rfl := past_run.deterministic past_run'
  rw [← List.singleton_append] at after
  obtain ⟨v, one, -⟩ := after.split
  obtain ⟨-, next⟩ := one.singleton_inv
  exact honoured_iff (watched_run past_run) (step_eq_some.mp next).1 cooldown

end Completeness

/-- The failure that comes after a query finds the old trip cleared. -/
theorem sample_bursts_honoured : AtEveryFailure quickBreaker 0 askedBetween Honoured := by
  have enabled : (askedBetween.foldlM step (start quickBreaker 0)).isSome := by decide +kernel
  obtain ⟨r, hr⟩ := Option.isSome_iff_exists.mp enabled
  refine (bursts_honoured_iff (r := r) (by decide +kernel) (Run.of_foldlM hr)).mpr ?_
  intro past t rest s split run _ t₀ tripped
  have clear : s.breaker.trippedAt = none := by
    -- the failures are the first event and the third
    rcases past with _ | ⟨a, _ | ⟨b, _ | ⟨c, past⟩⟩⟩
    · rw [run.nil_inv]
      rfl
    · simp [askedBetween] at split
    · obtain ⟨rfl, rfl, -⟩ : BreakerEvent.recordFailure 0 = a ∧ BreakerEvent.isOpen 1 = b ∧ _ := by
        simpa [askedBetween] using split
      have two : [BreakerEvent.recordFailure 0, .isOpen 1].foldlM step (start quickBreaker 0) =
          some (start quickBreaker 1) := by decide +kernel
      rw [run.deterministic (Run.of_foldlM two)]
      rfl
    · simp [askedBetween] at split
  rw [clear] at tripped
  cases tripped

/-- **Without the query the second failure is swallowed**: it is one too many, and the breaker
    is closed. -/
theorem sample_burst_swallowed :
    ∃ r, Run step (start quickBreaker 0) [.recordFailure 0] r ∧ r.Enough 1 ∧
      ((r.breaker.recordFailure 1).isOpen 1).1 = false ∧
      ¬ AtEveryFailure quickBreaker 0 [.recordFailure 0, .recordFailure 1] Honoured := by
  have one : [BreakerEvent.recordFailure 0].foldlM step (start quickBreaker 0) =
      some ((start quickBreaker 0).next (.recordFailure 0)) := by decide +kernel
  have run := Run.of_foldlM one
  have enough : ((start quickBreaker 0).next (.recordFailure 0)).Enough 1 := by
    unfold Enough
    decide +kernel
  have closed : ((((start quickBreaker 0).next (.recordFailure 0)).breaker.recordFailure
      1).isOpen 1).1 = false := by decide +kernel
  refine ⟨_, run, enough, closed, ?_⟩
  intro honoured
  have open_ := honoured [.recordFailure 0] 1 [] _ rfl run enough
  rw [closed] at open_
  cases open_

end BreakerRun

end ArbEngine
