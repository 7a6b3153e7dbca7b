import ArbEngine.Chain.Client
import Mathlib.Tactic.NormNum

/-!
# Bounded retries

The loop counts an attempt before it looks whether another one is allowed, and reckons its
backoff from the same counter. Each iteration either ends the loop (`retry_last`), overflows
(`retry_misfit`) or sleeps and goes on (`retry_next`); `retry_prefix` puts iterations together,
and `executeWithRetry_bounded` says of every client and every sequence of answers what the whole
call does.
-/

namespace ArbEngine
namespace ChainClient

variable {α : Type} {client : ChainClient} {f : ℕ → Except ChainError α} {i k fuel : ℕ}
  {attempt : U32}

/-- The call came back with an error that is worth another one. -/
def Retryable (f : ℕ → Except ChainError α) (i : ℕ) : Prop :=
  ∃ e, f i = .error e ∧ e.isRetryable = true

/-- No call is made after this one. -/
def Last (client : ChainClient) (f : ℕ → Except ChainError α) (i : ℕ) : Prop :=
  client.maxRetries.toNat ≤ i ∨ ¬ Retryable f i

/-- The backoff before retry `k`, counted from zero, can be reckoned. -/
def Fits (client : ChainClient) (k : ℕ) : Prop :=
  k < 64 ∧ client.baseBackoffMs.toNat * 2 ^ k < 2 ^ 64

theorem fits_of_le (hretries : client.maxRetries.toNat ≤ 50)
    (hbase : client.baseBackoffMs.toNat ≤ 10 ^ 3) (hk : k < client.maxRetries.toNat) :
    client.Fits k := by
  refine ⟨by omega, ?_⟩
  calc client.baseBackoffMs.toNat * 2 ^ k
      ≤ 10 ^ 3 * 2 ^ 49 :=
        Nat.mul_le_mul hbase (Nat.pow_le_pow_right (by norm_num) (by omega))
    _ < 2 ^ 64 := by norm_num

/-! ## One iteration -/

theorem backoff_of_fits (hattempt : attempt.toNat = k + 1) (h : client.Fits k) :
    ∃ ms, client.backoff attempt = .ok ms ∧ ms.toNat = client.baseBackoffMs.toNat * 2 ^ k := by
  obtain ⟨exponent, hexponent, value⟩ :=
    Word.checkedSub_of_le (show (1#32).toNat ≤ attempt.toNat by rw [hattempt]; simp)
  have value : exponent.toNat = k := by
    rw [value, hattempt]
    rfl
  have factor : (BitVec.ofNat 64 (2 ^ k)).toNat = 2 ^ k := by
    rw [BitVec.toNat_ofNat, Nat.mod_eq_of_lt (Nat.pow_lt_pow_right (by norm_num) h.1)]
  obtain ⟨ms, hms, product⟩ := Word.checkedMul_of_lt
    (show client.baseBackoffMs.toNat * (BitVec.ofNat 64 (2 ^ k)).toNat < 2 ^ 64 by
      rw [factor]
      exact h.2)
  refine ⟨ms, ?_, by rw [product, factor]⟩
  unfold backoff
  rw [hexponent, Outcome.unwrap_some, Outcome.ok_bind, value, Outcome.guardPanic, if_pos h.1,
    Outcome.ok_bind, hms, Outcome.unwrap_some]

theorem backoff_of_not_fits (hattempt : attempt.toNat = k + 1) (h : ¬ client.Fits k) :
    client.backoff attempt = .panic := by
  obtain ⟨exponent, hexponent, value⟩ :=
    Word.checkedSub_of_le (show (1#32).toNat ≤ attempt.toNat by rw [hattempt]; simp)
  have value : exponent.toNat = k := by
    rw [value, hattempt]
    rfl
  unfold backoff
  rw [hexponent, Outcome.unwrap_some, Outcome.ok_bind, value, Outcome.guardPanic]
  split
  · rename_i small
    have factor : (BitVec.ofNat 64 (2 ^ k)).toNat = 2 ^ k := by
      rw [BitVec.toNat_ofNat, Nat.mod_eq_of_lt (Nat.pow_lt_pow_right (by norm_num) small)]
    rw [Outcome.ok_bind, Word.checkedMul, factor, if_neg (fun fits => h ⟨small, fits⟩)]
    rfl
  · rfl

/-- The iteration after which the loop ends. -/
theorem retry_last (hattempt : attempt.toNat = i) (small : i + 1 < 2 ^ 32) (h : Last client f i) :
    client.retry f (fuel + 1) attempt =
      { calls := 1, waits := [], result := Fueled.ended (.ok (f i)) } := by
  unfold retry
  rw [hattempt]
  cases hf : f i with
  | ok value => rfl
  | error e =>
    obtain ⟨next, hnext, value⟩ := Word.checkedAdd_of_lt
      (show attempt.toNat + (1#32).toNat < 2 ^ 32 by rw [hattempt]; exact small)
    have stop : client.maxRetries < next ∨ (!e.isRetryable) = true := by
      rcases h with used | refused
      · refine .inl ?_
        rw [BitVec.lt_def, value, hattempt]
        exact Nat.lt_succ_of_le used
      · refine .inr ?_
        rw [Bool.not_eq_true']
        exact Bool.eq_false_iff.mpr fun again => refused ⟨e, hf, again⟩
    dsimp only
    rw [hnext]
    exact if_pos stop

/-- An iteration that is not the last computes a backoff. -/
theorem retry_of_not_last (hattempt : attempt.toNat = i) (h : ¬ Last client f i) :
    ∃ next : U32, next.toNat = i + 1 ∧ ∀ fuel,
      client.retry f (fuel + 1) attempt =
        match client.backoff next with
        | .ok backoff =>
            { client.retry f fuel next with
              calls := (client.retry f fuel next).calls + 1
              waits := backoff :: (client.retry f fuel next).waits }
        | _ => { calls := 1, waits := [], result := Fueled.ended .panic } := by
  obtain ⟨room, again⟩ := not_or.mp h
  obtain ⟨e, hf, retryable⟩ := not_not.mp again
  have room : i < client.maxRetries.toNat := not_le.mp room
  have bound : client.maxRetries.toNat < 2 ^ 32 := client.maxRetries.isLt
  obtain ⟨next, hnext, value⟩ := Word.checkedAdd_of_lt
    (show attempt.toNat + (1#32).toNat < 2 ^ 32 by rw [hattempt]; simp; omega)
  have value : next.toNat = i + 1 := by
    rw [value, hattempt]
    rfl
  refine ⟨next, value, fun fuel => ?_⟩
  have goesOn : ¬ (client.maxRetries < next ∨ (!e.isRetryable) = true) := by
    rw [BitVec.lt_def, value, retryable]
    simp
    omega
  conv_lhs => unfold retry
  rw [hattempt, hf]
  dsimp only
  rw [hnext]
  exact if_neg goesOn

/-- The iteration in which the backoff overflows. -/
theorem retry_misfit (hattempt : attempt.toNat = i) (h : ¬ Last client f i)
    (misfit : ¬ client.Fits i) :
    client.retry f (fuel + 1) attempt =
      { calls := 1, waits := [], result := Fueled.ended .panic } := by
  obtain ⟨next, value, hretry⟩ := retry_of_not_last hattempt h
  rw [hretry, backoff_of_not_fits value misfit]

/-- The iteration that sleeps and goes on. -/
theorem retry_next (hattempt : attempt.toNat = i) (h : ¬ Last client f i) (fits : client.Fits i) :
    ∃ (next : U32) (ms : BitVec 64), next.toNat = i + 1 ∧
      ms.toNat = client.baseBackoffMs.toNat * 2 ^ i ∧
      ∀ fuel, client.retry f (fuel + 1) attempt =
        { client.retry f fuel next with
          calls := (client.retry f fuel next).calls + 1
          waits := ms :: (client.retry f fuel next).waits } := by
  obtain ⟨next, value, hretry⟩ := retry_of_not_last hattempt h
  obtain ⟨ms, hms, product⟩ := backoff_of_fits value fits
  refine ⟨next, ms, value, product, fun fuel => ?_⟩
  rw [hretry, hms]

/-! ## Many iterations -/

/-- What `d` iterations that go on leave for the rest of the loop. -/
theorem retry_prefix (d : ℕ) (h : ∀ k < d, ¬ Last client f k ∧ client.Fits k) :
    ∃ (attempt : U32) (waits : List (BitVec 64)), attempt.toNat = d ∧
      waits.map BitVec.toNat =
        (List.range d).map (fun k => client.baseBackoffMs.toNat * 2 ^ k) ∧
      ∀ fuel, client.retry f (fuel + d) 0#32 =
        { client.retry f fuel attempt with
          calls := d + (client.retry f fuel attempt).calls
          waits := waits ++ (client.retry f fuel attempt).waits } := by
  induction d with
  | zero =>
    refine ⟨0#32, [], rfl, rfl, fun fuel => ?_⟩
    rw [Nat.zero_add]
    rfl
  | succ d ih =>
    obtain ⟨attempt, waits, value, durations, hretry⟩ := ih fun k hk => h k (Nat.lt_succ_of_lt hk)
    obtain ⟨goesOn, fits⟩ := h d (Nat.lt_succ_self d)
    obtain ⟨next, ms, value', product, hnext⟩ := retry_next value goesOn fits
    refine ⟨next, waits ++ [ms], value', ?_, fun fuel => ?_⟩
    · rw [List.map_append, durations, List.range_succ, List.map_append, List.map_singleton,
        List.map_singleton, product]
    · rw [show fuel + (d + 1) = (fuel + 1) + d by omega, hretry, hnext]
      dsimp only
      rw [List.append_assoc, List.singleton_append, Nat.add_assoc d 1, Nat.add_comm 1]

theorem exists_last (client : ChainClient) (f : ℕ → Except ChainError α) :
    ∃ i, Last client f i := ⟨client.maxRetries.toNat, .inl le_rfl⟩

open Classical in
/-- The call after which no other one is allowed. -/
noncomputable def lastCall (client : ChainClient) (f : ℕ → Except ChainError α) : ℕ :=
  Nat.find (exists_last client f)

theorem last_lastCall : Last client f (client.lastCall f) := by
  classical
  exact Nat.find_spec (exists_last client f)

theorem not_last_of_lt (h : i < client.lastCall f) : ¬ Last client f i := by
  classical
  exact Nat.find_min (exists_last client f) h

theorem lastCall_le : client.lastCall f ≤ client.maxRetries.toNat := by
  classical
  exact Nat.find_min' (exists_last client f) (.inl le_rfl)

/-- What a run has done that came to its end at call `i`, with this answer. -/
def EndsAt (client : ChainClient) (i : ℕ) (answer : Outcome (Except ChainError α))
    (run : Retries α) : Prop :=
  run.calls = i + 1 ∧
    run.waits.map BitVec.toNat =
      (List.range i).map (fun k => client.baseBackoffMs.toNat * 2 ^ k) ∧
    run.result = Fueled.ended answer

/-- **Where every backoff can be reckoned the loop ends at its last call.** -/
theorem executeWithRetry_of_fits (fits : ∀ k < client.lastCall f, client.Fits k) :
    EndsAt client (client.lastCall f) (.ok (f (client.lastCall f)))
      (client.executeWithRetry f) := by
  obtain ⟨attempt, waits, value, durations, hretry⟩ :=
    retry_prefix (client.lastCall f) fun k hk => ⟨not_last_of_lt hk, fits k hk⟩
  -- A call that is not the first has a backoff before it, and so is one of the first sixty-five.
  have small : client.lastCall f + 1 < 2 ^ 32 := by
    rcases Nat.eq_zero_or_pos (client.lastCall f) with first | later
    · omega
    · have := (fits (client.lastCall f - 1) (by omega)).1
      omega
  have fuel : client.maxRetries.toNat + 1 =
      (client.maxRetries.toNat - client.lastCall f + 1) + client.lastCall f := by
    have room : client.lastCall f ≤ client.maxRetries.toNat := lastCall_le
    omega
  unfold executeWithRetry
  rw [fuel, hretry, retry_last value small last_lastCall]
  exact ⟨rfl, by rw [List.append_nil, durations], rfl⟩

/-- A backoff that cannot be reckoned takes the call down. -/
theorem executeWithRetry_of_misfit (h : i < client.lastCall f)
    (fits : ∀ k < i, client.Fits k) (misfit : ¬ client.Fits i) :
    EndsAt client i .panic (client.executeWithRetry f) := by
  obtain ⟨attempt, waits, value, durations, hretry⟩ :=
    retry_prefix i fun k hk => ⟨not_last_of_lt (hk.trans h), fits k hk⟩
  have fuel : client.maxRetries.toNat + 1 = (client.maxRetries.toNat - i + 1) + i := by
    have room : client.lastCall f ≤ client.maxRetries.toNat := lastCall_le
    omega
  unfold executeWithRetry
  rw [fuel, hretry, retry_misfit value (not_last_of_lt h) misfit]
  exact ⟨rfl, by rw [List.append_nil, durations], rfl⟩

/-- **The loop ends**: at its last call, or at the first backoff that cannot be reckoned. -/
theorem executeWithRetry_ends (client : ChainClient) (f : ℕ → Except ChainError α) :
    ((∀ k < client.lastCall f, client.Fits k) ∧
        EndsAt client (client.lastCall f) (.ok (f (client.lastCall f)))
          (client.executeWithRetry f)) ∨
      ∃ i < client.lastCall f, ¬ client.Fits i ∧
        EndsAt client i .panic (client.executeWithRetry f) := by
  classical
  by_cases fits : ∀ k < client.lastCall f, client.Fits k
  · exact .inl ⟨fits, executeWithRetry_of_fits fits⟩
  · have misfits : ∃ i, i < client.lastCall f ∧ ¬ client.Fits i := by
      simpa only [not_forall, exists_prop] using fits
    obtain ⟨early, misfit⟩ := Nat.find_spec misfits
    refine .inr ⟨Nat.find misfits, early, misfit, executeWithRetry_of_misfit early ?_ misfit⟩
    intro k hk
    exact not_not.mp fun no => Nat.find_min misfits hk ⟨hk.trans early, no⟩

/-! ## The whole call -/

/-- The first call that comes back with a value, after errors that are worth another call only. -/
def FirstOk (f : ℕ → Except ChainError α) (i : ℕ) (value : α) : Prop :=
  f i = .ok value ∧ ∀ j < i, Retryable f j

/-- **What the retries promise**: the first value among the calls that are allowed, and where there
    is none the error of the last call. -/
structure Answers (client : ChainClient) (f : ℕ → Except ChainError α) (run : Retries α) : Prop
    where
  value : ∀ i v, i ≤ client.maxRetries.toNat → FirstOk f i v →
    run.result = Fueled.ended (.ok (.ok v))
  error : (∀ i v, i ≤ client.maxRetries.toNat → ¬ FirstOk f i v) →
    ∃ e, f (run.calls - 1) = .error e ∧ run.result = Fueled.ended (.ok (.error e))

/-- The calls that are made, and the sleeps between them. -/
structure Bounded (client : ChainClient) (f : ℕ → Except ChainError α) (run : Retries α) : Prop
    where
  pos : 0 < run.calls
  le : run.calls ≤ client.maxRetries.toNat + 1
  /-- Only an error that is worth it is followed by another call. -/
  stops : ∀ i, i + 1 < run.calls → Retryable f i
  waits : run.waits.map BitVec.toNat =
    (List.range (run.calls - 1)).map (fun k => client.baseBackoffMs.toNat * 2 ^ k)

theorem retryable_of_not_last (h : ¬ Last client f i) : Retryable f i :=
  not_not.mp (not_or.mp h).2

theorem EndsAt.bounded {answer : Outcome (Except ChainError α)} {run : Retries α}
    (h : EndsAt client i answer run) (hi : i ≤ client.lastCall f) : Bounded client f run := by
  obtain ⟨calls, waits, -⟩ := h
  have room : i ≤ client.maxRetries.toNat := hi.trans lastCall_le
  refine ⟨by omega, by omega, fun j hj => ?_, by rw [calls, Nat.add_sub_cancel, waits]⟩
  have early : j < client.lastCall f := by omega
  exact retryable_of_not_last (not_last_of_lt early)

/-- A first value within the calls that are allowed is that of the last call. -/
theorem FirstOk.eq_lastCall {v : α} (h : FirstOk f i v) (hi : i ≤ client.maxRetries.toNat) :
    i = client.lastCall f := by
  apply le_antisymm
  · by_contra early
    have last : Last client f (client.lastCall f) := last_lastCall
    rcases last with used | refused
    · omega
    · exact refused (h.2 _ (not_le.mp early))
  · by_contra late
    obtain ⟨e, he, -⟩ := retryable_of_not_last (not_last_of_lt (not_le.mp late))
    rw [h.1] at he
    cases he

theorem EndsAt.answers {run : Retries α}
    (h : EndsAt client (client.lastCall f) (.ok (f (client.lastCall f))) run) :
    Answers client f run := by
  obtain ⟨calls, -, result⟩ := h
  constructor
  · intro i v hi first
    rw [result, ← first.eq_lastCall hi, first.1]
  · intro none
    rw [calls, Nat.add_sub_cancel, result]
    cases hf : f (client.lastCall f) with
    | ok v =>
      refine absurd ⟨hf, fun j hj => ?_⟩ (none _ v lastCall_le)
      exact retryable_of_not_last (not_last_of_lt hj)
    | error e => exact ⟨e, rfl, rfl⟩

/-- A call that has gone down has answered nothing. -/
theorem not_answers_of_panic {run : Retries α} (h : run.result = Fueled.ended .panic) :
    ¬ Answers client f run := by
  intro answers
  by_cases some : ∃ i v, i ≤ client.maxRetries.toNat ∧ FirstOk f i v
  · obtain ⟨i, v, hi, first⟩ := some
    cases h.symm.trans (answers.value i v hi first)
  · obtain ⟨e, -, he⟩ := answers.error fun i v hi first => some ⟨i, v, hi, first⟩
    cases h.symm.trans he

theorem executeWithRetry_makes (client : ChainClient) (f : ℕ → Except ChainError α) :
    Bounded client f (client.executeWithRetry f) := by
  rcases executeWithRetry_ends client f with ⟨-, ending⟩ | ⟨i, early, -, ending⟩
  · exact ending.bounded le_rfl
  · exact ending.bounded early.le

theorem executeWithRetry_answers_iff (client : ChainClient) (f : ℕ → Except ChainError α) :
    Answers client f (client.executeWithRetry f) ↔ ∀ k < client.lastCall f, client.Fits k := by
  rcases executeWithRetry_ends client f with ⟨fits, ending⟩ | ⟨i, early, misfit, ending⟩
  · exact iff_of_true ending.answers fits
  · refine iff_of_false ?_ fun fits => misfit (fits i early)
    exact not_answers_of_panic ending.2.2

/-- The client that is built retries without a panic, whatever its calls answer. -/
theorem new_answers (f : ℕ → Except ChainError α) : Answers new f (new.executeWithRetry f) := by
  refine (executeWithRetry_answers_iff new f).mpr fun k hk => ?_
  exact fits_of_le (by decide) (by decide) (hk.trans_le lastCall_le)

/-- **Retries are bounded, and faithful where the backoffs fit.** Whatever the calls answer, no more
    than `max_retries + 1` of them are made, none after a value or an error that is not worth it,
    and the sleeps double from the base on. The answer is what it should be exactly if the backoff
    before each retry that is due fits; for fifty retries from a second on they all do. -/
theorem executeWithRetry_bounded (client : ChainClient) (f : ℕ → Except ChainError α) :
    Bounded client f (client.executeWithRetry f) ∧
      (Answers client f (client.executeWithRetry f) ↔
        ∀ k < client.lastCall f, client.Fits k) ∧
      (client.maxRetries.toNat ≤ 50 → client.baseBackoffMs.toNat ≤ 10 ^ 3 →
        ∀ k < client.lastCall f, client.Fits k) := by
  refine ⟨executeWithRetry_makes client f, executeWithRetry_answers_iff client f, ?_⟩
  intro hretries hbase k hk
  exact fits_of_le hretries hbase (hk.trans_le lastCall_le)

/-- The rule by which a transaction in flight is sent again is that of this client. -/
theorem callsAgain_iff {e : ChainError} (h : f i = .error e) :
    callsAgain i e = true ↔ ¬ Last new f i := by
  have retries : new.maxRetries.toNat = ArbEngine.maxRetries := rfl
  have worth : Retryable f i ↔ e.isRetryable = true := by
    constructor
    · rintro ⟨e', he', worth⟩
      rw [h] at he'
      cases he'
      exact worth
    · intro worth
      exact ⟨e, h, worth⟩
  unfold callsAgain Last
  rw [retries, worth, not_or, not_not, not_le]
  cases e.isRetryable with
  | true =>
    rw [Bool.not_true, Bool.or_false, ← decide_not, decide_eq_true_iff, not_lt, Nat.succ_le_iff,
      and_iff_left rfl]
  | false => simp

/-- **A client with many retries goes down in one of its backoffs**: the fifty-seventh, from half
    a second on, does not fit. -/
theorem many_retries_overflow :
    ¬ Answers { maxRetries := 60, baseBackoffMs := 500 }
      (fun _ => .error .timeout : ℕ → Except ChainError Unit)
      (executeWithRetry { maxRetries := 60, baseBackoffMs := 500 } fun _ => .error .timeout) := by
  apply not_answers_of_panic
  rfl

end ChainClient
end ArbEngine
