import ArbEngine.Chain.Sending
import ArbEngine.Proof.Chain.Retry

/-!
# A transaction is sent, and waited for

A round of the wait is a call of `execute_with_retry` (`new_ends`): at most four questions, each
but the last answered by an error that is worth another one. Rounds are two seconds apart, so the
clock stops them after sixty-one. What is kept from round to round is `Waiting`: no receipt has
been seen, and the clock has not run out. How the wait ends is `WaitEnd`, and `Delivered` says it of
the whole of `send_and_wait`.
-/

namespace ArbEngine
namespace ChainClient

variable {α : Type} {f : ℕ → Except ChainError (Option NodeReceipt)} {elapsed : ℕ → ℕ}
  {node : ChainNode} {hash : B256} {i calls fuel left : ℕ}

/-- **One call of the client that is built**: at most four of the node. -/
theorem new_ends (f : ℕ → Except ChainError α) :
    ∃ i ≤ 3, (new.executeWithRetry f).calls = i + 1 ∧
      (new.executeWithRetry f).result = Fueled.ended (.ok (f i)) ∧
      (∀ j < i, Retryable f j) ∧ (i = 3 ∨ ¬ Retryable f i) := by
  have fits : ∀ k < new.lastCall f, new.Fits k := by
    intro k hk
    exact fits_of_le (by decide) (by decide) (hk.trans_le lastCall_le)
  obtain ⟨calls, -, result⟩ := executeWithRetry_of_fits fits
  have room : new.lastCall f ≤ 3 := lastCall_le
  refine ⟨new.lastCall f, room, calls, result, fun j hj => ?_, ?_⟩
  · exact retryable_of_not_last (not_last_of_lt hj)
  · rcases (last_lastCall : Last new f (new.lastCall f)) with used | refused
    · exact .inl (le_antisymm room used)
    · exact .inr refused

/-! ## Waiting for a receipt -/

/-- The answers of the node about a transaction. -/
def answers (node : ChainNode) (hash : B256) (j : ℕ) : Except ChainError (Option NodeReceipt) :=
  (node.getTransactionReceipt j hash).mapError .rpcError

/-- None of the first answers has a receipt. -/
def Unseen (f : ℕ → Except ChainError (Option NodeReceipt)) (n : ℕ) : Prop :=
  ∀ j < n, ∀ r, f j ≠ .ok (some r)

/-- Four answers in a row, up to this one, are errors that are worth another call. -/
def FourthInRow (f : ℕ → Except ChainError (Option NodeReceipt)) (n : ℕ) : Prop :=
  3 ≤ n ∧ ∀ k ≤ n, n < k + 4 → Retryable f k

/-- How a wait ends, after so many calls of the node. -/
inductive WaitEnd (f : ℕ → Except ChainError (Option NodeReceipt)) (elapsed : ℕ → ℕ)
    (hash : B256) : ℕ → Except ChainError TransactionReceipt → Prop
  | receipt {n : ℕ} {r : NodeReceipt} (unseen : Unseen f n) (found : f n = .ok (some r)) :
      WaitEnd f elapsed hash (n + 1) (.ok (TransactionReceipt.ofNode hash r))
  | gaveUp {n : ℕ} {e : ChainError} (unseen : Unseen f n) (failed : f n = .error e)
      (why : e.isRetryable = false ∨ FourthInRow f n) :
      WaitEnd f elapsed hash (n + 1) (.error e)
  | timeout {n i : ℕ} (unseen : Unseen f n) (asked : i ≤ n) (late : receiptTimeout < elapsed i) :
      WaitEnd f elapsed hash n (.error .timeout)

/-- Before round `i`, after so many calls of the node. -/
structure Waiting (f : ℕ → Except ChainError (Option NodeReceipt)) (elapsed : ℕ → ℕ)
    (i calls : ℕ) : Prop where
  unseen : Unseen f calls
  asked : i ≤ calls
  calls_le : calls ≤ 4 * i
  onTime : ∀ j < i, elapsed j ≤ receiptTimeout

/-- Two seconds and more between one round and the next. -/
def Sleeps (elapsed : ℕ → ℕ) : Prop := ∀ i, elapsed i + fromSecs 2 ≤ elapsed (i + 1)

theorem Sleeps.le (h : Sleeps elapsed) (i : ℕ) : fromSecs (2 * i) ≤ elapsed i := by
  induction i with
  | zero => simp [fromSecs]
  | succ i ih =>
    calc fromSecs (2 * (i + 1)) = fromSecs (2 * i) + fromSecs 2 := Nat.add_mul (2 * i) 2 _
      _ ≤ elapsed i + fromSecs 2 := Nat.add_le_add_right ih _
      _ ≤ elapsed (i + 1) := h i

theorem Sleeps.round_le (h : Sleeps elapsed) (onTime : elapsed i ≤ receiptTimeout) : i ≤ 60 := by
  have passed := h.le i
  rw [receiptTimeout, fromSecs] at onTime
  rw [fromSecs] at passed
  omega

theorem Waiting.round_le (h : Waiting f elapsed i calls) (sleeps : Sleeps elapsed) : i ≤ 61 := by
  cases i with
  | zero => exact Nat.zero_le 61
  | succ i => exact Nat.succ_le_succ (sleeps.round_le (h.onTime i (Nat.lt_succ_self i)))

theorem unseen_add {n k : ℕ} (before : Unseen f n)
    (after : ∀ j < k, ∀ r, f (n + j) ≠ .ok (some r)) : Unseen f (n + k) := by
  intro j hj r found
  rcases Nat.lt_or_ge j n with early | late
  · exact before j early r found
  · apply after (j - n) (by omega) r
    rwa [Nat.add_sub_cancel' late]

/-- What is asked while the calls are retried brings no receipt. -/
theorem Waiting.unseen_add (h : Waiting f elapsed i calls) {k : ℕ}
    (retried : ∀ j < k, Retryable (fun k => f (calls + k)) j) : Unseen f (calls + k) := by
  refine ChainClient.unseen_add h.unseen fun j hj r found => ?_
  obtain ⟨e, failed, -⟩ := retried j hj
  cases found.symm.trans failed

/-- A round without a receipt. -/
theorem Waiting.next (h : Waiting f elapsed i calls) (onTime : elapsed i ≤ receiptTimeout) {k : ℕ}
    (small : k ≤ 3) (retried : ∀ j < k, Retryable (fun k => f (calls + k)) j)
    (pending : f (calls + k) = .ok none) : Waiting f elapsed (i + 1) (calls + (k + 1)) := by
  have asked := h.asked
  have calls_le := h.calls_le
  refine ⟨?_, by omega, by omega, fun j hj => ?_⟩
  · refine ChainClient.unseen_add (n := calls + k) (k := 1) (h.unseen_add retried) ?_
    intro j hj r found
    obtain rfl : j = 0 := by omega
    cases found.symm.trans pending
  · rcases Nat.lt_succ_iff_lt_or_eq.mp hj with early | rfl
    · exact h.onTime j early
    · exact onTime

/-- A round that ends in an error. -/
theorem Waiting.gaveUp (h : Waiting f elapsed i calls) {k : ℕ} {e : ChainError}
    (retried : ∀ j < k, Retryable (fun k => f (calls + k)) j)
    (stopped : k = 3 ∨ ¬ Retryable (fun k => f (calls + k)) k)
    (failed : f (calls + k) = .error e) :
    WaitEnd f elapsed hash (calls + (k + 1)) (.error e) := by
  refine .gaveUp (h.unseen_add retried) failed ?_
  cases worth : e.isRetryable with
  | false => exact .inl rfl
  | true =>
    have last : Retryable (fun k => f (calls + k)) k := ⟨e, failed, worth⟩
    rcases stopped with rfl | refused
    · refine .inr ⟨Nat.le_add_left 3 calls, fun j hj near => ?_⟩
      change j ≤ calls + 3 at hj
      change calls + 3 < j + 4 at near
      have shifted : Retryable (fun k => f (calls + k)) (j - calls) := by
        rcases Nat.lt_or_ge (j - calls) 3 with early | late
        · exact retried _ early
        · rw [show j - calls = 3 by omega]
          exact last
      obtain ⟨e', failed', worth'⟩ := shifted
      change f (calls + (j - calls)) = .error e' at failed'
      rw [Nat.add_sub_cancel' (by omega : calls ≤ j)] at failed'
      exact ⟨e', failed', worth'⟩
    · exact absurd last refused

/-- **The wait ends**, from any of its rounds on; the induction is on the fuel. Each round sleeps,
    so the time runs out after sixty of them, and a round makes four calls at most. With fuel for
    the rounds that are left, the end is one of three: a receipt, an error that is not retried any
    more, or the timeout. -/
theorem pollReceipt_ends (h : Waiting (answers node hash) elapsed i calls)
    (sleeps : Sleeps elapsed) (late : receiptTimeout < elapsed (i + fuel)) :
    ∃ answer, (new.pollReceipt node elapsed hash (fuel + 1) i calls).result =
        Fueled.ended (.ok answer) ∧
      (new.pollReceipt node elapsed hash (fuel + 1) i calls).calls ≤ 4 * 61 ∧
      WaitEnd (answers node hash) elapsed hash
        (new.pollReceipt node elapsed hash (fuel + 1) i calls).calls answer := by
  induction fuel generalizing i calls with
  | zero =>
    unfold pollReceipt
    rw [Nat.add_zero] at late
    rw [if_pos late]
    have bound := h.calls_le
    have round := h.round_le sleeps
    exact ⟨_, rfl, show calls ≤ 4 * 61 by omega, .timeout h.unseen h.asked late⟩
  | succ fuel ih =>
    have bound := h.calls_le
    unfold pollReceipt
    -- the timeout is looked at before the node is asked
    by_cases timedOut : receiptTimeout < elapsed i
    · rw [if_pos timedOut]
      have round := h.round_le sleeps
      exact ⟨_, rfl, show calls ≤ 4 * 61 by omega, .timeout h.unseen h.asked timedOut⟩
    · rw [if_neg timedOut]
      have onTime : elapsed i ≤ receiptTimeout := not_lt.mp timedOut
      have round : i ≤ 60 := sleeps.round_le onTime
      obtain ⟨k, small, made, result, retried, stopped⟩ :=
        new_ends fun k => answers node hash (calls + k)
      change (new.executeWithRetry fun k =>
        (node.getTransactionReceipt (calls + k) hash).mapError .rpcError).calls = k + 1 at made
      change (new.executeWithRetry fun k =>
        (node.getTransactionReceipt (calls + k) hash).mapError .rpcError).result =
          some (.ok (answers node hash (calls + k))) at result
      dsimp only
      rw [result, made]
      -- an error ends the wait, a receipt ends it, and no receipt begins the next round
      cases answer : answers node hash (calls + k) with
      | error e => exact ⟨_, rfl, by dsimp only; omega, h.gaveUp retried stopped answer⟩
      | ok found =>
        cases found with
        | some r => exact ⟨_, rfl, by dsimp only; omega, .receipt (h.unseen_add retried) answer⟩
        | none =>
          refine ih (h.next onTime small retried answer) ?_
          rwa [Nat.add_right_comm, Nat.add_assoc]

theorem waiting_zero (f : ℕ → Except ChainError (Option NodeReceipt)) (elapsed : ℕ → ℕ) :
    Waiting f elapsed 0 0 where
  unseen := fun _ hj => absurd hj (Nat.not_lt_zero _)
  asked := le_rfl
  calls_le := le_rfl
  onTime := fun _ hj => absurd hj (Nat.not_lt_zero _)

/-- **`wait_for_receipt` ends**, with the first receipt the node has, unless the clock or an error
    stops it before. -/
theorem waitForReceipt_ends (node : ChainNode) (hash : B256) (sleeps : Sleeps elapsed)
    (enough : 62 ≤ fuel) :
    ∃ answer, (new.waitForReceipt node elapsed hash fuel).result = Fueled.ended (.ok answer) ∧
      (new.waitForReceipt node elapsed hash fuel).calls ≤ 4 * 61 ∧
      WaitEnd (answers node hash) elapsed hash
        (new.waitForReceipt node elapsed hash fuel).calls answer := by
  obtain ⟨rounds, rfl⟩ := Nat.exists_eq_add_of_le' (show 1 ≤ fuel by omega)
  refine pollReceipt_ends (waiting_zero _ _) sleeps ?_
  have passed := sleeps.le (0 + rounds)
  rw [fromSecs] at passed
  rw [receiptTimeout, fromSecs]
  omega

/-! ## Waiting for a transaction -/

theorem answers_ok {j : ℕ} {found : Option NodeReceipt} :
    answers node hash j = .ok found ↔ node.getTransactionReceipt j hash = .ok found := by
  unfold answers
  cases node.getTransactionReceipt j hash <;> simp [Except.mapError]

/-- Up to its first receipt the node is asked again, whatever else it answers. -/
theorem pollTx_found {n : ℕ} {r : NodeReceipt} (unseen : Unseen (answers node hash) (calls + n))
    (found : answers node hash (calls + n) = .ok (some r)) (room : n < left) :
    pollTx node hash left calls =
      { calls := calls + n + 1, result := Fueled.ended (.ok (.ok r.status)) } := by
  induction n generalizing calls left with
  | zero =>
    obtain ⟨left, rfl⟩ := Nat.exists_eq_add_of_le' room
    rw [Nat.add_zero, answers_ok] at found
    unfold pollTx
    rw [found]
  | succ n ih =>
    obtain ⟨left, rfl⟩ := Nat.exists_eq_add_of_le' (show 1 ≤ left by omega)
    rw [show calls + (n + 1) = calls + 1 + n by omega] at unseen found ⊢
    have rest := ih unseen found (by omega : n < left)
    unfold pollTx
    cases here : node.getTransactionReceipt calls hash with
    | error msg => exact rest
    | ok answer =>
      cases answer with
      | none => exact rest
      | some r' => exact absurd (answers_ok.mpr here) (unseen calls (by omega) r')

/-- **`wait_for_tx` answers the status of the first receipt** among its fifteen polls. -/
theorem waitForTx_found {n : ℕ} {r : NodeReceipt} (unseen : Unseen (answers node hash) n)
    (found : answers node hash n = .ok (some r)) (early : n < 15) :
    waitForTx node hash =
      { calls := n + 1, result := Fueled.ended (.ok (.ok r.status)) } := by
  unfold waitForTx
  rw [pollTx_found (n := n) (by rwa [Nat.zero_add]) (by rwa [Nat.zero_add]) early, Nat.zero_add]

/-! ## Sending -/

/-- The answers of the node to the submissions of these bytes. -/
def takes (node : ChainNode) (signedTx : List UInt8) (j : ℕ) : Except ChainError B256 :=
  (node.sendRawTransaction j signedTx).mapError .rpcError

/-- How `send_and_wait` ends once it has the bytes. -/
inductive Delivery (node : ChainNode) (elapsed : ℕ → ℕ) (signedTx : List UInt8) :
    SendAndWait → Prop
  | refused {i : ℕ} {e : ChainError} (small : i ≤ 3)
      (retried : ∀ j < i, Retryable (takes node signedTx) j)
      (failed : takes node signedTx i = .error e) (why : i = 3 ∨ e.isRetryable = false) :
      Delivery node elapsed signedTx
        { payload := some signedTx, submissions := i + 1, polls := 0,
          result := Fueled.ended (.ok (.error e)) }
  | waited {i polls : ℕ} {hash : B256} {answer : Except ChainError TransactionReceipt}
      (small : i ≤ 3) (retried : ∀ j < i, Retryable (takes node signedTx) j)
      (taken : takes node signedTx i = .ok hash) (bound : polls ≤ 4 * 61)
      (stop : WaitEnd (answers node hash) elapsed hash polls answer)
      -- The wait of a bundle on the same node comes to the same status.
      (agrees : ∀ receipt, answer = .ok receipt → polls ≤ 15 → waitForTx node hash =
        { calls := polls, result := Fueled.ended (.ok (.ok receipt.status)) }) :
      Delivery node elapsed signedTx
        { payload := some signedTx, submissions := i + 1, polls,
          result := Fueled.ended (.ok answer) }

/-- Both waits stop at the first receipt. -/
theorem WaitEnd.agrees {polls : ℕ} {answer : Except ChainError TransactionReceipt}
    (h : WaitEnd (answers node hash) elapsed hash polls answer) {receipt : TransactionReceipt}
    (ok : answer = .ok receipt) (early : polls ≤ 15) : waitForTx node hash =
      { calls := polls, result := Fueled.ended (.ok (.ok receipt.status)) } := by
  cases h with
  | receipt unseen found =>
    cases ok
    exact waitForTx_found unseen found early
  | gaveUp _ _ _ => cases ok
  | timeout _ _ _ => cases ok

end ChainClient

namespace TransactionBuilder

open ChainClient

variable {Signature : Type} {b : TransactionBuilder} {signer : Signer Signature}
  {chain : ChainAnswers} {node : ChainNode} {elapsed : ℕ → ℕ} {fuel : ℕ}
  {signedTx : List UInt8}

theorem sendAndWait_of_bytes (built : b.buildAndSign signer chain = .ok (.ok signedTx))
    (sleeps : Sleeps elapsed) (enough : 62 ≤ fuel) :
    Delivery node elapsed signedTx (b.sendAndWait signer .new chain node elapsed fuel) := by
  obtain ⟨i, small, made, result, retried, stopped⟩ := new_ends (takes node signedTx)
  have sent : b.send signer .new chain node = ChainClient.new.executeWithRetry
      (takes node signedTx) := by
    unfold send
    rw [built]
    rfl
  unfold sendAndWait
  rw [sent, built]
  dsimp only
  rw [result, made]
  cases answer : takes node signedTx i with
  | error e =>
    refine .refused small retried answer ?_
    rcases stopped with used | refused
    · exact .inl used
    · exact .inr (Bool.eq_false_iff.mpr fun worth => refused ⟨e, answer, worth⟩)
  | ok hash =>
    obtain ⟨got, ended, bound, stop⟩ := waitForReceipt_ends node hash sleeps enough
    show Delivery node elapsed signedTx
      { payload := some signedTx, submissions := i + 1,
        polls := (ChainClient.new.waitForReceipt node elapsed hash fuel).calls,
        result := (ChainClient.new.waitForReceipt node elapsed hash fuel).result }
    rw [ended]
    exact .waited small retried answer bound stop fun receipt ok early => stop.agrees ok early

/-- **What is built and signed is delivered, or the caller learns why not.** No more than four
    submissions, all of the same bytes; then questions about the hash the node gave, no more than
    sixty-one rounds of four, up to the first receipt, an error that lasts or the timeout. Without
    the bytes nothing is submitted. -/
theorem sendAndWait_delivers (b : TransactionBuilder) (signer : Signer Signature)
    (chain : ChainAnswers) (node : ChainNode) (elapsed : ℕ → ℕ) (fuel : ℕ)
    (sleeps : Sleeps elapsed) (enough : 62 ≤ fuel) :
    (∀ signedTx, b.buildAndSign signer chain = .ok (.ok signedTx) →
      Delivery node elapsed signedTx (b.sendAndWait signer .new chain node elapsed fuel)) ∧
    (∀ e, b.buildAndSign signer chain = .ok (.error e) →
      b.sendAndWait signer .new chain node elapsed fuel =
        { payload := none, submissions := 0, polls := 0,
          result := Fueled.ended (.ok (.error e)) }) ∧
    (b.buildAndSign signer chain = .panic →
      b.sendAndWait signer .new chain node elapsed fuel =
        { payload := none, submissions := 0, polls := 0, result := Fueled.ended .panic }) := by
  refine ⟨fun signedTx built => sendAndWait_of_bytes built sleeps enough, fun e failed => ?_,
    fun panics => ?_⟩
  · unfold sendAndWait send
    rw [failed]
    rfl
  · unfold sendAndWait send
    rw [panics]
    rfl

/-! ## A transaction that is taken at the second attempt -/

def plainSigner : Signer Unit where
  address := 1
  signatureHash := fun tx => tx.nonce.setWidth 256
  signHashSync := fun _ => .ok ()
  encode2718 := fun tx _ => 2 :: tx.input

def transferChain : ChainAnswers where
  getNonce := fun _ => .ok 7
  getGasPrice := .ok 100000000
  estimateGas := fun _ => .ok 21000

/-- Busy at first; the receipt is there when it is asked for the second time. -/
def busyNode : ChainNode where
  sendRawTransaction := fun i _ => if i = 0 then .error "503" else .ok 9
  getTransactionReceipt := fun i _ =>
    if i = 0 then .ok none
    else .ok (some { blockNumber := some 5, status := true, gasUsed := 21000,
                     effectiveGasPrice := 100000000 })

def transferBuilder : TransactionBuilder :=
  { TransactionBuilder.new 1 with toAddress := some 3, data := [10, 20] }

theorem sample_is_delivered :
    Delivery busyNode (fun i => fromSecs (2 * i)) [2, 10, 20]
      (transferBuilder.sendAndWait plainSigner .new transferChain busyNode
        (fun i => fromSecs (2 * i)) 62) := by
  refine (sendAndWait_delivers transferBuilder plainSigner transferChain busyNode _ 62
    (fun i => ?_) le_rfl).1 [2, 10, 20] (by decide +kernel)
  exact (Nat.add_mul (2 * i) 2 _).ge

end TransactionBuilder
end ArbEngine
