import Mathlib.Algebra.Order.Floor.Semifield
import ArbEngine.Chain.Builder

/-!
# The fees of a built transaction

The cap is the base fee with one fifth on top and the tip of the chosen priority. The tip that
goes into the request is the medium one whatever was chosen, so that a low priority on a cheap
chain puts the cap below the tip (`build_feesValid_iff`).
-/

namespace ArbEngine

/-- The cap covers the tip and the base fee. -/
def TransactionRequest.FeesValid (tx : TransactionRequest) (baseFee : U128) : Prop :=
  ∃ cap tip, tx.maxFeePerGas = some cap ∧ tx.maxPriorityFee = some tip ∧
    tip.toNat ≤ cap.toNat ∧ baseFee.toNat ≤ cap.toNat

namespace GasPrice

variable {g : GasPrice} {priority : String} {buffer : ℚ} {maxFee : U128}

theorem getMaxFee_eq_ok (h : g.getMaxFee priority buffer = .ok maxFee) :
    maxFee.toNat =
      min ⌊g.baseFee.toNat * buffer⌋.toNat (2 ^ 128 - 1) + (g.priorityFee priority).toNat := by
  rw [getMaxFee, Outcome.unwrap_eq_ok, Word.checkedAdd_eq_some] at h
  rw [h, baseWithBuffer, BitVec.toNat_ofNat, Nat.mod_eq_of_lt]
  omega

/-- One fifth on top, cut down to a whole number. -/
theorem floor_buffered (n : ℕ) : ⌊(n : ℚ) * (6 / 5)⌋.toNat = n * 6 / 5 := by
  have scaled : (n : ℚ) * (6 / 5) = ((n * 6 : ℕ) : ℚ) / (5 : ℕ) := by
    push_cast
    ring
  rw [scaled, Int.floor_toNat, Nat.floor_div_eq_div]

theorem priorityFee_ofBaseFee (baseFee : U128) (priority : String) :
    ((ofBaseFee baseFee).priorityFee priority).toNat =
      if priority = "low" then 1000000000 else if priority = "high" then 5000000000
      else 2000000000 := by
  unfold priorityFee
  split
  · rfl
  · split
    · rfl
    · rfl

theorem getMaxFee_ofBaseFee {baseFee : U128}
    (h : (ofBaseFee baseFee).getMaxFee priority (6 / 5) = .ok maxFee) :
    maxFee.toNat = min (baseFee.toNat * 6 / 5) (2 ^ 128 - 1) +
      if priority = "low" then 1000000000 else if priority = "high" then 5000000000
      else 2000000000 := by
  have cap := getMaxFee_eq_ok h
  rw [priorityFee_ofBaseFee] at cap
  rw [cap]
  congr 2
  exact floor_buffered baseFee.toNat

end GasPrice

namespace TransactionBuilder

variable {b : TransactionBuilder} {chain : ChainAnswers} {tx built : TransactionRequest}

/-- An estimate changes the gas limit only. -/
theorem withEstimate_fees (h : b.withEstimate chain tx = .ok built) :
    built.maxFeePerGas = tx.maxFeePerGas ∧ built.maxPriorityFee = tx.maxPriorityFee := by
  unfold withEstimate at h
  split at h
  · cases estimated : chain.estimateGas tx with
    | error e =>
      rw [estimated] at h
      cases h
    | ok gas =>
      rw [estimated] at h
      obtain rfl := Except.ok.inj h
      exact ⟨rfl, rfl⟩
  · obtain rfl := Except.ok.inj h
    exact ⟨rfl, rfl⟩

/-- The fees of a request that was built. -/
theorem build_fees {baseFee : U128} (hfee : chain.getGasPrice = .ok baseFee)
    (h : b.build chain = .ok (.ok built)) :
    ∃ maxFee, (GasPrice.ofBaseFee baseFee).getMaxFee b.priority (6 / 5) = .ok maxFee ∧
      built.maxFeePerGas = some maxFee ∧ built.maxPriorityFee = some 2000000000 := by
  unfold build at h
  cases hto : b.toAddress with
  | none =>
    rw [hto] at h
    cases h
  | some toAddress =>
    rw [hto] at h
    dsimp only at h
    cases hnonce : b.nonce.elim (chain.getNonce b.wallet) .ok with
    | error e =>
      rw [hnonce] at h
      cases h
    | ok nonce =>
      rw [hnonce, hfee] at h
      dsimp only at h
      obtain ⟨maxFee, hmax, h⟩ := Outcome.bind_eq_ok.mp h
      obtain ⟨fees, tip⟩ := withEstimate_fees (Outcome.ok.inj h)
      exact ⟨maxFee, hmax, fees, tip⟩

/-- **When the fees are consistent**: the priority is not low, or five sixths of a gwei and more
    are the base fee. -/
theorem build_feesValid_iff (b : TransactionBuilder) (chain : ChainAnswers) (baseFee : U128)
    (built : TransactionRequest) (hfee : chain.getGasPrice = .ok baseFee)
    (h : b.build chain = .ok (.ok built)) :
    built.FeesValid baseFee ↔ b.priority ≠ "low" ∨ 833333334 ≤ baseFee.toNat := by
  obtain ⟨maxFee, hmax, fees, tip⟩ := build_fees hfee h
  have cap := GasPrice.getMaxFee_ofBaseFee hmax
  have bound : baseFee.toNat < 2 ^ 128 := baseFee.isLt
  -- the tip is two gwei whatever the priority; what depends on the priority is the cap
  have valid : built.FeesValid baseFee ↔
      2000000000 ≤ maxFee.toNat ∧ baseFee.toNat ≤ maxFee.toNat := by
    unfold TransactionRequest.FeesValid
    rw [fees, tip]
    constructor
    · rintro ⟨cap', tip', hcap, htip, covers⟩
      obtain rfl := Option.some.inj hcap
      obtain rfl := Option.some.inj htip
      exact covers
    · intro covers
      exact ⟨maxFee, _, rfl, rfl, covers⟩
  rw [valid]
  by_cases low : b.priority = "low"
  · -- six fifths of the base fee, rounded down, have to cover the tip
    rw [if_pos low] at cap
    have quotient := Nat.div_add_mod (baseFee.toNat * 6) 5
    have rest := Nat.mod_lt (baseFee.toNat * 6) (show 5 > 0 by norm_num)
    constructor
    · intro covers
      exact .inr (by omega)
    · rintro (other | enough)
      · exact absurd low other
      · omega
  · -- any other priority has a cap that covers both
    rw [if_neg low] at cap
    refine iff_of_true ?_ (.inl low)
    split at cap
    · omega
    · omega

/-- A node that answers with this base fee. -/
def sampleChain (baseFee : U128) : ChainAnswers where
  getNonce := fun _ => .ok 5
  getGasPrice := .ok baseFee
  estimateGas := fun _ => .ok 21000

/-- A transfer of nothing at a low priority. -/
def sampleBuilder : TransactionBuilder :=
  { TransactionBuilder.new 0x1 with toAddress := some 0x2, priority := "low" }

def sampleRequest (maxFee : U128) : TransactionRequest :=
  sampleBuilder.request 0x2 5 (GasPrice.ofBaseFee 0) maxFee

theorem sampleBuilder_build (baseFee maxFee : U128)
    (h : (GasPrice.ofBaseFee baseFee).getMaxFee "low" (6 / 5) = .ok maxFee) :
    sampleBuilder.build (sampleChain baseFee) = .ok (.ok (sampleRequest maxFee)) := by
  show ((GasPrice.ofBaseFee baseFee).getMaxFee "low" (6 / 5) >>= fun maxFee =>
    (Outcome.ok (.ok (sampleRequest maxFee)) : Outcome (Except ChainError TransactionRequest))) = _
  rw [h]
  rfl

/-- With a base fee of ten gwei the cap is thirteen. -/
theorem sampleBuilder_valid :
    ∃ built, sampleBuilder.build (sampleChain 10000000000) = .ok (.ok built) ∧
      built.FeesValid 10000000000 := by
  have build := sampleBuilder_build 10000000000 13000000000 (by decide +kernel)
  exact ⟨_, build, (build_feesValid_iff _ _ _ _ rfl build).mpr (.inr (by decide))⟩

/-- With a base fee of a tenth of a gwei the cap is 1.12 gwei, and the tip two. -/
theorem sampleBuilder_invalid :
    ¬ ∀ (b : TransactionBuilder) chain baseFee built, chain.getGasPrice = .ok baseFee →
        b.build chain = .ok (.ok built) → built.FeesValid baseFee := by
  intro valid
  have build := sampleBuilder_build 100000000 1120000000 (by decide +kernel)
  obtain ⟨cap, tip, hcap, htip, covers, -⟩ := valid _ _ _ _ rfl build
  obtain rfl := Option.some.inj hcap
  obtain rfl := Option.some.inj htip
  exact absurd covers (by decide)

end TransactionBuilder
end ArbEngine
