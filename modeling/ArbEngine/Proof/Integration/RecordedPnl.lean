import ArbEngine.Integration.Records
import ArbEngine.Proof.Executor.Contexts
import ArbEngine.Proof.Integration.Sections

/-!
# Two profits for one trade

A completed trade has a profit in its context, which the risk manager and the totals of the
bot add up, and a profit in its record, which the database adds up. Both start from the same
gross profit (`netPnl_persistArbRecord`, `roundTripPnl`). The executor takes twenty basis points of
the first leg off it, whatever the pair; the record takes the taker fee of the pair on the
first leg, and its gas. The two agree exactly where these come to the same
(`recorded_pnl_eq_iff`).
-/

namespace ArbEngine

open ArbBot

/-- What the record of a completed trade says it earned. -/
theorem netPnl_persistArbRecord {b : ArbBot} {now : ℚ} {ctx : ExecutionContext} {signal : Signal}
    {leg leg2 : LegResult} (settled : Settled ctx leg leg2) :
    (b.persistArbRecord now ctx signal).netPnl =
      (leg2.price - leg.price) * leg.filled -
        (leg.filled * leg.price * ((b.pairConfig signal.pair).feeStructure.cexTakerBps / 10000) +
          (b.pairConfig signal.pair).feeStructure.gasCostUsd) := by
  unfold ArbRecord.netPnl ArbRecord.grossPnl ArbRecord.totalFees persistArbRecord
  simp only [settled.price1, settled.price2, settled.size1, Option.getD_some, add_zero]

/-- **The two profits of a completed trade agree exactly where the flat fee of the executor is
    the taker fee of the pair and its gas**: twenty basis points less the taker fee, on what
    the first leg traded, come to the gas. -/
theorem recorded_pnl_eq_iff (b : ArbBot) (now : ℚ) (ex : Executor) (clock : ExecClock)
    (legs : Legs) (signal : Signal) (done : (ex.execute clock legs signal).1.state = .done) :
    (ex.execute clock legs signal).1.actualNetPnl =
        some (b.persistArbRecord now (ex.execute clock legs signal).1 signal).netPnl ↔
      ∀ leg, firstReply legs signal = some leg →
        leg.filled * leg.price *
            ((20 - (b.pairConfig signal.pair).feeStructure.cexTakerBps) / 10000) =
          (b.pairConfig signal.pair).feeStructure.gasCostUsd := by
  obtain ⟨leg, leg2, completes⟩ := execute_done_iff.mp done
  have settled := execute_completed completes
  rw [settled.pnl, netPnl_persistArbRecord settled, Option.some.injEq, roundTripPnl]
  constructor
  · intro h leg' first
    rw [completes.2.first] at first
    cases first
    linarith
  · intro h
    have same := h leg completes.2.first
    linarith

/-! ## One trade -/

/-- A bot of the small account. -/
def sampleBot : ArbBot :=
  ArbBot.build sampleConfig 0#160 sampleStart.metrics
    { ewmGasPrice := 1 / 10, alpha := 1 / 10, count := 1, m2 := 0, ethPriceUsd := 3000 }

/-- 0.035 ether, bought at 2000 and sold at 2020; the pair has the default settings. -/
def seventyDollars : Signal := { sampleSignal .buyCexSellDex with size := 35 / 1000 }

/-- On seventy dollars, ten basis points are the seven cents of gas. -/
theorem sample_seventy_dollars_agree :
    (sampleExecutor.execute sampleClock (simulationLegs default 1 1 0) seventyDollars).1.actualNetPnl =
      some (sampleBot.persistArbRecord 1 (sampleExecutor.execute sampleClock
        (simulationLegs default 1 1 0) seventyDollars).1 seventyDollars).netPnl := by
  apply (recorded_pnl_eq_iff sampleBot 1 sampleExecutor sampleClock (simulationLegs default 1 1 0)
    seventyDollars (by decide +kernel)).mpr
  intro leg first
  have filled : (firstReply (simulationLegs default 1 1 0) seventyDollars).map (fun leg =>
      (leg.filled, leg.price)) = some (35 / 1000, 2000) := by
    decide +kernel
  rw [first, Option.map_some, Option.some.injEq, Prod.mk.injEq] at filled
  rw [filled.1, filled.2]
  decide +kernel

/-- **On two thousand dollars they do not agree**: sixteen dollars in the context, 17.93 in the
    record. -/
theorem sample_two_thousand_dollars_disagree :
    ∃ ctx, (sampleExecutor.execute sampleClock (simulationLegs default 1 1 0)
        (sampleSignal .buyCexSellDex)).1 = ctx ∧ ctx.state = .done ∧ ctx.actualNetPnl = some 16 ∧
      (sampleBot.persistArbRecord 1 ctx (sampleSignal .buyCexSellDex)).netPnl = 1793 / 100 := by
  refine ⟨_, rfl, ?_, ?_, ?_⟩
  · decide +kernel
  · decide +kernel
  · decide +kernel

end ArbEngine
