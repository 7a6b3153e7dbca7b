import ArbEngine.Inventory.Predictive

/-!
# The queue of opportunities (`inventory/src/predictive_rebalancer.rs`)

What other tasks do with the rebalancer: they push opportunities and pop them by their names, set
the price of an asset, and ask which transfers an opportunity needs. The queue is locked for each
of these, so a run is a sequence of them.
-/

namespace ArbEngine

namespace PredictiveConfig

/-- `max_queue_size` -/
def maxQueueSize : ℕ := 20

end PredictiveConfig

/-- An order in which a map may hand out its entries: any rearrangement of them. -/
structure MapOrder (α : Type) where
  arrange : List α → List α
  perm : ∀ entries, (arrange entries).Perm entries

/-- What is asked of the queue, and when. -/
inductive QueueRequest where
  | push (opp : ArbOpportunity) (now : ℚ)
  | pop (id : String)

namespace PredictiveRebalancer

def pushOpportunity (maxQueueSize : ℕ) (queue : List ArbOpportunity) (opp : ArbOpportunity)
    (now : ℚ) : List ArbOpportunity :=
  let queue := queue.filter fun o => !o.isExpired now
  if queue.length < maxQueueSize then queue ++ [opp] else queue

/-- The first opportunity of this name, and the queue without it. -/
def popOpportunity (queue : List ArbOpportunity) (id : String) :
    Option ArbOpportunity × List ArbOpportunity :=
  (queue.find? fun o => o.id = id, queue.eraseP fun o => o.id = id)

/-- A request, with what was popped so far. -/
def serve (maxQueueSize : ℕ) (s : List ArbOpportunity × List ArbOpportunity) :
    QueueRequest → List ArbOpportunity × List ArbOpportunity
  | .push opp now => (pushOpportunity maxQueueSize s.1 opp now, s.2)
  | .pop id =>
      let (found, queue) := popOpportunity s.1 id
      (queue, s.2 ++ found.toList)

/-- The queue and what was popped, after these requests. -/
def serveAll (maxQueueSize : ℕ) (requests : List QueueRequest) :
    List ArbOpportunity × List ArbOpportunity :=
  requests.foldl (serve maxQueueSize) ([], [])

def updatePrice (r : PredictiveRebalancer) (asset : String) (priceUsd : ℚ) :
    PredictiveRebalancer :=
  { r with pricesUsd := fun a => if a = asset then some priceUsd else r.pricesUsd a }

/-- The prices that other tasks have set, in the order in which they did. -/
def updatePrices (r : PredictiveRebalancer) (updates : List (String × ℚ)) :
    PredictiveRebalancer :=
  updates.foldl (fun r update => r.updatePrice update.1 update.2) r

/-- Whether there is a plan for what is lacking, and its transfers. -/
def transfersForShortfall (r : PredictiveRebalancer) (shortfall : List (Venue × String × ℚ)) :
    Outcome (Bool × List TransferPlan) :=
  if shortfall = [] then .ok (true, [])
  else do
    let transfers ← r.buildTransfersForShortfall shortfall
    return (!transfers.isEmpty, transfers)

/-- The maps of the shortfall are built for this call alone, so their order is its own. -/
def transfersNeededFor (r : PredictiveRebalancer) (order : MapOrder (Venue × String × ℚ))
    (opp : ArbOpportunity) : Outcome (Bool × List TransferPlan) := do
  let lacking ← opp.shortfall r.tracker
  r.transfersForShortfall
    (order.arrange ((ArbOpportunity.venues true).flatMap fun venue =>
      (lacking venue).map fun entry => (venue, entry.1, entry.2)))

end PredictiveRebalancer

end ArbEngine
