import ArbEngine.Chain.Client
import ArbEngine.Executor.Legs
import ArbEngine.Lib.Run

/-!
# Legs in flight (`executor/src/engine.rs`, `chain/src/client.rs`, `exchange/src/client.rs`)

A leg outside the simulation hands one instruction to another party: an order to the exchange,
or a signed swap to the chain node or to the bundle relay. What comes back, and when, is up to
that party and to the network. `netStep` is one step of any of them: of a leg, of the party
that serves a request, of the network that loses a message, or of the instruction itself being
executed. Labels choose; so a run is any interleaving of any number of legs, and any request or
reply may be late, lost, or overtaken by the timeout of its leg.

A request is one HTTP exchange. Its message is on the wire in one direction or the other, and a
leg waits for at most one. What a leg does before its submission — lookups, the allowance, the
signature — is one step here that either goes on or returns.
-/

namespace ArbEngine

inductive ExchangeType where
  | binance
  | bybit
  | coinbase
deriving DecidableEq, Repr

/-- How a leg hands its instruction over: to the exchange, to a node of the public mempool, or as a
    Flashbots bundle to a relay. -/
inductive LegRoute where
  | cex
  | mempool
  | bundle
deriving DecidableEq, Repr

/-- The requests of a leg that matter after its submission; `attempt` is the number of calls
    `execute_with_retry` has made before this one. -/
inductive Request where
  | order (leg : ℕ)
  | sendRawTransaction (leg attempt : ℕ)
  | sendBundle (leg : ℕ)
  | getTransactionReceipt (leg poll attempt : ℕ)
deriving DecidableEq, Repr

namespace Request

def leg : Request → ℕ
  | .order leg => leg
  | .sendRawTransaction leg _ => leg
  | .sendBundle leg => leg
  | .getTransactionReceipt leg _ _ => leg

/-- The request carries the instruction of its leg. -/
def submits : Request → Bool
  | .getTransactionReceipt _ _ _ => false
  | _ => true

end Request

inductive Reply where
  /-- The transaction or the bundle has been taken. -/
  | taken
  /-- The instruction has not been taken and will not be. -/
  | refused (msg : String)
  /-- An error about an instruction that has been taken before: `already known`. -/
  | known (msg : String)
  | receipt (status : Bool)
  | noReceipt
  /-- The order has been taken and is not matched yet. -/
  | orderAck (order : OrderResult)
  /-- The order as it stands after matching. -/
  | orderReport (order : OrderResult)
deriving DecidableEq, Repr

/-- The instruction of the request is done. An acknowledgement of an order is not final, even
    though the client reads a fill from it: more of the order may be matched afterwards. -/
def Reply.isFinal : Reply → Bool
  | .receipt _ => true
  | .orderReport _ => true
  | _ => false

/-- Where the message of a request is; `held` is a request whose reply waits for the matching
    of the order. -/
inductive Wire where
  | unsent
  | outbound
  | held
  | inbound (reply : Reply)
  | closed
deriving DecidableEq, Repr

/-- What has become of an instruction. -/
inductive Standing where
  | unknown
  /-- In the mempool, at the relay or in the order book, brought there by this request. -/
  | taken (request : Request)
  | included (status : Bool)
  | settled (order : OrderResult)
deriving DecidableEq, Repr

/-- The instruction can have no effect any more. -/
def Standing.isFinal : Standing → Bool
  | .included _ => true
  | .settled _ => true
  | _ => false

inductive LegPhase where
  | preparing
  | awaiting (request : Request)
  /-- Asleep, or about to send this request. -/
  | due (request : Request)
  | finished (result : LegResult)
  | cancelled
  | panicked
deriving DecidableEq, Repr

/-- The leg has come back, one way or another. -/
def LegPhase.isEnded : LegPhase → Bool
  | .finished _ => true
  | .cancelled => true
  | .panicked => true
  | _ => false

/-- One leg. The requests in `unanswered` carried its instruction and have not been answered
    in a way that settles what has become of it; the code keeps no such list. -/
structure LegProcess where
  route : LegRoute
  signal : Signal
  size : ℚ
  targetBlock : ℕ
  phase : LegPhase
  unanswered : List Request
deriving DecidableEq, Repr

/-- The leg returned `success = false`, or its timeout cancelled it. -/
def LegProcess.Failed (p : LegProcess) : Prop :=
  p.phase = .cancelled ∨ ∃ result, p.phase = .finished result ∧ result.success = false

/-- What the flow that awaits the leg gets from it. A leg that was cancelled or has panicked gives
    nothing, which the flow sees as its timeout. -/
def LegProcess.answer (p : LegProcess) : Option LegResult :=
  match p.phase with
  | .finished result => some result
  | _ => none

/-- What the legs are told once. -/
structure Venues where
  exchangeType : ExchangeType
  txHash : ℕ → String
  debug : ChainError → String

/-! ## What a leg makes of an answer -/

def dexFilled (hash : String) (p : LegProcess) : LegResult where
  success := true
  price := p.signal.dexPrice
  filled := p.size
  orderId := none
  txHash := some hash
  error := none

def dexReverted (hash : String) : LegResult :=
  { LegResult.failure "Tx Reverted" with txHash := some hash }

def bundleMissed (targetBlock : ℕ) : LegResult :=
  LegResult.failure ("Bundle missed target block " ++ toString targetBlock)

/-- Attempts of `wait_for_tx`. -/
def maxAttempts : ℕ := 15

/-- `wait_for_tx`: a failed poll counts as one without a receipt. After the last one the bundle is
    taken to have missed its block, whether it has or not. -/
def nextBundlePoll (p : LegProcess) (leg poll : ℕ) : LegPhase :=
  if poll + 1 < maxAttempts then .due (.getTransactionReceipt leg (poll + 1) 0)
  else .finished (bundleMissed p.targetBlock)

/-- An error of a call that `execute_with_retry` makes for this request. -/
def LegProcess.onError (v : Venues) (p : LegProcess) (request : Request) (msg : String) :
    LegPhase :=
  match request with
  | .order _ => .finished (LegResult.failure msg)
  | .sendRawTransaction leg attempt =>
      -- The retry sends the same signed bytes again, also after `already known`.
      if callsAgain attempt (.rpcError msg) then .due (.sendRawTransaction leg (attempt + 1))
      else .finished (LegResult.failure ("Tx Failed: " ++ v.debug (.rpcError msg)))
  | .sendBundle _ => .finished (LegResult.failure ("Bundle submission failed: " ++ msg))
  | .getTransactionReceipt leg poll attempt =>
      match p.route with
      | .bundle => nextBundlePoll p leg poll
      | _ =>
          if callsAgain attempt (.rpcError msg) then
            .due (.getTransactionReceipt leg poll (attempt + 1))
          else .finished (LegResult.failure ("Tx Failed: " ++ v.debug (.rpcError msg)))

def LegProcess.onOrder (order : OrderResult) : LegPhase :=
  match cexOrderReply (.ok order) with
  | .ok result => .finished result
  | _ => .panicked

def LegProcess.onReceipt (v : Venues) (p : LegProcess) (leg : ℕ) (status : Bool) : LegPhase :=
  if status then .finished (dexFilled (v.txHash leg) p)
  else
    match p.route with
    | .bundle => .finished (bundleMissed p.targetBlock)
    | _ => .finished (dexReverted (v.txHash leg))

def LegProcess.onNoReceipt (p : LegProcess) (leg poll : ℕ) : LegPhase :=
  match p.route with
  | .bundle => nextBundlePoll p leg poll
  | _ => .due (.getTransactionReceipt leg (poll + 1) 0)

/-- What the leg makes of a reply. `known` is an error like any other to it: the text is not looked
    at, so a transaction that the node has taken is reported as failed. -/
def LegProcess.onReply (v : Venues) (p : LegProcess) (request : Request) : Reply → LegPhase
  | .taken => .due (.getTransactionReceipt request.leg 0 0)
  | .refused msg => p.onError v request msg
  | .known msg => p.onError v request msg
  | .receipt status => p.onReceipt v request.leg status
  | .noReceipt =>
      match request with
      | .getTransactionReceipt leg poll _ => p.onNoReceipt leg poll
      | _ => p.phase
  | .orderAck order => LegProcess.onOrder order
  | .orderReport order => LegProcess.onOrder order

/-- What a reply settles: a refusal its own request, a receipt or a report everything. The other
    replies say nothing about what may still happen to the instruction. -/
def Reply.settle (request : Request) (unanswered : List Request) : Reply → List Request
  | .refused _ => unanswered.filter (· ≠ request)
  | .receipt _ => []
  | .orderReport _ => []
  | _ => unanswered

/-! ## The net -/

/-- The state of everything: the legs, the message of every request, and what has become of the
    instruction of each leg. It is total in both arguments, with `none` and `unsent` for what has
    not been. -/
structure Net where
  leg : ℕ → Option LegProcess
  wire : Request → Wire
  standing : ℕ → Standing

/-- One step of one party. The label has what that party may choose, so that a run is a list of
    labels and the order of the labels is the interleaving. -/
inductive NetAction where
  /-- `execute_cex_first` or `execute_dex_first` starts a leg. -/
  | start (leg : ℕ) (route : LegRoute) (signal : Signal) (size : ℚ)
  /-- The leg returns before it submits anything. -/
  | giveUp (leg : ℕ) (price : ℚ) (error : String)
  | submit (leg targetBlock : ℕ)
  | wake (leg : ℕ)
  /-- The 120 seconds of `wait_for_receipt` are over. -/
  | receiptDeadline (leg : ℕ)
  | receive (leg : ℕ)
  /-- The connection fails, a gateway answers instead, or the HTTP timeout is over. -/
  | transportError (leg : ℕ) (msg : String)
  /-- The timeout around the leg is over. -/
  | timeout (leg : ℕ)
  | serve (request : Request) (reply : Reply)
  | hold (leg : ℕ)
  | lose (request : Request)
  | mine (leg : ℕ) (status : Bool)
  | settle (leg : ℕ) (order : OrderResult)
deriving DecidableEq, Repr

namespace Net

def init : Net where
  leg := fun _ => none
  wire := fun _ => .unsent
  standing := fun _ => .unknown

def setLeg (s : Net) (leg : ℕ) (p : LegProcess) : Net :=
  { s with leg := fun l => if l = leg then some p else s.leg l }

def setWire (s : Net) (request : Request) (w : Wire) : Net :=
  { s with wire := fun r => if r = request then w else s.wire r }

def setStanding (s : Net) (leg : ℕ) (x : Standing) : Net :=
  { s with standing := fun l => if l = leg then x else s.standing l }

@[simp] theorem setLeg_wire (s : Net) (leg : ℕ) (p : LegProcess) :
    (s.setLeg leg p).wire = s.wire := rfl

@[simp] theorem setLeg_standing (s : Net) (leg : ℕ) (p : LegProcess) :
    (s.setLeg leg p).standing = s.standing := rfl

@[simp] theorem setWire_leg (s : Net) (request : Request) (w : Wire) :
    (s.setWire request w).leg = s.leg := rfl

@[simp] theorem setWire_standing (s : Net) (request : Request) (w : Wire) :
    (s.setWire request w).standing = s.standing := rfl

@[simp] theorem setStanding_leg (s : Net) (leg : ℕ) (x : Standing) :
    (s.setStanding leg x).leg = s.leg := rfl

@[simp] theorem setStanding_wire (s : Net) (leg : ℕ) (x : Standing) :
    (s.setStanding leg x).wire = s.wire := rfl

@[simp] theorem setLeg_self (s : Net) (leg : ℕ) (p : LegProcess) :
    (s.setLeg leg p).leg leg = some p := if_pos rfl

@[simp] theorem setWire_self (s : Net) (request : Request) (w : Wire) :
    (s.setWire request w).wire request = w := if_pos rfl

@[simp] theorem setStanding_self (s : Net) (leg : ℕ) (x : Standing) :
    (s.setStanding leg x).standing leg = x := if_pos rfl

theorem setLeg_of_ne (s : Net) {leg l : ℕ} (p : LegProcess) (h : l ≠ leg) :
    (s.setLeg leg p).leg l = s.leg l := if_neg h

theorem setWire_of_ne (s : Net) {request q : Request} (w : Wire) (h : q ≠ request) :
    (s.setWire request w).wire q = s.wire q := if_neg h

theorem setStanding_of_ne (s : Net) {leg l : ℕ} (x : Standing) (h : l ≠ leg) :
    (s.setStanding leg x).standing l = s.standing l := if_neg h

/-- A leg sends a request and waits for the answer. -/
def send (s : Net) (leg : ℕ) (p : LegProcess) (request : Request) : Net :=
  (s.setLeg leg
    { p with phase := .awaiting request
             unanswered := if request.submits then request :: p.unanswered else p.unanswered
    }).setWire request .outbound

/-- The request with which a leg submits. -/
def firstRequest (leg : ℕ) : LegRoute → Request
  | .cex => .order leg
  | .mempool => .sendRawTransaction leg 0
  | .bundle => .sendBundle leg

/-- The answers the other party can give to a request, and what has become of the instruction then.
    A node may miss a receipt it could give. No party makes anything of a request twice: once the
    instruction is there, the answer changes nothing. -/
def served (v : Venues) (standing : Standing) : Request → Reply → Option Standing
  | .order leg, .orderAck _ =>
      -- Binance answers with the matched order and has no acknowledgement (`hold`).
      if v.exchangeType ≠ .binance ∧ standing = .unknown then some (.taken (.order leg)) else none
  | .order _, .refused _ => if standing = .unknown then some standing else none
  | .sendRawTransaction leg attempt, .taken =>
      if standing = .unknown then some (.taken (.sendRawTransaction leg attempt))
      else some standing
  | .sendRawTransaction _ _, .refused _ => if standing = .unknown then some standing else none
  | .sendRawTransaction _ _, .known _ => if standing = .unknown then none else some standing
  | .sendBundle leg, .taken =>
      if standing = .unknown then some (.taken (.sendBundle leg)) else some standing
  | .sendBundle _, .refused _ => if standing = .unknown then some standing else none
  | .getTransactionReceipt _ _ _, .receipt status =>
      if standing = .included status then some standing else none
  | .getTransactionReceipt _ _ _, .noReceipt => some standing
  | _, _ => none

/-- One step of the net, if the label is possible in the state. A timeout takes its leg at any time
    before it has ended, and nothing on the wire is taken back with it: the message goes on without
    a leg to wait for it. -/
def netStep (v : Venues) (s : Net) : NetAction → Option Net
  | .start leg route signal size =>
      match s.leg leg with
      | none =>
          some (s.setLeg leg
            { route := route, signal := signal, size := size, targetBlock := 0,
              phase := .preparing, unanswered := [] })
      | some _ => none
  | .giveUp leg price error =>
      match s.leg leg with
      | some p =>
          if p.phase = .preparing then
            some (s.setLeg leg
              { p with phase := .finished { LegResult.failure error with price := price } })
          else none
      | none => none
  | .submit leg targetBlock =>
      match s.leg leg with
      | some p =>
          if p.phase = .preparing then
            some (s.send leg { p with targetBlock := targetBlock } (firstRequest leg p.route))
          else none
      | none => none
  | .wake leg =>
      match s.leg leg with
      | some p =>
          match p.phase with
          | .due request => some (s.send leg p request)
          | _ => none
      | none => none
  | .receiptDeadline leg =>
      match s.leg leg with
      | some p =>
          match p.phase with
          | .due (.getTransactionReceipt _ _ 0) =>
              -- `wait_for_tx` counts its attempts instead.
              if p.route = .bundle then none
              else
                some (s.setLeg leg
                  { p with phase :=
                      .finished (LegResult.failure ("Tx Failed: " ++ v.debug .timeout)) })
          | _ => none
      | none => none
  | .receive leg =>
      match s.leg leg with
      | some p =>
          match p.phase with
          | .awaiting request =>
              match s.wire request with
              | .inbound reply =>
                  some ((s.setLeg leg
                    { p with phase := p.onReply v request reply
                             unanswered := reply.settle request p.unanswered }).setWire
                    request .closed)
              | _ => none
          | _ => none
      | none => none
  | .transportError leg msg =>
      match s.leg leg with
      | some p =>
          match p.phase with
          | .awaiting request => some (s.setLeg leg { p with phase := p.onError v request msg })
          | _ => none
      | none => none
  | .timeout leg =>
      match s.leg leg with
      | some p =>
          match p.phase with
          | .preparing => some (s.setLeg leg { p with phase := .cancelled })
          | .awaiting _ => some (s.setLeg leg { p with phase := .cancelled })
          | .due _ => some (s.setLeg leg { p with phase := .cancelled })
          | _ => none
      | none => none
  | .serve request reply =>
      if s.wire request = .outbound then
        (served v (s.standing request.leg) request reply).map fun x =>
          (s.setStanding request.leg x).setWire request (.inbound reply)
      else none
  | .hold leg =>
      -- An exchange that reports an order only when it is matched.
      if v.exchangeType = .binance ∧ s.wire (.order leg) = .outbound ∧ s.standing leg = .unknown
      then some ((s.setStanding leg (.taken (.order leg))).setWire (.order leg) .held)
      else none
  | .lose request =>
      match s.wire request with
      | .outbound => some (s.setWire request .closed)
      | .inbound _ => some (s.setWire request .closed)
      | .held => some (s.setWire request .closed)
      | _ => none
  | .mine leg status =>
      match s.standing leg with
      | .taken (.sendRawTransaction _ _) => some (s.setStanding leg (.included status))
      | .taken (.sendBundle _) => some (s.setStanding leg (.included status))
      | _ => none
  | .settle leg order =>
      match s.standing leg with
      | .taken (.order _) =>
          let s' := s.setStanding leg (.settled order)
          if s.wire (.order leg) = .held then
            some (s'.setWire (.order leg) (.inbound (.orderReport order)))
          else some s'
      | _ => none

end Net

end ArbEngine
