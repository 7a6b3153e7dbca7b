import ArbEngine.Executor.DexLeg

/-!
# The allowance of the router (`executor/src/engine.rs`)

`ensure_allowance` reads what the router may spend, and where that is too little sends one or two
approvals, each by a `send_and_wait` of its own: first a reset, whose outcome it does not look at,
then the approval of everything. Each is built with the number the wallet has on the chain at that
moment, and may be given up while it is still on its way. `ensureStep` is a step of the function or
of the chain; labels choose, so a run is any interleaving of the two.

The wallet has other business meanwhile. Its swaps go through the router, which takes their input
out of the allowance: a token takes what was spent off it, or leaves an unlimited one as it is. No
second call approves at the same time.
-/

namespace ArbEngine

/-- An approval that was signed, with the number of its transaction. -/
structure Approval where
  id : ℕ
  nonce : ℕ
  amount : U256
deriving DecidableEq, Repr

/-- What the chain has of one wallet, token and router: the number the wallet is at, the allowance,
    the approvals that were submitted, and those in a block with their status. -/
structure TokenWorld where
  nonce : ℕ
  allowance : U256
  submitted : List Approval
  included : List (Approval × Bool)
deriving DecidableEq, Repr

/-- `U256::MAX`. -/
def maxAllowance : U256 := BitVec.allOnes 256

/-- A strict token refuses to change an allowance that is not zero into another one. -/
def approvable (strict : Bool) (current amount : U256) : Bool :=
  !strict || current == 0#256 || amount == 0#256

inductive EnsurePhase where
  | reading
  | due (amount : U256)
  | built (approval : Approval)
  | awaiting (approval : Approval)
  | done (result : Except String Unit)

/-- A call of `ensure_allowance`; `fresh` names the next approval, and `seen` is what was read.
    Two numbers are kept for the record: `spent`, what has been taken out of the allowance since it
    was last set (or the call began), and `spentSeen`, how much of that was gone when it was read. -/
structure Ensuring where
  world : TokenWorld
  fresh : ℕ
  seen : Option (Except String U256)
  spent : ℕ
  spentSeen : ℕ
  phase : EnsurePhase

inductive EnsureLabel where
  /-- The allowance is read, or the call fails with this text. -/
  | read (failure : Option String)
  | build
  | submit
  /-- The `send_and_wait` at hand comes back with an error. -/
  | fail (e : String)
  | receipt
  /-- A block takes an approval up, with enough gas or without. -/
  | mine (approval : Approval) (enoughGas : Bool)
  /-- It takes up a transaction of the wallet that is none of these approvals, and this much is
      spent by it. -/
  | mineOther (spent : U256)

namespace Ensuring

def start (world : TokenWorld) (fresh : ℕ) : Ensuring where
  world
  fresh
  seen := none
  spent := 0
  spentSeen := 0
  phase := .reading

/-- Where the function goes once it knows the allowance. -/
def afterRead (amount currentAllowance : U256) : EnsurePhase :=
  if currentAllowance < amount then
    if 0#256 < currentAllowance then .due 0#256 else .due maxAllowance
  else .done (.ok ())

/-- Where it goes after a `send_and_wait` that failed; a reset is followed by the approval. -/
def afterFailure (amount : U256) (e : String) : EnsurePhase :=
  if amount = 0#256 then .due maxAllowance else .done (.error ("Approve failed: " ++ e))

def afterReceipt (amount : U256) (status : Bool) : EnsurePhase :=
  if amount = 0#256 then .due maxAllowance
  else if status then .done (.ok ())
  else .done (.error "Approve reverted on-chain")

def read (s : Ensuring) (amount : U256) (failure : Option String) : Option Ensuring :=
  match s.phase, failure with
  | .reading, none =>
      some { s with
        seen := some (.ok s.world.allowance)
        spentSeen := s.spent
        phase := afterRead amount s.world.allowance }
  | .reading, some e => some { s with seen := some (.error e), phase := .done (.error e) }
  | _, _ => none

def build (s : Ensuring) : Option Ensuring :=
  match s.phase with
  | .due amount =>
      some { s with
        fresh := s.fresh + 1
        phase := .built { id := s.fresh, nonce := s.world.nonce, amount } }
  | _ => none

def submit (s : Ensuring) : Option Ensuring :=
  match s.phase with
  | .built approval =>
      some { s with
        world := { s.world with submitted := s.world.submitted ++ [approval] }
        phase := .awaiting approval }
  | _ => none

def fail (s : Ensuring) (e : String) : Option Ensuring :=
  match s.phase with
  | .due amount => some { s with phase := afterFailure amount e }
  | .built approval => some { s with phase := afterFailure approval.amount e }
  | .awaiting approval => some { s with phase := afterFailure approval.amount e }
  | _ => none

def receipt (s : Ensuring) : Option Ensuring :=
  match s.phase with
  | .awaiting approval =>
      (s.world.included.lookup approval).map fun status =>
        { s with phase := afterReceipt approval.amount status }
  | _ => none

/-- A block takes up an approval of the number the wallet is at. -/
def mine (s : Ensuring) (strict : Bool) (approval : Approval) (enoughGas : Bool) :
    Option Ensuring :=
  if approval ∈ s.world.submitted ∧ approval.nonce = s.world.nonce then
    let status := enoughGas && approvable strict s.world.allowance approval.amount
    some { s with
      world := { s.world with
        nonce := s.world.nonce + 1
        allowance := if status then approval.amount else s.world.allowance
        included := s.world.included ++ [(approval, status)] }
      spent := if status then 0 else s.spent
      spentSeen := if status then 0 else s.spentSeen }
  else none

/-- A transaction that would spend more than is allowed takes nothing. -/
def mineOther (s : Ensuring) (spent : U256) : Option Ensuring :=
  if spent ≤ s.world.allowance then
    some { s with
      world := { s.world with
        nonce := s.world.nonce + 1
        allowance := s.world.allowance - spent }
      spent := s.spent + spent.toNat }
  else none

end Ensuring

def ensureStep (strict : Bool) (amount : U256) (s : Ensuring) : EnsureLabel → Option Ensuring
  | .read failure => s.read amount failure
  | .build => s.build
  | .submit => s.submit
  | .fail e => s.fail e
  | .receipt => s.receipt
  | .mine approval enoughGas => s.mine strict approval enoughGas
  | .mineOther spent => s.mineOther spent

end ArbEngine
