import ArbEngine.Lib.Overwrite
import ArbEngine.Lib.Run
import ArbEngine.Pricing.Engine

/-!
# The router and the pools it was made of

The engine keeps its pools twice: in the map, and in the router as a copy of what the map held
when the router was made. `load_pools` writes into the map while it reads and makes the router
at its end, so a read that fails on the way leaves the two apart (`insertRead_of_error`), where
`refresh_pool` reads before it writes.

`never_stale_iff` says for which sequences of calls the two copies agree after every call and a
call that fails changes nothing.
-/

namespace ArbEngine

open Overwrite

inductive EngineCall where
  | loadPools (poolAddresses : List (Address × Except String Pool)) (order : IterationOrder)
  | refreshPool (address : Address) (read : Except String Pool) (order : IterationOrder)

namespace PricingEngine

def call (e : PricingEngine) : EngineCall → Except String Unit × PricingEngine
  | .loadPools poolAddresses order => e.loadPools poolAddresses order
  | .refreshPool address read order => e.refreshPool address read order

def step (e : PricingEngine) (c : EngineCall) : Option PricingEngine := some (e.call c).2

/-- **The router is over the pools there are.** -/
def UpToDate (e : PricingEngine) : Prop :=
  e.pools ≠ ∅ → ∃ f, e.router = some f ∧ (f.pools : Multiset Pool) = e.pools.values ∧
    f = RouteFinder.new f.pools

/-- What a call has to leave behind. -/
structure CallSound (e : PricingEngine) (c : EngineCall) : Prop where
  upToDate : (e.call c).2.UpToDate
  unchanged : ∀ msg, (e.call c).1 = .error msg → (e.call c).2 = e

/-- Reads that succeed. -/
def answered (before : List (Address × Pool)) : List (Address × Except String Pool) :=
  before.map fun read => (read.1, .ok read.2)

/-- **Nothing new is read before a read that fails**: of each address read by then, what was read
    last is what is stored. -/
def NothingNew (e : PricingEngine) : EngineCall → Prop
  | .loadPools poolAddresses _ =>
      ∀ before addr msg rest,
        poolAddresses = answered before ++ (addr, .error msg) :: rest →
        ∀ a read, (before.filter fun r => r.1 = a).getLast? = some read →
          e.pools.lookup a = some read.2
  | .refreshPool .. => True

variable {e u : PricingEngine} {c : EngineCall} {pools after : PoolMap}
  {reads rest : List (Address × Except String Pool)} {before : List (Address × Pool)}
  {addr : Address} {msg : String} {order : IterationOrder}

/-! ## The loop -/

/-- The map with these pools put in. -/
def stored (pools : PoolMap) (before : List (Address × Pool)) : PoolMap :=
  before.foldl (fun m read => m.insert read.1 read.2) pools

theorem lookup_stored (a : Address) :
    (stored pools before).lookup a = insertAll pools.lookup before a := by
  induction before generalizing pools with
  | nil => rfl
  | cons read before ih =>
    show (stored (pools.insert read.1 read.2) before).lookup a = _
    rw [ih, insertAll_cons]
    congr 1
    funext b
    by_cases same : b = read.1
    · rw [same, Finmap.lookup_insert, if_pos rfl]
    · rw [Finmap.lookup_insert_of_ne pools same, if_neg same]

/-- **A read that fails leaves what was read before it.** -/
theorem insertRead_of_error :
    insertRead pools
      (answered before ++ (addr, .error msg) :: rest) =
        (.error msg, stored pools before) := by
  induction before generalizing pools with
  | nil => rfl
  | cons read before ih => exact ih

theorem insertRead_eq_error (h : insertRead pools reads = (.error msg, after)) :
    ∃ before addr rest,
      reads = answered before ++ (addr, .error msg) :: rest ∧
        after = stored pools before := by
  induction reads generalizing pools with
  | nil => cases h
  | cons read reads ih =>
    obtain ⟨addr, answer⟩ := read
    cases answer with
    | ok pair =>
      obtain ⟨before, failed, rest, rfl, hafter⟩ := ih h
      exact ⟨(addr, pair) :: before, failed, rest, rfl, hafter⟩
    | error text =>
      obtain ⟨hmsg, hafter⟩ := Prod.mk.inj h
      cases hmsg
      exact ⟨[], addr, reads, rfl, hafter.symm⟩

/-- Putting in what is stored already changes nothing. -/
theorem stored_eq_iff : stored pools before = pools ↔
    ∀ a read, (before.filter fun r => r.1 = a).getLast? = some read →
      pools.lookup a = some read.2 := by
  constructor
  · intro same a read last
    have found : (stored pools before).lookup a = _ := lookup_stored a
    rw [same, insertAll_apply, last] at found
    exact found
  · intro old
    apply Finmap.ext_lookup
    intro a
    rw [lookup_stored, insertAll_apply]
    cases last : (before.filter fun r => r.1 = a).getLast? with
    | none => rfl
    | some read => exact (old a read last).symm

/-! ## One call -/

theorem upToDate_withRouter : (withRouter pools order).UpToDate :=
  fun _ => ⟨_, rfl, order.exact _, rfl⟩

/-- **A call that reads nothing new before it fails is sound.** -/
theorem callSound_of_nothingNew (h : e.UpToDate) (old : e.NothingNew c) : e.CallSound c := by
  cases c with
  | loadPools poolAddresses order =>
    cases loop : insertRead e.pools poolAddresses with
    | mk answer pools =>
      cases answer with
      | ok =>
        have made : e.call (.loadPools poolAddresses order) =
            (.ok (), withRouter pools order) := by
          simp only [call, loadPools, loop]
        constructor
        · rw [made]
          exact upToDate_withRouter
        · rw [made]
          intro msg hmsg
          cases hmsg
      | error text =>
        obtain ⟨before, addr, rest, split, rfl⟩ := insertRead_eq_error loop
        have same : stored e.pools before = e.pools :=
          stored_eq_iff.mpr (old before addr text rest split)
        have left : e.call (.loadPools poolAddresses order) = (.error text, e) := by
          simp only [call, loadPools, loop, same]
        constructor
        · rw [left]
          exact h
        · rw [left]
          exact fun _ _ => rfl
  | refreshPool address read order =>
    by_cases known : address ∈ e.pools
    · cases read with
      | ok newPair =>
        have made : e.call (.refreshPool address (.ok newPair) order) =
            (.ok (), withRouter (e.pools.insert address newPair) order) := if_pos known
        constructor
        · rw [made]
          exact upToDate_withRouter
        · rw [made]
          intro msg hmsg
          cases hmsg
      | error text =>
        have left : e.call (.refreshPool address (.error text) order) = (.error text, e) :=
          if_pos known
        constructor
        · rw [left]
          exact h
        · rw [left]
          exact fun _ _ => rfl
    · have left : e.call (.refreshPool address read order) = (.ok (), e) := if_neg known
      constructor
      · rw [left]
        exact h
      · rw [left]
        exact fun _ _ => rfl

/-- And no other call is. -/
theorem nothingNew_of_callSound (h : e.CallSound c) : e.NothingNew c := by
  cases c with
  | refreshPool address read order => trivial
  | loadPools poolAddresses order =>
    rintro before addr msg rest rfl
    have loop : insertRead e.pools
        (answered before ++ (addr, .error msg) :: rest) =
          (.error msg, stored e.pools before) := insertRead_of_error
    have left : e.call (.loadPools
        (answered before ++ (addr, .error msg) :: rest) order) =
          (.error msg, { e with pools := stored e.pools before }) := by
      simp only [call, loadPools, loop]
    have same := h.unchanged msg (by rw [left])
    rw [left] at same
    exact stored_eq_iff.mp (congrArg PricingEngine.pools same)

/-! ## Every sequence of calls -/

/-- What is so at every call of a sequence that a new engine gets. -/
def AtEveryCall (calls : List EngineCall) (P : PricingEngine → EngineCall → Prop) : Prop :=
  ∀ past c rest e, calls = past ++ c :: rest → Run step new past e → P e c

theorem upToDate_run {calls : List EngineCall} (run : GuardedRun step NothingNew new calls e) :
    e.UpToDate := by
  refine run.invariant ?_ fun nonempty => absurd rfl nonempty
  intro e u c h old next
  cases next
  exact (callSound_of_nothingNew h old).upToDate

/-- **The engine never routes over stale pools, and a call that fails changes nothing, exactly
    where no call has read anything new before it fails.** -/
theorem never_stale_iff (calls : List EngineCall) :
    AtEveryCall calls CallSound ↔ AtEveryCall calls NothingNew := by
  constructor
  · intro sound past c rest e split run
    exact nothingNew_of_callSound (sound past c rest e split run)
  · intro old past c rest e split run
    have guarded : GuardedRun step NothingNew new past e := by
      apply run.of_steps
      rintro prior i more u rfl run'
      exact old prior i (more ++ c :: rest) u (by rw [split, List.append_assoc, List.cons_append])
        run'
    exact callSound_of_nothingNew (upToDate_run guarded) (old past c rest e split run)

/-! ## A second load that fails -/

noncomputable def anyOrder : IterationOrder where
  list := Multiset.toList
  exact := Multiset.coe_toList

/-- A pool of two tokens with these reserves. -/
def samplePool (reserve : U256) : Pool :=
  .v2 { address := 0x9#160
        token0 := { address := 0x1#160, decimals := 18, symbol := "WETH" }
        token1 := { address := 0x2#160, decimals := 6, symbol := "USDC" }
        reserve0 := reserve, reserve1 := reserve, feeBps := 30#32 }

/-- The pool is loaded, and loaded again together with one that cannot be read. -/
noncomputable def reloadFails : List EngineCall :=
  [.loadPools [(0x9#160, .ok (samplePool 1000#256))] anyOrder,
    .loadPools [(0x9#160, .ok (samplePool 2000#256)), (0x8#160, .error "timeout")] anyOrder]

theorem sample_reload_stale : ¬AtEveryCall reloadFails CallSound := by
  intro sound
  have run : Run step new [.loadPools [(0x9#160, .ok (samplePool 1000#256))] anyOrder]
      (withRouter ((∅ : PoolMap).insert 0x9#160 (samplePool 1000#256)) anyOrder) :=
    .single trivial rfl
  have old := nothingNew_of_callSound (sound _ _ [] _ rfl run) [(0x9#160, samplePool 2000#256)]
    0x8#160 "timeout" [] rfl 0x9#160 _ rfl
  have found : Finmap.lookup 0x9#160 ((∅ : PoolMap).insert 0x9#160 (samplePool 1000#256)) =
      some (samplePool 1000#256) := Finmap.lookup_insert _
  have equal := found.symm.trans old
  simp [samplePool] at equal

end PricingEngine

end ArbEngine
