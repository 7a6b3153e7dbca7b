import ArbEngine.Pricing.Simulator
import ArbEngine.Proof.Pricing.Loops
import ArbEngine.Proof.Pricing.QuoteCheck

/-!
# What a scan reports

A scan calculates over the pools the engine has, and simulates through a router that only knows
the pairs of its own factory. It reports the loops that gain in both. A loop through two pools of
one pair of tokens gains in the calculation if they disagree on the price; the router sends it
there and back through one pair, where nothing is gained (`amountsOut_round_trip`). So every loop
that is reported goes through three pools: `scan_reports`.

The engine does not check that a loop has three pools, and it need not: the two halves of the
argument are far apart. That two hops gain nothing is a fact of the constant product; that a route
of three hops through the router is one of three pools follows from the walk being simple.
-/

namespace ArbEngine

open ConstantProduct

/-! ## The router -/

/-- The pairs of a factory: the reserves of two tokens, in their order. A factory has one pair at
    most for two tokens, whatever other pools there are of them. -/
structure V2Factory where
  reserves : Address → Address → Option (ℕ × ℕ)
  symm : ∀ a b, reserves b a = (reserves a b).map Prod.swap

namespace V2Factory

variable {f : V2Factory} {x : ℕ} {a b : Address} {path : List Address} {amounts : List ℕ}

/-- What goes into each pair on a path, and what comes out of the last one. Like the library of the
    contract it fails where a pair is missing or empty. -/
def amountsOut (f : V2Factory) : ℕ → List Address → Option (List ℕ)
  | _, [] => none
  | x, [_] => some [x]
  | x, a :: b :: path => do
      let (reserveIn, reserveOut) ← f.reserves a b
      if 0 < x ∧ 0 < reserveIn ∧ 0 < reserveOut then
        let amounts ←
          f.amountsOut (UniswapV2Pair.libraryAmountOut x reserveIn reserveOut) (b :: path)
        return x :: amounts
      else none

/-- One pair of a path. -/
theorem amountsOut_cons (h : f.amountsOut x (a :: b :: path) = some amounts) :
    ∃ reserveIn reserveOut rest, f.reserves a b = some (reserveIn, reserveOut) ∧
      0 < reserveIn ∧ 0 < reserveOut ∧
      f.amountsOut (UniswapV2Pair.libraryAmountOut x reserveIn reserveOut) (b :: path) =
        some rest ∧ amounts = x :: rest := by
  unfold amountsOut at h
  obtain ⟨⟨reserveIn, reserveOut⟩, hreserves, h⟩ := Option.bind_eq_some_iff.mp h
  dsimp only at h
  split at h
  · rename_i positive
    obtain ⟨rest, hrest, h⟩ := Option.bind_eq_some_iff.mp h
    exact ⟨_, _, rest, hreserves, positive.2.1, positive.2.2, hrest, (Option.some.inj h).symm⟩
  · cases h

/-- There is an amount for each token of the path. -/
theorem length_amountsOut (h : f.amountsOut x path = some amounts) :
    amounts.length = path.length := by
  induction path generalizing x amounts with
  | nil => cases h
  | cons a path ih =>
    cases path with
    | nil =>
      cases h
      rfl
    | cons b path =>
      obtain ⟨_, _, rest, -, -, -, hrest, rfl⟩ := amountsOut_cons h
      rw [List.length_cons, ih hrest]
      rfl

/-- **There and back again nothing is gained.** -/
theorem amountsOut_round_trip (h : f.amountsOut x [a, b, a] = some amounts) :
    ∃ y z, amounts = [x, y, z] ∧ z ≤ x := by
  obtain ⟨reserveIn, reserveOut, rest, there, hin, hout, hrest, rfl⟩ := amountsOut_cons h
  obtain ⟨reserveIn', reserveOut', rest', back, -, -, hlast, rfl⟩ := amountsOut_cons hrest
  rw [f.symm a b, there] at back
  cases back
  cases hlast
  exact ⟨_, _, rfl, quote_quote_le hin hout (by norm_num) (by norm_num)⟩

end V2Factory

/-! ## Simulations -/

namespace ForkNode

variable {node : ForkNode} {router sender : Address} {f : V2Factory} {route : Route}
  {amountIn : U256} {result : SimulationResult}

/-- The router swaps as the library of the contract computes it, or not at all. It may also fail
    for reasons of its own: a deadline, an allowance, a token that refuses. -/
def Routes (node : ForkNode) (router : Address) (f : V2Factory) : Prop :=
  ∀ amountIn path sender bytes, node.call (v2Call router amountIn path sender) = .ok bytes →
    ∃ amounts : List U256,
      bytes = Contracts.swapExactTokensForTokens.results.encode amounts ∧
        f.amountsOut amountIn.toNat path = some (amounts.map BitVec.toNat)

/-- The list of amounts is read back from its bytes. -/
theorem decode_amounts {amounts : List U256} (short : amounts.length < 2 ^ 128) :
    Contracts.swapExactTokensForTokens.results.decode
      (Contracts.swapExactTokensForTokens.results.encode amounts) = some amounts := by
  have length : (Contracts.swapExactTokensForTokens.results.encode amounts).length =
      32 * amounts.length + 64 := by
    show (Abi.encode [.words amounts]).length = _
    rw [Abi.length_encode]
    simp [Abi.tail]
    omega
  have decoded : Contracts.swapExactTokensForTokens.results.decode
      (Contracts.swapExactTokensForTokens.results.encode amounts ++ []) = some amounts :=
    Abi.Coding.decode_encode (by
      rw [List.append_nil, length]
      omega)
  rwa [List.append_nil] at decoded

/-- **What the router answers is read as it was computed.** -/
theorem decode_call (routes : node.Routes router f) {path : List Address} {bytes : List UInt8}
    (short : path.length < 2 ^ 128)
    (called : node.call (v2Call router amountIn path sender) = .ok bytes) :
    ∃ amounts : List U256,
      Contracts.swapExactTokensForTokens.results.decode bytes = some amounts ∧
        f.amountsOut amountIn.toNat path = some (amounts.map BitVec.toNat) := by
  obtain ⟨amounts, encoded, computed⟩ := routes _ _ _ _ called
  have few : amounts.length < 2 ^ 128 := by
    have count := V2Factory.length_amountsOut computed
    rw [List.length_map] at count
    omega
  refine ⟨amounts, ?_, computed⟩
  rw [encoded, decode_amounts few]

/-- **A simulation that succeeds says what comes out of the factory's pairs.** The simulator reads
    the last amount of the list, and zero if there is none. -/
theorem simulateRoute_success (routes : node.Routes router f)
    (short : route.path.length < 2 ^ 128)
    (h : node.simulateRoute router route amountIn sender = .ok result) :
    ∃ amounts : List U256,
      f.amountsOut amountIn.toNat (route.path.map Token.address) =
        some (amounts.map BitVec.toNat) ∧
      result.amountOut = amounts.getLast?.getD 0 := by
  unfold simulateRoute simulateV2Swap at h
  dsimp only at h
  cases called : node.call (v2Call router amountIn (route.path.map Token.address) sender) with
  | error e =>
    rw [called] at h
    cases h
  | ok bytes =>
    obtain ⟨amounts, decoded, computed⟩ :=
      decode_call routes ((List.length_map _).trans_lt short) called
    rw [called] at h
    dsimp only at h
    rw [decoded] at h
    cases h
    exact ⟨amounts, computed, rfl⟩

end ForkNode

/-! ## A fork with the pairs of a list -/

namespace V2Factory

variable {a b : Address}

/-- The reserves of a pair, if it is one of the two tokens. -/
def ofPair (pair : UniswapV2Pair) (a b : Address) : Option (ℕ × ℕ) :=
  if pair.token0.address = a ∧ pair.token1.address = b then
    some (pair.reserve0.toNat, pair.reserve1.toNat)
  else if pair.token0.address = b ∧ pair.token1.address = a then
    some (pair.reserve1.toNat, pair.reserve0.toNat)
  else none

/-- A pair has the same reserves from either side, the other way round. -/
theorem ofPair_symm (pair : UniswapV2Pair) (hne : a ≠ b) :
    ofPair pair b a = (ofPair pair a b).map Prod.swap := by
  unfold ofPair
  by_cases there : pair.token0.address = a ∧ pair.token1.address = b
  · have not_back : ¬ (pair.token0.address = b ∧ pair.token1.address = a) := by
      rintro ⟨hb, -⟩
      exact hne (there.1.symm.trans hb)
    rw [if_neg not_back, if_pos there, if_pos there]
    rfl
  · rw [if_neg there, if_neg there]
    split <;> rfl

/-- A factory of these pairs, the first of two tokens each. -/
def ofPairs (pairs : List UniswapV2Pair) : V2Factory where
  reserves a b := if a = b then none else pairs.findSome? fun pair => ofPair pair a b
  symm a b := by
    by_cases same : a = b
    · rw [if_pos same, if_pos same.symm]
      rfl
    · rw [if_neg same, if_neg (Ne.symm same)]
      induction pairs with
      | nil => rfl
      | cons pair pairs ih =>
        rw [List.findSome?_cons, List.findSome?_cons, ofPair_symm pair same]
        cases ofPair pair a b with
        | none => exact ih
        | some reserves => rfl

/-- A fork of a chain where the router of the factory is called. -/
def fork (f : V2Factory) : ForkNode where
  estimateGas _ := .ok 250000
  call tx :=
    if tx.input.length < 2 ^ 256 then
      match Contracts.swapExactTokensForTokens.decodeCall tx.input with
      | some c =>
          match f.amountsOut c.amountIn.toNat c.path with
          | some amounts =>
              -- An amount that is no word cannot be returned; the contract would have reverted.
              if ∀ amount ∈ amounts, amount < 2 ^ 256 then
                .ok (Contracts.swapExactTokensForTokens.results.encode
                  (amounts.map (BitVec.ofNat 256)))
              else .error "execution reverted"
          | none => .error "execution reverted"
      | none => .error "execution reverted"
    else .error "oversized data"
  decodeError _ := "execution reverted"

/-- The fork does what a router should. -/
theorem fork_routes (f : V2Factory) (router : Address) : f.fork.Routes router f := by
  intro amountIn path sender bytes h
  unfold fork at h
  dsimp only at h
  split at h
  · rename_i short
    have decoded : Contracts.swapExactTokensForTokens.decodeCall
        (ForkNode.v2Call router amountIn path sender).input =
          some ⟨amountIn, 0, path, sender, BitVec.allOnes 256⟩ :=
      Abi.Function.decodeCall_encodeCall short
    rw [decoded] at h
    dsimp only at h
    split at h
    · rename_i amounts computed
      split at h
      · rename_i fit
        have same : amounts.map (BitVec.toNat ∘ BitVec.ofNat 256) = amounts :=
          (List.map_congr_left fun amount hamount => Nat.mod_eq_of_lt (fit amount hamount)).trans
            (List.map_id amounts)
        refine ⟨amounts.map (BitVec.ofNat 256), (Except.ok.inj h).symm, ?_⟩
        rw [computed, List.map_map, same]
      · cases h
    · cases h
  · cases h

end V2Factory

/-! ## The loop -/

namespace PricingEngine

variable {node : ForkNode} {router sender : Address} {amountIn : U256} {clock : ℕ → ℕ}
  {route : Route} {routes : List Route} {opportunities : List Quote} {q : Quote}

/-- A simulation comes back with more than went in. -/
def gains (node : ForkNode) (router sender : Address) (amountIn : U256) (route : Route) : Bool :=
  match node.simulateRoute router route amountIn sender with
  | .ok result => result.success && decide (amountIn < result.amountOut)
  | _ => false

/-- What a report says of its route. The expected output is set to the simulated one, so a report
    is valid by construction. -/
structure Simulated (node : ForkNode) (router sender : Address) (amountIn : U256) (q : Quote) :
    Prop where
  paid : q.amountIn = amountIn
  result : ∃ result, node.simulateRoute router q.route amountIn sender = .ok result ∧
    result.success = true ∧ q.simulatedOutput = result.amountOut ∧
    q.gasEstimate = result.gasUsed
  expected : q.expectedOutput = q.simulatedOutput
  more : amountIn < q.simulatedOutput

/-- A route gains where its simulation succeeds with more than went in. -/
theorem gains_iff : gains node router sender amountIn route = true ↔
    ∃ result, node.simulateRoute router route amountIn sender = .ok result ∧
      result.success = true ∧ amountIn < result.amountOut := by
  unfold gains
  cases node.simulateRoute router route amountIn sender with
  | ok result => simp
  | err msg => simp
  | panic => simp

/-- **One route is reported, or passed by.** -/
theorem pushConfirmed_cases (node : ForkNode) (router sender : Address) (amountIn : U256)
    (clock : ℕ → ℕ) (opportunities : List Quote) (route : Route) :
    (gains node router sender amountIn route = true ∧
      ∃ q, pushConfirmed node amountIn router sender clock opportunities route =
          opportunities ++ [q] ∧
        q.route = route ∧ Simulated node router sender amountIn q) ∨
    (gains node router sender amountIn route = false ∧
      pushConfirmed node amountIn router sender clock opportunities route = opportunities) := by
  cases gain : gains node router sender amountIn route with
  | true =>
    obtain ⟨result, simulated, more⟩ := gains_iff.mp gain
    unfold pushConfirmed
    rw [simulated]
    exact .inl ⟨rfl, _, if_pos more, rfl, rfl, ⟨result, simulated, more.1, rfl, rfl⟩, rfl, more.2⟩
  | false =>
    refine .inr ⟨rfl, ?_⟩
    unfold pushConfirmed
    cases simulated : node.simulateRoute router route amountIn sender with
    | ok result =>
      refine if_neg fun more => ?_
      rw [gains_iff.mpr ⟨result, simulated, more⟩] at gain
      cases gain
    | err msg => rfl
    | panic => rfl

/-- **The reports are the routes that gain, in their order.** By induction on the routes; what has
    been reported before is left as it is. -/
theorem foldl_pushConfirmed (node : ForkNode) (router sender : Address) (amountIn : U256)
    (clock : ℕ → ℕ) (routes : List Route) (opportunities : List Quote)
    (before : ∀ q ∈ opportunities, Simulated node router sender amountIn q) :
    (routes.foldl (pushConfirmed node amountIn router sender clock) opportunities).map Quote.route =
        opportunities.map Quote.route ++ routes.filter (gains node router sender amountIn) ∧
      ∀ q ∈ routes.foldl (pushConfirmed node amountIn router sender clock) opportunities,
        Simulated node router sender amountIn q := by
  induction routes generalizing opportunities with
  | nil => exact ⟨(List.append_nil _).symm, before⟩
  | cons route routes ih =>
    rw [List.foldl_cons]
    rcases pushConfirmed_cases node router sender amountIn clock opportunities route
      with ⟨gain, q, pushed, rfl, simulated⟩ | ⟨none, same⟩
    · rw [pushed, List.filter_cons_of_pos gain]
      obtain ⟨reported, all⟩ := ih (opportunities ++ [q])
        (List.forall_mem_append.mpr ⟨before, List.forall_mem_singleton.mpr simulated⟩)
      refine ⟨?_, all⟩
      rw [reported, List.map_append, List.append_assoc]
      rfl
    · rw [same, List.filter_cons_of_neg (Bool.not_eq_true _ ▸ none)]
      exact ih opportunities before

/-- A report, with what the pairs of the factory pay along its route. -/
structure Reported (node : ForkNode) (router sender : Address) (f : V2Factory) (amountIn : U256)
    (q : Quote) : Prop where
  simulated : Simulated node router sender amountIn q
  valid : q.isValid = true
  threePools : q.route.pools.length = 3
  throughFactory : ∃ amounts,
    f.amountsOut amountIn.toNat (q.route.path.map Token.address) = some amounts ∧
      amounts.getLast? = some q.simulatedOutput.toNat

/-- A report is a valid quote: its two outputs do not differ. -/
theorem Simulated.isValid (h : Simulated node router sender amountIn q) : q.isValid = true := by
  have more : amountIn.toNat < q.simulatedOutput.toNat := BitVec.lt_def.mp h.more
  rw [Quote.isValid_iff, h.expected]
  omega

/-- **The amounts the simulation has gone through.** The last of them is what is reported. -/
theorem Simulated.amounts {f : V2Factory} (routes : node.Routes router f)
    (h : Simulated node router sender amountIn q) (short : q.route.path.length < 2 ^ 128)
    (nonempty : q.route.path ≠ []) :
    ∃ amounts, f.amountsOut amountIn.toNat (q.route.path.map Token.address) = some amounts ∧
      amounts.getLast? = some q.simulatedOutput.toNat := by
  obtain ⟨result, simulated, -, output, -⟩ := h.result
  obtain ⟨amounts, computed, last⟩ := ForkNode.simulateRoute_success routes short simulated
  refine ⟨_, computed, ?_⟩
  have count := V2Factory.length_amountsOut computed
  rw [List.length_map, List.length_map] at count
  have filled : amounts ≠ [] := by
    rintro rfl
    exact nonempty (List.length_eq_zero_iff.mp count.symm)
  rw [List.getLast?_map, output, last, List.getLast?_eq_some_getLast filled]
  rfl

section Scan

open RouteFinder SimplePaths

variable {m : TickMath} {pools : List Pool} {tokenIn : Token} {f : V2Factory}
  {p : List (Fin pools.length × Token)}

/-- **A loop of two pools gains nothing in the simulation**, so a simulated loop goes through
    three. -/
theorem reported_of_simulated (routes : node.Routes router f) (hp : p ∈ loopWalks pools tokenIn 3)
    (h : Simulated node router sender amountIn q) (hroute : q.route = along tokenIn p) :
    Reported node router sender f amountIn q := by
  obtain ⟨hwalk, hge, hle, -⟩ := mem_loopWalks.mp hp
  have path : q.route.path = tokenIn :: p.map Prod.snd := by rw [hroute]; rfl
  have short : q.route.path.length < 2 ^ 128 := by
    rw [path, List.length_cons, List.length_map]
    omega
  have through := h.amounts routes short (by rw [path]; exact List.cons_ne_nil _ _)
  refine ⟨h, h.isValid, ?_, through⟩
  have hops : q.route.pools.length = p.length := by
    rw [hroute]
    exact (List.length_map _).trans (List.length_map _)
  rw [hops]
  match p, hge, hle with
  | [(i, b), (j, c)], _, _ =>
    -- The two pools may differ; the factory has one pair for the two tokens.
    have hc : c.address = tokenIn.address := hwalk.2.2
    obtain ⟨amounts, computed, last⟩ := through
    rw [path] at computed
    change f.amountsOut _ [tokenIn.address, b.address, c.address] = _ at computed
    rw [hc] at computed
    obtain ⟨y, z, rfl, noGain⟩ := V2Factory.amountsOut_round_trip computed
    have more := BitVec.lt_def.mp h.more
    obtain rfl : z = q.simulatedOutput.toNat := Option.some.inj last
    exact absurd noGain (Nat.not_le.mpr more)
  | [_, _, _], _, _ => rfl

/-- **What a scan reports**: of the profitable simple loops, those and only those whose simulation
    brings more than goes in, each sequence of pool entries once. All are valid quotes, all go
    through three pools, and the pairs of the router's factory pay what is reported. -/
theorem scan_reports (m : TickMath) (e : PricingEngine) (pools : List Pool)
    (pairs : ∀ pool ∈ pools, pool.IsPair) (routed : e.router = some (RouteFinder.new pools))
    (node : ForkNode) (router sender : Address) (f : V2Factory) (routes : node.Routes router f)
    (tokenIn : Token) (amountIn : U256) (clock : ℕ → ℕ) :
    ∃ quotes : List Quote,
      (∀ fuel, e.scanForArbitrage m fuel node tokenIn amountIn router sender clock =
        .ended (.ok quotes)) ∧
      (∀ q ∈ quotes, Reported node router sender f amountIn q) ∧
      ∃ loops : List (List (Fin pools.length) × List Token),
        quotes.map Quote.route = loops.map (fun l => { pools := l.1.map pools.get, path := l.2 }) ∧
        (loops.map Prod.fst).Nodup ∧
        ∀ is path, (is, path) ∈ loops ↔ ArbitrageLoop m pools tokenIn amountIn 3 is path ∧
          gains node router sender amountIn { pools := is.map pools.get, path } = true := by
  let paying := (loopWalks pools tokenIn 3).filter fun p => pays m 0 amountIn (along tokenIn p)
  let found := paying.filter fun p => gains node router sender amountIn (along tokenIn p)
  obtain ⟨reported, simulated⟩ := foldl_pushConfirmed node router sender amountIn clock
    (paying.map (along tokenIn)) [] nofun
  rw [List.map_nil, List.nil_append, List.filter_map] at reported
  refine ⟨(paying.map (along tokenIn)).foldl (pushConfirmed node amountIn router sender clock) [],
    ?_, ?_, found.map fun p => (p.map Prod.fst, tokenIn :: p.map Prod.snd), ?_, ?_, ?_⟩
  · intro fuel
    unfold scanForArbitrage
    rw [routed]
    dsimp only
    rw [findArbitrageLoops_eq m pairs]
    rfl
  · intro q hq
    have hroute := List.mem_map_of_mem (f := Quote.route) hq
    rw [reported] at hroute
    obtain ⟨p, hp, hroute⟩ := List.mem_map.mp hroute
    have hp : p ∈ loopWalks pools tokenIn 3 := (List.mem_filter.mp (List.mem_filter.mp hp).1).1
    exact reported_of_simulated routes hp (simulated q hq) hroute.symm
  · rw [reported, List.map_map]
    rfl
  · rw [List.map_map]
    exact entries_nodup (List.filter_sublist.trans List.filter_sublist)
  · intro is path
    rw [List.mem_map]
    constructor
    · rintro ⟨p, hp, hpair⟩
      obtain ⟨rfl, rfl⟩ := Prod.mk.inj hpair
      obtain ⟨hp, gain⟩ := List.mem_filter.mp hp
      exact ⟨(arbitrageLoop_iff m pairs).mpr (List.mem_filter.mp hp), gain⟩
    · rintro ⟨loop, gain⟩
      obtain ⟨p, rfl, rfl⟩ := exists_arcs loop.simple.starts loop.simple.length
      have hp : p ∈ paying := List.mem_filter.mpr ((arbitrageLoop_iff m pairs).mp loop)
      exact ⟨p, List.mem_filter.mpr ⟨hp, gain⟩, rfl⟩

end Scan

/-- A token of 18 decimals. -/
def sampleToken (address : Address) (symbol : String) : Token where
  address
  decimals := 18
  symbol

/-- Three pairs of three tokens; going round, a token becomes almost two. -/
def samplePairs : List UniswapV2Pair :=
  let a := sampleToken 0x1#160 "WETH"
  let b := sampleToken 0x2#160 "USDC"
  let c := sampleToken 0x3#160 "DAI"
  [{ address := 0xab#160, token0 := a, token1 := b, reserve0 := 1000000#256
     reserve1 := 2000000#256, feeBps := 30#32 },
   { address := 0xbc#160, token0 := b, token1 := c, reserve0 := 1000000#256
     reserve1 := 1000000#256, feeBps := 30#32 },
   { address := 0xca#160, token0 := c, token1 := a, reserve0 := 1000000#256
     reserve1 := 1000000#256, feeBps := 30#32 }]

def samplePools : List Pool := samplePairs.map Pool.v2

/-- An engine with these pools, its routes built. -/
def sampleScanner : PricingEngine where
  pools := ∅
  router := some (RouteFinder.new samplePools)

/-- The loop is reported, in the direction that gains. The fork has the pairs of the engine, so the
    simulation agrees with the calculation. -/
theorem sample_loop_is_reported :
    ∃ quotes : List Quote, quotes.length = 1 ∧
      (∀ fuel, sampleScanner.scanForArbitrage UniswapV3Pool.stepMath fuel
        (V2Factory.ofPairs samplePairs).fork (sampleToken 0x1#160 "WETH") 1000#256 0x7a#160
        0xee#160 (fun _ => 1700000000) = .ended (.ok quotes)) ∧
      ∀ q ∈ quotes, Reported (V2Factory.ofPairs samplePairs).fork 0x7a#160 0xee#160
        (V2Factory.ofPairs samplePairs) 1000#256 q := by
  have pairs : ∀ pool ∈ samplePools, pool.IsPair := by
    intro pool hpool
    obtain ⟨pair, hpair, rfl⟩ := List.mem_map.mp hpool
    have fees : ∀ pair ∈ samplePairs, pair.feeBps.toNat ≤ 10000 := by decide
    exact ⟨pair, rfl, fees pair hpair⟩
  obtain ⟨quotes, ended, reported, -⟩ := scan_reports UniswapV3Pool.stepMath sampleScanner
    samplePools pairs rfl (V2Factory.ofPairs samplePairs).fork 0x7a#160 0xee#160
    (V2Factory.ofPairs samplePairs) (V2Factory.fork_routes _ _) (sampleToken 0x1#160 "WETH")
    1000#256 fun _ => 1700000000
  have count : (List.length <$> sampleScanner.scanForArbitrage UniswapV3Pool.stepMath 0
      (V2Factory.ofPairs samplePairs).fork (sampleToken 0x1#160 "WETH") 1000#256 0x7a#160
      0xee#160 (fun _ => 1700000000) : Fueled ℕ) = .ended (.ok 1) := by
    decide +kernel
  rw [ended 0] at count
  exact ⟨quotes, Outcome.ok.inj (Option.some.inj count), ended, reported⟩

end PricingEngine

end ArbEngine
