import ArbEngine.Pricing.FromChain
import ArbEngine.Proof.Pricing.LoadedPools
import ArbEngine.Proof.Pricing.V2Solidity

/-!
# Pools as they were on the chain

The chain moves on while a pool is read. A contract is what its functions answer at each moment
(`PoolContract`), and the node answers with that or not at all. The reserves of a pair come in one
answer, so a pair that is read quotes what the chain would have quoted at one moment of the read;
liquidity and price of a V3 pool come in two, the liquidity first (`WasOnChain`). A pair is never
read as a V3 pool nor the other way around, however the node fails: `loaded_pools_were_on_chain`.

Only what a token says of itself is not to be relied on: where the node fails there, a token has 18
decimals and no name (`tokenAt`).
-/

namespace ArbEngine

namespace EthNode

variable {node : EthNode} {Results : Type} {address : Address} {f : Abi.Function Unit Results}
  {value : ℕ → Results} {context : Option String} {i j : ℕ}

/-- The call of a function of a contract, about the latest block. -/
def request (address : Address) (f : Abi.Function Unit Results) : EthCall :=
  (UniswapV2Pair.makeReq address (f.encodeCall ())).ethCall none

/-- The node answers the call of this function at this moment, whatever it says. -/
def Answered (node : EthNode) (i : ℕ) (address : Address) (f : Abi.Function Unit Results) : Prop :=
  ∃ bytes, node.call i (request address f) = .ok bytes

/-- If the node answers, it is what the function returns at that moment. It may fail at any time;
    what it does not do is make an answer up. -/
def Returns (node : EthNode) (address : Address) (f : Abi.Function Unit Results)
    (value : ℕ → Results) : Prop :=
  ∀ i bytes, node.call i (request address f) = .ok bytes → bytes = f.results.encode (value i)

/-- There is no such function. -/
def Lacks (node : EthNode) (address : Address) (f : Abi.Function Unit Results) : Prop :=
  ∀ i, ¬ node.Answered i address f

/-! ## One call -/

/-- A call that is answered takes one moment. Errors are given a context on the way, which answers
    do not have. -/
theorem ask_eq_ok {bytes : List UInt8} :
    node.ask context address f none i = .ok bytes j ↔
      node.call i (request address f) = .ok bytes ∧ j = i + 1 := by
  unfold ask
  rw [Asking.ask_eq_ok]
  refine and_congr_left fun _ => ?_
  show Except.mapError _ (node.call i (request address f)) = _ ↔ _
  cases node.call i (request address f) with
  | ok bytes' =>
    constructor
    · intro h
      cases h
      rfl
    · intro h
      cases h
      rfl
  | error e =>
    constructor
    · intro h
      cases h
    · intro h
      cases h

/-- What a function returns is read back from its encoding. -/
theorem decode_encode {r : Results} (short : (f.results.encode r).length < 2 ^ 256) :
    f.results.decode (f.results.encode r) = some r := by
  have h : f.results.decode (f.results.encode r ++ []) = some r :=
    Abi.Coding.decode_encode (by rwa [List.append_nil])
  rwa [List.append_nil] at h

/-- **What is read is what the function returns at the moment of the call.** The bytes are decoded
    after they have arrived, so between the call and the reading the chain may have moved on
    already. -/
theorem read_eq_ok_iff (returns : node.Returns address f value)
    (short : ∀ i, (f.results.encode (value i)).length < 2 ^ 256) {r : Results} :
    node.read context address f none i = .ok r j ↔
      node.Answered i address f ∧ r = value i ∧ j = i + 1 := by
  unfold read
  rw [Asking.bind_eq_ok]
  have decoded := decode_encode (short i)
  constructor
  · rintro ⟨bytes, k, asked, read⟩
    obtain ⟨answer, rfl⟩ := ask_eq_ok.mp asked
    obtain ⟨hfound, rfl⟩ := Asking.found_eq_ok.mp read
    obtain rfl := returns i bytes answer
    rw [decoded] at hfound
    exact ⟨⟨_, answer⟩, (Option.some.inj hfound).symm, rfl⟩
  · rintro ⟨⟨bytes, answer⟩, rfl, rfl⟩
    obtain rfl := returns i bytes answer
    exact ⟨_, _, ask_eq_ok.mpr ⟨answer, rfl⟩, Asking.found_eq_ok.mpr ⟨decoded, rfl⟩⟩

/-- Results of a few words. -/
theorem short_of_words {n : ℕ} (kinds : f.results.kinds = List.replicate n .word) (few : n < 32)
    (r : Results) : (f.results.encode r).length < 2 ^ 256 := by
  rw [Abi.Coding.length_encode kinds]
  omega

/-- The reading of a few words. -/
theorem read_words_iff {n : ℕ} (returns : node.Returns address f value)
    (kinds : f.results.kinds = List.replicate n .word) (few : n < 32) (context : Option String)
    (i j : ℕ) (r : Results) :
    node.read context address f none i = .ok r j ↔
      node.Answered i address f ∧ r = value i ∧ j = i + 1 :=
  read_eq_ok_iff returns fun _ => short_of_words kinds few _

/-- A function that is not there is not read: the node has no answer to such a call. -/
theorem not_read_of_lacks (lacks : node.Lacks address f) {r : Results} :
    node.read context address f none i ≠ .ok r j := by
  intro h
  obtain ⟨bytes, k, asked, -⟩ := Asking.bind_eq_ok.mp h
  exact lacks i ⟨bytes, (ask_eq_ok.mp asked).1⟩

/-- Reading never goes back in time, also when it fails. -/
theorem forward_read : Asking.Forward (node.read context address f none) :=
  Asking.forward_bind Asking.forward_ask fun _ => Asking.forward_found

open Classical in
/-- Where the call fails there are no bytes, and nothing is read. The source uses this to go on
    without the name or the decimals of a token. -/
theorem decode_getD_ask (returns : node.Returns address f value)
    (short : ∀ i, (f.results.encode (value i)).length < 2 ^ 256)
    (empty : f.results.decode [] = none) :
    ∃ bytes, (Asking.getD (node.ask none address f none) [] : Asking ReadError _) i =
        .ok bytes (i + 1) ∧
      f.results.decode bytes = if node.Answered i address f then some (value i) else none := by
  refine ⟨_, Asking.getD_ask, ?_⟩
  show f.results.decode
    ((Except.mapError _ (node.call i (request address f))).toOption.getD []) = _
  cases answer : node.call i (request address f) with
  | ok bytes =>
    obtain rfl := returns i bytes answer
    rw [if_pos ⟨_, answer⟩]
    exact decode_encode (short i)
  | error e =>
    have open' : ¬ node.Answered i address f := by
      rintro ⟨bytes, h⟩
      rw [answer] at h
      cases h
    rw [if_neg open']
    exact empty

end EthNode

/-! ## What is on the chain -/

/-- What the contract of a token says of itself. -/
structure TokenInfo where
  decimals : BitVec 8
  symbol : List UInt8

/-- There is a contract at this address that answers with this. The two do not change while the
    chain goes on. -/
structure TokenInfo.Deployed (t : TokenInfo) (node : EthNode) (address : Address) : Prop where
  decimals : node.Returns address Contracts.decimals fun _ => t.decimals
  symbol : node.Returns address Contracts.symbol fun _ => t.symbol
  /-- No contract has more storage. -/
  short : t.symbol.length < 2 ^ 128

/-- A contract of Uniswap V2: its tokens are fixed, and its reserves are a function of time. -/
structure PairInfo where
  token0 : Address
  token1 : Address
  reserves : ℕ → Contracts.Reserves

/-- It is at this address, and it is no V3 pool: it has no function `liquidity`. -/
structure PairInfo.Deployed (c : PairInfo) (node : EthNode) (address : Address) : Prop where
  token0 : node.Returns address Contracts.token0 fun _ => c.token0
  token1 : node.Returns address Contracts.token1 fun _ => c.token1
  reserves : node.Returns address Contracts.getReserves c.reserves
  noLiquidity : node.Lacks address Contracts.liquidity

/-- A contract of Uniswap V3. Liquidity and price move with time, each by its own function. -/
structure V3Info where
  token0 : Address
  token1 : Address
  fee : BitVec 24
  tickSpacing : BitVec 24
  liquidity : ℕ → U128
  slot0 : ℕ → Contracts.Slot0

/-- It is at this address, and it is no pair: it has no function `getReserves`. -/
structure V3Info.Deployed (c : V3Info) (node : EthNode) (address : Address) : Prop where
  token0 : node.Returns address Contracts.token0 fun _ => c.token0
  token1 : node.Returns address Contracts.token1 fun _ => c.token1
  fee : node.Returns address Contracts.fee fun _ => c.fee
  tickSpacing : node.Returns address Contracts.tickSpacing fun _ => c.tickSpacing
  liquidity : node.Returns address Contracts.liquidity c.liquidity
  slot0 : node.Returns address Contracts.slot0 c.slot0
  noReserves : node.Lacks address Contracts.getReserves

/-! ## Tokens -/

open Classical in
/-- A token as it is read from a moment on. The source makes up what the node has not answered: 18
    decimals, and a name that says it is unknown. -/
noncomputable def tokenAt (node : EthNode) (t : TokenInfo) (address : Address) (i : ℕ) : Token where
  address
  decimals := if node.Answered i address Contracts.decimals then t.decimals.toNat else 18
  symbol := if node.Answered (i + 1) address Contracts.symbol then node.text t.symbol else "UNK"

namespace UniswapV2Pair

variable {node : EthNode} {t : TokenInfo} {address : Address} {i j : ℕ}

/-- A name is short enough for its encoding to be decoded. -/
theorem length_symbol_lt (bs : List UInt8) (short : bs.length < 2 ^ 128) :
    (Contracts.symbol.results.encode bs).length < 2 ^ 256 := by
  show (Abi.encode [.bytes bs]).length < 2 ^ 256
  have filled := Abi.length_padding_lt bs.length
  rw [Abi.length_encode]
  simp only [List.flatMap_cons, List.flatMap_nil, Abi.tail, List.append_nil, List.length_append,
    List.length_cons, List.length_nil, Abi.length_ofNat]
  omega

/-- **Reading a token always ends**, with what the node has not answered made up. So a token takes
    two moments in any case. -/
theorem fetchTokenDetails_eq (token : t.Deployed node address) :
    fetchTokenDetails node address none i = .ok (tokenAt node t address i) (i + 2) := by
  obtain ⟨dRes, dAsked, hd⟩ := EthNode.decode_getD_ask (i := i) token.decimals
    (fun _ => EthNode.short_of_words (n := 1) rfl (by norm_num) _) rfl
  obtain ⟨sRes, sAsked, hs⟩ := EthNode.decode_getD_ask (i := i + 1) token.symbol
    (fun _ => length_symbol_lt _ token.short) rfl
  unfold fetchTokenDetails
  rw [Asking.bind_of_ok dAsked]
  dsimp only
  rw [Asking.bind_of_ok sAsked, hd, hs]
  unfold tokenAt
  split <;> split <;> rfl

/-- And time goes on meanwhile. -/
theorem forward_fetchTokenDetails : Asking.Forward (fetchTokenDetails node address none) :=
  Asking.forward_bind (Asking.forward_getD Asking.forward_ask) fun _ =>
    Asking.forward_bind (Asking.forward_getD Asking.forward_ask) fun _ => Asking.forward_pure

end UniswapV2Pair

/-! ## Pools -/

/-- A pair as it is read from a moment on. Each field is from the moment in which it was asked for:
    the tokens first, with two calls for each, and the reserves at the end, both in one answer. The
    fee is not on the chain; the source puts in 30 basis points. -/
noncomputable def PairInfo.pairAt (c : PairInfo) (node : EthNode) (tokens : Address → TokenInfo)
    (address : Address) (i : ℕ) : UniswapV2Pair where
  address
  token0 := tokenAt node (tokens c.token0) c.token0 (i + 2)
  token1 := tokenAt node (tokens c.token1) c.token1 (i + 4)
  reserve0 := (c.reserves (i + 6)).reserve0.setWidth 256
  reserve1 := (c.reserves (i + 6)).reserve1.setWidth 256
  feeBps := 30

/-- A V3 pool as it is read from a moment on. Its liquidity is one moment older than its price, and
    no tick is loaded. -/
noncomputable def V3Info.poolAt (c : V3Info) (node : EthNode) (tokens : Address → TokenInfo)
    (address : Address) (i : ℕ) : UniswapV3Pool where
  address
  token0 := tokenAt node (tokens c.token0) c.token0 (i + 2)
  token1 := tokenAt node (tokens c.token1) c.token1 (i + 4)
  liquidity := c.liquidity (i + 6)
  sqrtPriceX96 := (c.slot0 (i + 7)).sqrtPriceX96.setWidth 256
  tick := (c.slot0 (i + 7)).tick.toInt
  fee := c.fee.setWidth 32
  tickSpacing := c.tickSpacing.toInt
  ticks := ∅

section Pools

variable {node : EthNode} {tokens : Address → TokenInfo} {address : Address} {i j : ℕ}

/-- Loading a pair succeeds exactly where its three calls are answered, and makes the pair of these
    answers. It takes seven moments; the reads of its tokens cannot fail. -/
theorem PairInfo.Deployed.fromChain_eq {c : PairInfo} (pair : c.Deployed node address)
    (token0 : (tokens c.token0).Deployed node c.token0)
    (token1 : (tokens c.token1).Deployed node c.token1) {p : UniswapV2Pair} :
    UniswapV2Pair.fromChain node address none i = .ok p j ↔
      (node.Answered i address Contracts.token0 ∧ node.Answered (i + 1) address Contracts.token1 ∧
        node.Answered (i + 6) address Contracts.getReserves) ∧
      p = c.pairAt node tokens address i ∧ j = i + 7 := by
  have read0 := EthNode.read_words_iff (n := 1) pair.token0 rfl (by norm_num)
  have read1 := EthNode.read_words_iff (n := 1) pair.token1 rfl (by norm_num)
  have reserves := EthNode.read_words_iff (n := 3) pair.reserves rfl (by norm_num)
  have details0 := fun k => UniswapV2Pair.fetchTokenDetails_eq (i := k) token0
  have details1 := fun k => UniswapV2Pair.fetchTokenDetails_eq (i := k) token1
  unfold UniswapV2Pair.fromChain
  simp only [Asking.bind_eq_ok, read0, read1, reserves, Asking.pure_eq_ok]
  constructor
  · rintro ⟨_, _, ⟨h0, rfl, rfl⟩, _, _, ⟨h1, rfl, rfl⟩, _, _, t0, _, _, t1, _, _,
      ⟨h2, rfl, rfl⟩, rfl, rfl⟩
    rw [details0] at t0
    cases t0
    rw [details1] at t1
    cases t1
    exact ⟨⟨h0, h1, h2⟩, rfl, rfl⟩
  · rintro ⟨⟨h0, h1, h2⟩, rfl, rfl⟩
    exact ⟨_, _, ⟨h0, rfl, rfl⟩, _, _, ⟨h1, rfl, rfl⟩, _, _, details0 _, _, _, details1 _, _, _,
      ⟨h2, rfl, rfl⟩, rfl, rfl⟩

/-- Loading a V3 pool succeeds exactly where its six calls are answered, and makes the pool of
    these answers. It takes ten moments, and again the reads of the tokens cannot fail. -/
theorem V3Info.Deployed.fromChain_eq {c : V3Info} (pool : c.Deployed node address)
    (token0 : (tokens c.token0).Deployed node c.token0)
    (token1 : (tokens c.token1).Deployed node c.token1) {p : UniswapV3Pool} :
    UniswapV3Pool.fromChain node address none i = .ok p j ↔
      ((node.Answered i address Contracts.token0 ∧ node.Answered (i + 1) address Contracts.token1) ∧
        (node.Answered (i + 6) address Contracts.liquidity ∧
          node.Answered (i + 7) address Contracts.slot0) ∧
        node.Answered (i + 8) address Contracts.fee ∧
        node.Answered (i + 9) address Contracts.tickSpacing) ∧
      p = c.poolAt node tokens address i ∧ j = i + 10 := by
  have read0 := EthNode.read_words_iff (n := 1) pool.token0 rfl (by norm_num)
  have read1 := EthNode.read_words_iff (n := 1) pool.token1 rfl (by norm_num)
  have liq := EthNode.read_words_iff (n := 1) pool.liquidity rfl (by norm_num)
  have s0 := EthNode.read_words_iff (n := 7) pool.slot0 rfl (by norm_num)
  have fee := EthNode.read_words_iff (n := 1) pool.fee rfl (by norm_num)
  have ts := EthNode.read_words_iff (n := 1) pool.tickSpacing rfl (by norm_num)
  have details0 := fun k => UniswapV2Pair.fetchTokenDetails_eq (i := k) token0
  have details1 := fun k => UniswapV2Pair.fetchTokenDetails_eq (i := k) token1
  unfold UniswapV3Pool.fromChain
  simp only [Asking.bind_eq_ok, read0, read1, liq, s0, fee, ts, Asking.pure_eq_ok]
  constructor
  · rintro ⟨_, _, ⟨h0, rfl, rfl⟩, _, _, ⟨h1, rfl, rfl⟩, _, _, t0, _, _, t1, _, _, ⟨h2, rfl, rfl⟩,
      _, _, ⟨h3, rfl, rfl⟩, _, _, ⟨h4, rfl, rfl⟩, _, _, ⟨h5, rfl, rfl⟩, rfl, rfl⟩
    -- a token is read by two calls of its own
    rw [details0] at t0
    cases t0
    rw [details1] at t1
    cases t1
    exact ⟨⟨⟨h0, h1⟩, ⟨h2, h3⟩, h4, h5⟩, rfl, rfl⟩
  · rintro ⟨⟨⟨h0, h1⟩, ⟨h2, h3⟩, h4, h5⟩, rfl, rfl⟩
    exact ⟨_, _, ⟨h0, rfl, rfl⟩, _, _, ⟨h1, rfl, rfl⟩, _, _, details0 _, _, _, details1 _, _, _,
      ⟨h2, rfl, rfl⟩, _, _, ⟨h3, rfl, rfl⟩, _, _, ⟨h4, rfl, rfl⟩, _, _, ⟨h5, rfl, rfl⟩, rfl, rfl⟩

/-- **A contract without liquidity is never read as a V3 pool.** After the tokens it is asked for
    its liquidity, and that is a call which cannot be answered. -/
theorem not_v3_of_lacks (lacks : node.Lacks address Contracts.liquidity) {p : UniswapV3Pool} :
    UniswapV3Pool.fromChain node address none i ≠ .ok p j := by
  intro h
  obtain ⟨_, _, -, h⟩ := Asking.bind_eq_ok.mp h
  obtain ⟨_, _, -, h⟩ := Asking.bind_eq_ok.mp h
  obtain ⟨_, _, -, h⟩ := Asking.bind_eq_ok.mp h
  obtain ⟨_, _, -, h⟩ := Asking.bind_eq_ok.mp h
  obtain ⟨_, _, read, -⟩ := Asking.bind_eq_ok.mp h
  exact EthNode.not_read_of_lacks lacks read

/-- **A contract without reserves is never read as a pair.** They are what it is asked for last,
    after its tokens have been read. -/
theorem not_v2_of_lacks (lacks : node.Lacks address Contracts.getReserves) {p : UniswapV2Pair} :
    UniswapV2Pair.fromChain node address none i ≠ .ok p j := by
  intro h
  obtain ⟨_, _, -, h⟩ := Asking.bind_eq_ok.mp h
  obtain ⟨_, _, -, h⟩ := Asking.bind_eq_ok.mp h
  obtain ⟨_, _, -, h⟩ := Asking.bind_eq_ok.mp h
  obtain ⟨_, _, -, h⟩ := Asking.bind_eq_ok.mp h
  obtain ⟨_, _, read, -⟩ := Asking.bind_eq_ok.mp h
  exact EthNode.not_read_of_lacks lacks read

theorem forward_v2 : Asking.Forward (UniswapV2Pair.fromChain node address none) :=
  Asking.forward_bind EthNode.forward_read fun _ =>
    Asking.forward_bind EthNode.forward_read fun _ =>
      Asking.forward_bind UniswapV2Pair.forward_fetchTokenDetails fun _ =>
        Asking.forward_bind UniswapV2Pair.forward_fetchTokenDetails fun _ =>
          Asking.forward_bind EthNode.forward_read fun _ => Asking.forward_pure

end Pools

/-! ## Pools of either kind -/

/-- A contract of one kind or the other. Which kind it is the engine does not know; it tries. -/
inductive PoolContract where
  | v2 (c : PairInfo)
  | v3 (c : V3Info)

namespace PoolContract

/-- The contract is there, and so are those of its tokens. -/
def Deployed (node : EthNode) (tokens : Address → TokenInfo) (address : Address) :
    PoolContract → Prop
  | .v2 c => c.Deployed node address ∧ (tokens c.token0).Deployed node c.token0 ∧
      (tokens c.token1).Deployed node c.token1
  | .v3 c => c.Deployed node address ∧ (tokens c.token0).Deployed node c.token0 ∧
      (tokens c.token1).Deployed node c.token1

/-- The node answers all that is asked about it. -/
def Responds (node : EthNode) (address : Address) : PoolContract → Prop
  | .v2 _ => ∀ i, node.Answered i address Contracts.token0 ∧
      node.Answered i address Contracts.token1 ∧ node.Answered i address Contracts.getReserves
  | .v3 _ => ∀ i, (node.Answered i address Contracts.token0 ∧
      node.Answered i address Contracts.token1) ∧
      (node.Answered i address Contracts.liquidity ∧ node.Answered i address Contracts.slot0) ∧
      node.Answered i address Contracts.fee ∧ node.Answered i address Contracts.tickSpacing

end PoolContract

/-- The pair quotes what the contract does with these reserves, in both directions. The contract's
    arithmetic is that of the Solidity library. -/
structure UniswapV2Pair.QuotesLike (p : UniswapV2Pair) (r : Contracts.Reserves) : Prop where
  zeroForOne : ∀ amountIn : U256, amountIn.toNat < 2 ^ 112 →
    ∃ amountOut, p.getAmountOut amountIn p.token0 = .ok amountOut ∧
      amountOut.toNat = libraryAmountOut amountIn.toNat r.reserve0.toNat r.reserve1.toNat
  oneForZero : p.token1.address ≠ p.token0.address → ∀ amountIn : U256,
    amountIn.toNat < 2 ^ 112 →
    ∃ amountOut, p.getAmountOut amountIn p.token1 = .ok amountOut ∧
      amountOut.toNat = libraryAmountOut amountIn.toNat r.reserve1.toNat r.reserve0.toNat

/-- **What was read between two moments**: of a pair the state of one moment, of a V3 pool the
    liquidity of one and the price of the next. -/
def WasOnChain (node : EthNode) (tokens : Address → TokenInfo) (address : Address) (i j : ℕ) :
    PoolContract → Pool → Prop
  | .v2 c, .v2 p => ∃ k, i ≤ k ∧ k + 7 ≤ j ∧ p = c.pairAt node tokens address k ∧
      (0 < (c.reserves (k + 6)).reserve0.toNat → 0 < (c.reserves (k + 6)).reserve1.toNat →
        p.QuotesLike (c.reserves (k + 6)))
  | .v3 c, .v3 p => ∃ k, i ≤ k ∧ k + 10 ≤ j ∧ p = c.poolAt node tokens address k
  | _, _ => False

section Read

variable {node : EthNode} {tokens : Address → TokenInfo} {address : Address} {i j k : ℕ}
  {contract : PoolContract} {pool : Pool}

/-- A reserve of 112 bits is the same number as a word of 256. -/
theorem toNat_reserve (x : BitVec 112) : (x.setWidth 256).toNat = x.toNat := by
  rw [BitVec.toNat_setWidth, Nat.mod_eq_of_lt (x.isLt.trans (by norm_num))]

/-- A quote over reserves of 112 bits cannot overflow, so it is answered, and with the library's
    number. -/
theorem quote_reserves {p : UniswapV2Pair} {tokenIn : Token} {x y : BitVec 112}
    (fee : p.feeBps = 30#32)
    (ordered : p.getReservesOrdered tokenIn = .ok (x.setWidth 256, y.setWidth 256))
    (hx : 0 < x.toNat) (hy : 0 < y.toNat) {amountIn : U256} (small : amountIn.toNat < 2 ^ 112) :
    ∃ amountOut, p.getAmountOut amountIn tokenIn = .ok amountOut ∧
      amountOut.toNat = UniswapV2Pair.libraryAmountOut amountIn.toNat x.toNat y.toNat := by
  have valueX := toNat_reserve x
  have valueY := toNat_reserve y
  obtain ⟨amountOut, quoted, exact, -⟩ := UniswapV2Pair.getAmountOut_onchain fee ordered small
    (valueX ▸ hx) (valueX ▸ x.isLt) (valueY ▸ hy) (valueY ▸ y.isLt)
  rw [valueX, valueY] at exact
  exact ⟨amountOut, quoted, exact⟩

/-- **A pair that was read quotes as the contract did** with the reserves of that moment, provided
    that there are some. If both tokens had one address, the code would always trade in one
    direction, so the other direction asks that they differ. -/
theorem PairInfo.quotesLike_pairAt (c : PairInfo)
    (full0 : 0 < (c.reserves (k + 6)).reserve0.toNat)
    (full1 : 0 < (c.reserves (k + 6)).reserve1.toNat) :
    (c.pairAt node tokens address k).QuotesLike (c.reserves (k + 6)) := by
  have ordered : ∀ token, (c.pairAt node tokens address k).getReservesOrdered token = _ :=
    fun _ => rfl
  constructor
  case zeroForOne =>
    intro amountIn small
    exact quote_reserves rfl ((ordered _).trans (if_pos rfl)) full0 full1 small
  case oneForZero =>
    intro other amountIn small
    exact quote_reserves rfl (((ordered _).trans (if_neg other)).trans (if_pos rfl)) full1 full0
      small

/-- The two ways in which a pool is read: as a pair at once, or as a V3 pool after the attempt to
    read a pair has failed, for whatever reason. -/
theorem fromChain_cases (h : Pool.fromChain node address none i = .ok pool j) :
    (∃ p, UniswapV2Pair.fromChain node address none i = .ok p j ∧ pool = .v2 p) ∨
    ∃ k p, i ≤ k ∧ UniswapV3Pool.fromChain node address none k = .ok p j ∧ pool = .v3 p := by
  unfold Pool.fromChain at h
  cases first : UniswapV2Pair.fromChain node address none i with
  | ok p k =>
    rw [first] at h
    cases h
    exact .inl ⟨p, rfl, rfl⟩
  | error e k =>
    rw [first] at h
    dsimp only at h
    cases second : UniswapV3Pool.fromChain node address none k with
    | ok p l =>
      rw [second] at h
      cases h
      exact .inr ⟨k, p, forward_v2.error first, second, rfl⟩
    | error e l =>
      rw [second] at h
      cases h

/-- **What is read was on the chain.** A node that fails at the wrong moment makes the engine try
    the other kind, but a contract of one kind lacks a function of the other, so that attempt fails
    too. -/
theorem wasOnChain_of_fromChain (deployed : contract.Deployed node tokens address)
    (h : Pool.fromChain node address none i = .ok pool j) :
    i ≤ j ∧ WasOnChain node tokens address i j contract pool := by
  cases contract with
  | v2 c =>
    obtain ⟨pair, token0, token1⟩ := deployed
    rcases fromChain_cases h with ⟨p, read, rfl⟩ | ⟨k, p, -, read, -⟩
    · obtain ⟨-, rfl, rfl⟩ := (pair.fromChain_eq token0 token1).mp read
      exact ⟨Nat.le_add_right i 7, i, le_rfl, le_rfl, rfl, c.quotesLike_pairAt⟩
    · -- A pair that was not read as one is not read as a V3 pool: it has no `liquidity`.
      exact absurd read (not_v3_of_lacks pair.noLiquidity)
  | v3 c =>
    obtain ⟨v3, token0, token1⟩ := deployed
    rcases fromChain_cases h with ⟨p, read, -⟩ | ⟨k, p, later, read, rfl⟩
    · exact absurd read (not_v2_of_lacks v3.noReserves)
    · obtain ⟨-, rfl, rfl⟩ := (v3.fromChain_eq token0 token1).mp read
      exact ⟨later.trans (Nat.le_add_right k 10), k, later, le_rfl, rfl⟩

/-- **Where the node answers, a pool is read.** A V3 pool costs the failed attempt to read a pair
    first, which ends at a call that the contract does not have. -/
theorem fromChain_of_responds (deployed : contract.Deployed node tokens address)
    (responds : contract.Responds node address) (i : ℕ) :
    ∃ pool j, Pool.fromChain node address none i = .ok pool j := by
  unfold Pool.fromChain
  cases contract with
  | v2 c =>
    obtain ⟨pair, token0, token1⟩ := deployed
    have read := (pair.fromChain_eq (i := i) token0 token1).mpr
      ⟨⟨(responds i).1, (responds (i + 1)).2.1, (responds (i + 6)).2.2⟩, rfl, rfl⟩
    rw [read]
    exact ⟨_, _, rfl⟩
  | v3 c =>
    obtain ⟨v3, token0, token1⟩ := deployed
    cases first : UniswapV2Pair.fromChain node address none i with
    | ok p k => exact absurd first (not_v2_of_lacks v3.noReserves)
    | error e k =>
      -- The V3 calls begin where the attempt to read a pair has given up.
      have read := (v3.fromChain_eq (i := k) token0 token1).mpr
        ⟨⟨⟨(responds k).1.1, (responds (k + 1)).1.2⟩,
          ⟨(responds (k + 6)).2.1.1, (responds (k + 7)).2.1.2⟩,
          (responds (k + 8)).2.2.1, (responds (k + 9)).2.2.2⟩, rfl, rfl⟩
      dsimp only
      rw [read]
      exact ⟨_, _, rfl⟩

/-- What was on the chain in an interval was so in every longer one. -/
theorem WasOnChain.mono {i' j' : ℕ} (h : WasOnChain node tokens address i j contract pool)
    (hi : i' ≤ i) (hj : j ≤ j') : WasOnChain node tokens address i' j' contract pool := by
  cases contract with
  | v2 c =>
    cases pool with
    | v2 p =>
      obtain ⟨k, from', to', rest⟩ := h
      exact ⟨k, hi.trans from', to'.trans hj, rest⟩
    | v3 p => exact h.elim
  | v3 c =>
    cases pool with
    | v2 p => exact h.elim
    | v3 p =>
      obtain ⟨k, from', to', rest⟩ := h
      exact ⟨k, hi.trans from', to'.trans hj, rest⟩

end Read

/-! ## Loading -/

namespace PricingEngine

variable {node : EthNode} {tokens : Address → TokenInfo} {contracts : Address → PoolContract}
  {poolAddresses : List Address} {reads : List (Address × Except String Pool)}
  {before : List (Address × Pool)} {pools after : PoolMap} {i j : ℕ}

/-- The loop over the reads succeeds only where all of them did, and then all are in the map. -/
theorem insertRead_eq_ok (h : insertRead pools reads = (.ok (), after)) :
    ∃ before, reads = answered before ∧ after = stored pools before := by
  induction reads generalizing pools with
  | nil =>
    cases h
    exact ⟨[], rfl, rfl⟩
  | cons read reads ih =>
    obtain ⟨addr, answer⟩ := read
    cases answer with
    | ok pair =>
      obtain ⟨before, rfl, hafter⟩ := ih h
      exact ⟨(addr, pair) :: before, rfl, hafter⟩
    | error msg => cases h

theorem insertRead_answered :
    insertRead pools (answered before) = (.ok (), stored pools before) := by
  induction before generalizing pools with
  | nil => rfl
  | cons read before ih => exact ih

/-- **Every pool of a load was on the chain while it went on.** By induction on the addresses; the
    later ones are read later, and the interval of the whole load contains those of all. -/
theorem wasOnChain_of_readPools
    (deployed : ∀ a ∈ poolAddresses, (contracts a).Deployed node tokens a)
    (h : readPools node poolAddresses i = (answered before, j)) :
    i ≤ j ∧ before.map Prod.fst = poolAddresses ∧
      ∀ read ∈ before, WasOnChain node tokens read.1 i j (contracts read.1) read.2 := by
  induction poolAddresses generalizing before i with
  | nil =>
    obtain ⟨none, rfl⟩ := Prod.mk.inj h
    obtain rfl := List.map_eq_nil_iff.mp none.symm
    exact ⟨le_rfl, rfl, nofun⟩
  | cons addr poolAddresses ih =>
    obtain ⟨here, there⟩ := List.forall_mem_cons.mp deployed
    unfold readPools at h
    cases first : Pool.fromChain node addr none i with
    | ok pair k =>
      rw [first] at h
      obtain ⟨read, rfl⟩ := Prod.mk.inj h
      obtain ⟨entry, before, rfl, head, rest⟩ := List.map_eq_cons_iff.mp read.symm
      obtain ⟨rfl, hpool⟩ := Prod.mk.inj head
      obtain rfl := Except.ok.inj hpool
      obtain ⟨up, was⟩ := wasOnChain_of_fromChain here first
      obtain ⟨up', names, others⟩ := ih there (Prod.ext rest.symm rfl)
      refine ⟨up.trans up', congrArg (entry.1 :: ·) names, ?_⟩
      intro read' hread
      rcases List.mem_cons.mp hread with rfl | later
      · exact was.mono le_rfl up'
      · exact (others read' later).mono up le_rfl
    | error msg k =>
      rw [first] at h
      obtain ⟨entry, rest, -, head, -⟩ := List.map_eq_cons_iff.mp (Prod.mk.inj h).1.symm
      cases (Prod.mk.inj head).2

/-- **Where the node answers, all are read.** By induction on the addresses, each from the moment
    on at which the one before it has ended. -/
theorem readPools_of_responds
    (deployed : ∀ a ∈ poolAddresses, (contracts a).Deployed node tokens a)
    (responds : ∀ a ∈ poolAddresses, (contracts a).Responds node a) (i : ℕ) :
    ∃ before, (readPools node poolAddresses i).1 = answered before := by
  induction poolAddresses generalizing i with
  | nil => exact ⟨[], rfl⟩
  | cons addr poolAddresses ih =>
    obtain ⟨here, there⟩ := List.forall_mem_cons.mp deployed
    obtain ⟨answers, others⟩ := List.forall_mem_cons.mp responds
    obtain ⟨pool, j, read⟩ := fromChain_of_responds here answers i
    obtain ⟨before, rest⟩ := ih there others j
    refine ⟨(addr, pool) :: before, ?_⟩
    unfold readPools
    rw [read]
    exact congrArg ((addr, .ok pool) :: ·) rest

/-- **After a load every pool is one that was on the chain** while it went on: a pair quotes in
    both directions what the contract would have quoted at one of its moments. Nothing else
    changes in the map, and the router is over what is there. If the node answers, the load
    succeeds, whatever happens on the chain meanwhile. -/
theorem loaded_pools_were_on_chain (node : EthNode) (tokens : Address → TokenInfo)
    (contracts : Address → PoolContract) (e : PricingEngine) (poolAddresses : List Address)
    (order : IterationOrder) (i : ℕ)
    (deployed : ∀ a ∈ poolAddresses, (contracts a).Deployed node tokens a) :
    (∀ e', e.loadPoolsAt node poolAddresses order i = (.ok (), e') →
      (∀ a ∈ poolAddresses, ∃ pool, e'.pools.lookup a = some pool ∧
        WasOnChain node tokens a i (readPools node poolAddresses i).2 (contracts a) pool) ∧
      (∀ a, a ∉ poolAddresses → e'.pools.lookup a = e.pools.lookup a) ∧
      ∃ f, e'.router = some f ∧ (f.pools : Multiset Pool) = e'.pools.values) ∧
    ((∀ a ∈ poolAddresses, (contracts a).Responds node a) →
      ∃ e', e.loadPoolsAt node poolAddresses order i = (.ok (), e')) := by
  constructor
  · intro e' loaded
    unfold loadPoolsAt loadPools at loaded
    cases loop : insertRead e.pools (readPools node poolAddresses i).1 with
    | mk answer after =>
      rw [loop] at loaded
      cases answer with
      | error msg => cases (Prod.mk.inj loaded).1
      | ok =>
        -- the load ends with a router over what is in the map then
        obtain rfl : withRouter after order = e' := (Prod.mk.inj loaded).2
        obtain ⟨before, hreads, rfl⟩ := insertRead_eq_ok loop
        obtain ⟨-, names, was⟩ := wasOnChain_of_readPools deployed
          (Prod.ext hreads rfl : readPools node poolAddresses i = (_, _))
        have found : ∀ a, (stored e.pools before).lookup a = _ := fun a => lookup_stored a
        refine ⟨fun a ha => ?_, fun a ha => ?_, _, rfl, order.exact _⟩
        · obtain ⟨read, hread, rfl, last⟩ := Overwrite.exists_of_mem_keys (names ▸ ha)
          exact ⟨read.2, (found read.1).trans last, was read hread⟩
        · exact (found a).trans (Overwrite.insertAll_of_notMem fun read hread same =>
            ha (names ▸ same ▸ List.mem_map_of_mem hread))
  · intro responds
    obtain ⟨before, read⟩ := readPools_of_responds deployed responds i
    unfold loadPoolsAt loadPools
    rw [read, insertRead_answered]
    exact ⟨_, rfl⟩

/-! ## A pair whose tokens do not answer -/

/-- What trades in between leaves of a pair. -/
def movingPair : PairInfo where
  token0 := 0x1#160
  token1 := 0x2#160
  reserves i := {
    reserve0 := 1000000 + BitVec.ofNat 112 i, reserve1 := 2000000, blockTimestampLast := 0 }

/-- Answers the three functions of the pair, and nothing about its tokens. -/
def movingNode : EthNode where
  call i c :=
    if c = EthNode.request 0x9#160 Contracts.token0 then
      .ok (Contracts.token0.results.encode movingPair.token0)
    else if c = EthNode.request 0x9#160 Contracts.token1 then
      .ok (Contracts.token1.results.encode movingPair.token1)
    else if c = EthNode.request 0x9#160 Contracts.getReserves then
      .ok (Contracts.getReserves.results.encode (movingPair.reserves i))
    else .error (.rpcError "execution reverted")
  text := fun _ => ""

theorem movingPair_deployed : movingPair.Deployed movingNode 0x9#160 where
  token0 _ _ h := (Except.ok.inj h).symm
  token1 _ _ h := (Except.ok.inj h).symm
  reserves _ _ h := (Except.ok.inj h).symm
  noLiquidity := by
    rintro i ⟨bytes, h⟩
    cases h

theorem movingPair_contract : (PoolContract.v2 movingPair).Deployed movingNode
    (fun _ => { decimals := 18, symbol := [] }) 0x9#160 := by
  have silent : ∀ token, token = 0x1#160 ∨ token = 0x2#160 →
      TokenInfo.Deployed { decimals := 18, symbol := [] } movingNode token := by
    rintro token (rfl | rfl)
    · exact ⟨nofun, nofun, by norm_num⟩
    · exact ⟨nofun, nofun, by norm_num⟩
  exact ⟨movingPair_deployed, silent _ (.inl rfl), silent _ (.inr rfl)⟩

/-- The pair is read as it was at one moment, though it changes at every one. -/
theorem sample_pool_was_on_chain :
    ∃ e' pool, (new.loadPoolsAt movingNode [0x9#160] anyOrder 5) = (.ok (), e') ∧
      e'.pools.lookup 0x9#160 = some pool ∧
      WasOnChain movingNode (fun _ => { decimals := 18, symbol := [] }) 0x9#160 5
        (readPools movingNode [0x9#160] 5).2 (.v2 movingPair) pool := by
  obtain ⟨were, succeeds⟩ := loaded_pools_were_on_chain movingNode
    (fun _ => { decimals := 18, symbol := [] }) (fun _ => .v2 movingPair) new [0x9#160] anyOrder 5
    (List.forall_mem_singleton.mpr movingPair_contract)
  obtain ⟨e', loaded⟩ := succeeds (List.forall_mem_singleton.mpr fun i =>
    ⟨⟨_, rfl⟩, ⟨_, rfl⟩, ⟨_, rfl⟩⟩)
  obtain ⟨pools, -⟩ := were e' loaded
  obtain ⟨pool, found, was⟩ := pools 0x9#160 (List.mem_singleton.mpr rfl)
  exact ⟨e', pool, loaded, found, was⟩

end PricingEngine

end ArbEngine
