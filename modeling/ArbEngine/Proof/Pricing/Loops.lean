import ArbEngine.Proof.Pricing.BestRoute
import ArbEngine.Proof.Pricing.V2Solidity

/-!
# The arbitrage loops the search returns

A loop is an arc out of a token and a simple route back. The search does not look at which pool
the arc belongs to, so it also lists the loops that go there and straight back through one entry.
A round trip through a pair does not pay (`getAmountOut_round_trip`), and a longer loop cannot
meet an entry twice, so these never show in the result: `findArbitrageLoops_exact`.
-/

namespace ArbEngine

open SimplePaths

/-! ## Round trips -/

namespace UniswapV2Pair

variable {p : UniswapV2Pair} {t t' : Token} {x y z : U256}

/-- From the other token the reserves are the other way round. -/
theorem getReservesOrdered_swap {rin rout : U256} (hne : t.address ≠ t'.address)
    (hr : p.getReservesOrdered t = .ok (rin, rout))
    {rin' rout' : U256} (hr' : p.getReservesOrdered t' = .ok (rin', rout')) :
    rin' = rout ∧ rout' = rin := by
  rcases getReservesOrdered_cases hr with ⟨h, rfl, rfl⟩ | ⟨-, h, rfl, rfl⟩
  · rcases getReservesOrdered_cases hr' with ⟨h', -, -⟩ | ⟨-, -, rfl, rfl⟩
    · exact absurd (h.trans h'.symm) hne
    · exact ⟨rfl, rfl⟩
  · rcases getReservesOrdered_cases hr' with ⟨-, rfl, rfl⟩ | ⟨-, h', -, -⟩
    · exact ⟨rfl, rfl⟩
    · exact absurd (h.trans h'.symm) hne

/-- Ordering the reserves is a comparison of addresses. -/
theorem getReservesOrdered_ne_panic : p.getReservesOrdered t ≠ .panic := by
  unfold getReservesOrdered
  split
  · nofun
  · split <;> nofun

/-- A pair that keeps no more than it is paid answers every call. -/
theorem getAmountOut_total (fee : p.feeBps.toNat ≤ 10000) : p.getAmountOut x t ≠ .panic := by
  cases ordered : p.getReservesOrdered t with
  | ok reserves => exact getAmountOut_ne_panic fee ordered
  | err msg =>
    unfold getAmountOut
    rw [ordered]
    nofun
  | panic => exact absurd ordered getReservesOrdered_ne_panic

/-- Where one of the reserves is empty nothing is paid. -/
theorem getAmountOut_of_zero {rin rout : U256} (hr : p.getReservesOrdered t = .ok (rin, rout))
    (empty : rin = 0#256 ∨ rout = 0#256) : p.getAmountOut x t = .ok 0#256 := by
  unfold getAmountOut
  rw [hr, Outcome.ok_bind]
  exact if_pos (.inr empty)

/-- **A round trip through a pair does not pay.** Both ways are floors of the law of the constant
    product, on the same reserves: the pair is not changed by a quote. -/
theorem getAmountOut_round_trip (hne : t.address ≠ t'.address)
    (there : p.getAmountOut x t = .ok y) (back : p.getAmountOut y t' = .ok z) : z ≤ x := by
  obtain ⟨rin, rout, hr⟩ := getAmountOut_reserves there
  obtain ⟨rin', rout', hr'⟩ := getAmountOut_reserves back
  obtain ⟨rfl, rfl⟩ := getReservesOrdered_swap hne hr hr'
  rw [BitVec.le_def]
  by_cases empty : rin' = 0#256 ∨ rout' = 0#256
  · rw [getAmountOut_of_zero hr' empty] at back
    cases back
    exact Nat.zero_le _
  · obtain ⟨hin, hout⟩ := not_or.mp empty
    rw [getAmountOut_quote hr' (toNat_pos hin) back, getAmountOut_quote hr (toNat_pos hout) there]
    exact ConstantProduct.quote_quote_le (toNat_pos hout) (toNat_pos hin) (by norm_num)
      (Nat.sub_le _ _)

end UniswapV2Pair

/-! ## Quotes of pairs -/

/-- The pool is a pair that keeps no more than it is paid. -/
def Pool.IsPair (pool : Pool) : Prop :=
  ∃ pair : UniswapV2Pair, pool = .v2 pair ∧ pair.feeBps.toNat ≤ 10000

namespace Route

variable {m : TickMath} {pools : List Pool} {path : List Token} {amountIn : U256}

/-- A route of pairs comes back, with an output or an error. The fuel is for the tick walks of V3
    pools, and a route without any needs none. -/
theorem outputAlong_ends (m : TickMath) (amountIn : U256) (pairs : ∀ pool ∈ pools, pool.IsPair)
    (hlen : pools.length ≤ path.length) :
    ∃ o : Outcome U256, o ≠ .panic ∧
      ∀ fuel, outputAlong m fuel pools path amountIn = .ended o := by
  induction pools generalizing path amountIn with
  | nil => exact ⟨.ok amountIn, nofun, fun _ => rfl⟩
  | cons pool pools ih =>
    cases path with
    | nil => simp at hlen
    | cons tokenIn path =>
      obtain ⟨pair, rfl, hfee⟩ := pairs pool List.mem_cons_self
      cases hop : pair.getAmountOut amountIn tokenIn with
      | ok amount =>
        obtain ⟨o, hne, hrest⟩ := ih amount
          (fun pool hpool => pairs pool (List.mem_cons_of_mem _ hpool))
          (Nat.le_of_succ_le_succ hlen)
        refine ⟨o, hne, fun fuel => ?_⟩
        rw [← hrest fuel]
        show Fueled.bind (some (pair.getAmountOut amountIn tokenIn)) _ = _
        rw [hop]
        rfl
      | err msg =>
        refine ⟨.err msg, nofun, fun fuel => ?_⟩
        show Fueled.bind (some (pair.getAmountOut amountIn tokenIn)) _ = _
        rw [hop]
        rfl
      | panic => exact absurd hop (UniswapV2Pair.getAmountOut_total hfee)

end Route

namespace RouteFinder

/-! ## Simple loops -/

/-- **A simple loop**: the entries `is` of the list of pools, taken in this order, lead from
    `tokenIn` back to `tokenIn` along `path`. The tokens in between are different from each other
    and from `tokenIn`, and so are the entries from each other. -/
structure SimpleLoop (pools : List Pool) (tokenIn : Token) (maxHops : ℕ)
    (is : List (Fin pools.length)) (path : List Token) : Prop where
  length : path.length = is.length + 1
  starts : path.head? = some tokenIn
  finishes : path.getLast?.map Token.address = some tokenIn.address
  hops_ge : 2 ≤ is.length
  hops_le : is.length ≤ maxHops
  joined : ∀ (j : ℕ) (i : Fin pools.length) (a b : Token), is[j]? = some i → path[j]? = some a →
    path[j + 1]? = some b → Joins (pools.get i) a b
  distinct : (path.tail.dropLast.map Token.address).Nodup
  away : ∀ t ∈ path.tail.dropLast, t.address ≠ tokenIn.address
  entries : is.Nodup

variable {m : TickMath} {pools : List Pool} {tokenIn : Token} {amountIn : U256} {maxHops : ℕ}
  {p : List (Fin pools.length × Token)}

/-- The two addresses an entry joins. -/
def edge (pools : List Pool) (i : Fin pools.length) : Sym2 Address :=
  s((pools.get i).tokens.1.address, (pools.get i).tokens.2.address)

/-- An arc of the graph is one of the two directions of an edge. -/
theorem isEdge_places (pools : List Pool) :
    IsEdge Token.address (places pools) (edge pools) := by
  intro k arc harc
  rcases mem_ends.mp (mem_places.mp harc) with ⟨h0, h⟩ | ⟨h1, h⟩
  · rw [edge, h0, h]
  · rw [edge, h1, h]
    exact Sym2.eq_swap

/-- The route along these arcs. -/
def along (tokenIn : Token) (p : List (Fin pools.length × Token)) : Route where
  pools := (p.map Prod.fst).map pools.get
  path := tokenIn :: p.map Prod.snd

/-- The edges along the arcs are those of their pools. The search goes by tokens, the claim about
    its loops by pools. This is where the two meet. -/
theorem edges_along (p : List (Fin pools.length × Token)) :
    p.map (fun arc => edge pools arc.1) =
      ((p.map Prod.fst).map pools.get).map
        fun pool => s(pool.tokens.1.address, pool.tokens.2.address) := by
  rw [List.map_map, List.map_map]
  rfl

/-- The loops the search lists, with the places of the arcs. An arc that stays where it is leads
    to no loop. -/
def loopWalks (pools : List Pool) (tokenIn : Token) (maxHops : ℕ) :
    List (List (Fin pools.length × Token)) :=
  (places pools tokenIn.address).flatMap fun arc =>
    if maxHops ≤ 1 ∨ arc.2.address = tokenIn.address then []
    else
      (search Token.address (places pools) tokenIn.address (maxHops - 1) arc.2.address
        {arc.2.address}).map (arc :: ·)

/-- A loop of the search: an arc to another token, and a simple route home from there. -/
theorem exists_of_mem_loopWalks (h : p ∈ loopWalks pools tokenIn maxHops) :
    ∃ arc q, p = arc :: q ∧ arc ∈ places pools tokenIn.address ∧ 1 < maxHops ∧
      arc.2.address ≠ tokenIn.address ∧
      q ∈ search Token.address (places pools) tokenIn.address (maxHops - 1) arc.2.address
        {arc.2.address} := by
  unfold loopWalks at h
  obtain ⟨arc, harc, hp⟩ := List.mem_flatMap.mp h
  split at hp
  · cases hp
  · rename_i hgoes
    obtain ⟨hops, hne⟩ := not_or.mp hgoes
    obtain ⟨q, hq, rfl⟩ := List.mem_map.mp hp
    exact ⟨arc, q, rfl, harc, not_le.mp hops, hne, hq⟩

/-- **What the search lists are the closed walks that meet no address twice.** -/
theorem mem_loopWalks :
    p ∈ loopWalks pools tokenIn maxHops ↔
      Walk Token.address (places pools) tokenIn.address tokenIn.address p ∧ 2 ≤ p.length ∧
        p.length ≤ maxHops ∧ (p.map fun arc => arc.2.address).Nodup := by
  constructor
  · intro h
    obtain ⟨arc, q, rfl, harc, hops, hne, hq⟩ := exists_of_mem_loopWalks h
    obtain ⟨hwalk, hlen, hnodup, hfresh⟩ := (mem_search (Finset.mem_singleton_self _)).mp hq
    have hpos : q ≠ [] := by
      rintro rfl
      exact hne hwalk
    have hpos' := List.length_pos_iff.mpr hpos
    refine ⟨⟨harc, hwalk⟩, ?_, ?_, List.nodup_cons.mpr ⟨?_, hnodup⟩⟩
    · rw [List.length_cons]
      omega
    · rw [List.length_cons]
      omega
    · intro hmem
      obtain ⟨b, hb, heq⟩ := List.mem_map.mp hmem
      exact hfresh b hb (Finset.mem_singleton.mpr heq)
  · rintro ⟨hwalk, hge, hle, hnodup⟩
    cases p with
    | nil => simp at hge
    | cons arc q =>
      rw [List.length_cons] at hge hle
      obtain ⟨hfresh, hnodup⟩ := List.nodup_cons.mp hnodup
      have hnew : ∀ b ∈ q, b.2.address ≠ arc.2.address := by
        intro b hb heq
        exact hfresh (List.mem_map.mpr ⟨b, hb, heq⟩)
      have hq : q ≠ [] := by
        rintro rfl
        simp at hge
      obtain ⟨b, hb, hend⟩ := hwalk.2.exists_end hq
      have hgoes : ¬ (maxHops ≤ 1 ∨ arc.2.address = tokenIn.address) := by
        rintro (hops | heq)
        · omega
        · exact hnew b hb (hend.trans heq.symm)
      refine List.mem_flatMap.mpr ⟨arc, hwalk.1, ?_⟩
      rw [if_neg hgoes]
      refine List.mem_map_of_mem ((mem_search (Finset.mem_singleton_self _)).mpr
        ⟨hwalk.2, by omega, hnodup, ?_⟩)
      intro c hc hseen
      exact hnew c hc (Finset.mem_singleton.mp hseen)

/-- The last token of a loop is its first, so being simple is a property of those in between. -/
theorem addresses_nodup_iff {l : List Token} {a : Address}
    (hlast : l.getLast?.map Token.address = some a) :
    (l.map Token.address).Nodup ↔
      (l.dropLast.map Token.address).Nodup ∧ ∀ t ∈ l.dropLast, t.address ≠ a := by
  obtain ⟨last, hl, rfl⟩ := Option.map_eq_some_iff.mp hlast
  obtain ⟨init, rfl⟩ : ∃ init, l = init ++ [last] :=
    ⟨l.dropLast, (List.dropLast_append_getLast? last hl).symm⟩
  rw [List.dropLast_concat, List.map_append, List.map_singleton, ← List.concat_eq_append,
    List.nodup_concat]
  rw [and_comm]
  refine and_congr_right fun _ => ?_
  rw [List.mem_map]
  constructor
  · intro h t ht heq
    exact h ⟨t, ht, heq⟩
  · rintro h ⟨t, ht, heq⟩
    exact h t ht heq

/-- **The loops the search lists are the simple ones**, but for those that take an entry twice. -/
theorem simpleLoop_iff :
    SimpleLoop pools tokenIn maxHops (p.map Prod.fst) (tokenIn :: p.map Prod.snd) ↔
      p ∈ loopWalks pools tokenIn maxHops ∧ (p.map Prod.fst).Nodup := by
  have addresses : (p.map Prod.snd).map Token.address = p.map fun arc => arc.2.address := by
    rw [List.map_map]
    rfl
  have last : p ≠ [] → (tokenIn :: p.map Prod.snd).getLast? = (p.map Prod.snd).getLast? := by
    intro hp
    cases p with
    | nil => exact absurd rfl hp
    | cons arc q => rw [List.map_cons, List.getLast?_cons_cons]
  rw [mem_loopWalks, walk_iff, ← addresses]
  constructor
  · intro h
    have hge : 2 ≤ p.length := by simpa using h.hops_ge
    have hle : p.length ≤ maxHops := by simpa using h.hops_le
    have hp : p ≠ [] := by
      rintro rfl
      simp at hge
    have hend := h.finishes
    rw [last hp] at hend
    exact ⟨⟨⟨h.joined, h.finishes⟩, hge, hle, (addresses_nodup_iff hend).mpr ⟨h.distinct, h.away⟩⟩,
      h.entries⟩
  · rintro ⟨⟨⟨hjoined, hfinishes⟩, hge, hle, hnodup⟩, hentries⟩
    have hp : p ≠ [] := by
      rintro rfl
      simp at hge
    have hend := hfinishes
    rw [last hp] at hend
    obtain ⟨hdistinct, haway⟩ := (addresses_nodup_iff hend).mp hnodup
    exact ⟨by simp, rfl, hfinishes, by simpa using hge, by simpa using hle, hjoined, hdistinct,
      haway, hentries⟩

/-- **A profitable loop takes no pool twice**: a loop there and back through one pool does not
    pay, and a longer one does not meet the ends of a pool again. -/
theorem pools_nodup_of_pays (hp : p ∈ loopWalks pools tokenIn maxHops)
    (v2 : ∀ pool ∈ pools, ∃ pair, pool = .v2 pair) {amountOut : U256}
    (quoted : (along tokenIn p).Quotes m amountIn amountOut) (pays : amountIn < amountOut) :
    ((p.map Prod.fst).map pools.get).Nodup := by
  obtain ⟨hwalk, hge, -, hnodup⟩ := mem_loopWalks.mp hp
  match p, hge with
  -- Two hops: if the pools were one, this would be a round trip. Longer loops meet no edge twice
  -- because they meet no token twice.
  | [(i, b), (j, c)], _ =>
    have hc : c.address = tokenIn.address := hwalk.2.2
    have hne : tokenIn.address ≠ b.address := by
      intro heq
      simp [hc, heq] at hnodup
    suffices hdiff : pools.get i ≠ pools.get j by simpa using hdiff
    intro same
    obtain ⟨pair, hpair⟩ := v2 (pools.get i) (List.get_mem pools i)
    obtain ⟨fuel, h⟩ := quoted
    change Route.outputAlong m fuel [pools.get i, pools.get j] [tokenIn, b, c] amountIn = _ at h
    rw [← same, hpair] at h
    obtain ⟨y, hthere, h⟩ := Fueled.bind_eq_ok.mp h
    obtain ⟨z, hback, h⟩ := Fueled.bind_eq_ok.mp h
    obtain rfl := Fueled.pure_eq_ok.mp h
    have noGain := UniswapV2Pair.getAmountOut_round_trip hne (Fueled.ended_eq_ok.mp hthere)
      (Fueled.ended_eq_ok.mp hback)
    exact BitVec.not_le.mpr pays noGain
  | arc :: b :: c :: q, _ =>
    have edges := hwalk.loop_edges_nodup (isEdge_places pools) (by simp) hnodup
    rw [edges_along] at edges
    exact edges.of_map

/-- The entries of a loop tell which loop it is. -/
theorem loopWalks_inj {q : List (Fin pools.length × Token)}
    (hp : p ∈ loopWalks pools tokenIn maxHops) (hq : q ∈ loopWalks pools tokenIn maxHops)
    (h : p.map Prod.fst = q.map Prod.fst) : p = q := by
  obtain ⟨⟨i, b⟩, p, rfl, harc, -, hne, hp⟩ := exists_of_mem_loopWalks hp
  obtain ⟨⟨j, c⟩, q, rfl, harc', -, hne', hq⟩ := exists_of_mem_loopWalks hq
  obtain ⟨rfl, hrest⟩ := List.cons.inj h
  obtain rfl : b = c := ends_unique (mem_places.mp harc) (mem_places.mp harc') hne hne'
  obtain ⟨hwp, -, hsp, hap⟩ := (mem_search (Finset.mem_singleton_self _)).mp hp
  obtain ⟨hwq, -, hsq, haq⟩ := (mem_search (Finset.mem_singleton_self _)).mp hq
  rw [walk_places_inj (Finset.mem_singleton_self _) hwp hwq hsp hsq hap haq hrest]

/-! ## What is returned -/

/-- The route pays more than it takes. -/
def pays (m : TickMath) (fuel : ℕ) (amountIn : U256) (route : Route) : Bool :=
  match route.getOutput m fuel amountIn with
  | some (.ok amountOut) => amountIn < amountOut
  | _ => false

/-- A route is kept where it quotes more than goes in. An error counts as not paying. -/
theorem pays_iff {route : Route} {fuel : ℕ}
    (ends : ∃ o : Outcome U256, o ≠ .panic ∧ ∀ fuel, route.getOutput m fuel amountIn = .ended o) :
    pays m fuel amountIn route = true ↔
      ∃ amountOut, route.Quotes m amountIn amountOut ∧ amountIn < amountOut := by
  obtain ⟨o, -, h⟩ := ends
  have hquotes : ∀ amountOut, route.Quotes m amountIn amountOut ↔ o = .ok amountOut := by
    intro amountOut
    unfold Route.Quotes
    simp only [h, Fueled.ends_const, Fueled.ended_eq_ok]
  unfold pays
  rw [h]
  simp only [hquotes]
  cases o with
  | ok amountOut => simp [Fueled.ended]
  | err msg => simp [Fueled.ended]
  | panic => simp [Fueled.ended]

/-- One route of the inner loop, kept or not. -/
theorem pushProfitable_eq {fuel : ℕ} {pool : Pool} {subRoute : Route}
    (ends : ∃ o : Outcome U256, o ≠ .panic ∧
      ∀ fuel, (fullRoute tokenIn pool subRoute).getOutput m fuel amountIn = .ended o)
    (arbitrageOps : List Route) :
    pushProfitable m fuel tokenIn amountIn pool arbitrageOps subRoute =
      .ended (.ok (arbitrageOps ++
        [fullRoute tokenIn pool subRoute].filter (pays m 0 amountIn))) := by
  obtain ⟨o, hne, h⟩ := ends
  unfold pushProfitable
  rw [h fuel, List.filter_singleton, pays, h 0]
  cases o with
  | ok amountOut =>
    show Fueled.ended (.ok (if amountIn < amountOut then
      arbitrageOps ++ [fullRoute tokenIn pool subRoute] else arbitrageOps)) =
        Fueled.ended (.ok (arbitrageOps ++ bif decide (amountIn < amountOut) then _ else _))
    by_cases gain : amountIn < amountOut
    · rw [if_pos gain, decide_eq_true gain, cond_true]
    · rw [if_neg gain, decide_eq_false gain, cond_false, List.append_nil]
  | err msg =>
    show Fueled.ended (.ok arbitrageOps) = Fueled.ended (.ok (arbitrageOps ++ []))
    rw [List.append_nil]
  | panic => exact absurd rfl hne

/-- The routes the search goes through, with the places of their arcs. -/
theorem fullRoutes_eq (pools : List Pool) (tokenIn : Token) (maxHops : ℕ) :
    ((new pools).graph tokenIn.address).flatMap (fun arc =>
        if 1 < maxHops then
          ((new pools).findAllRoutes arc.2 tokenIn (maxHops - 1)).map (fullRoute tokenIn arc.1)
        else []) =
      (loopWalks pools tokenIn maxHops).map (along tokenIn) := by
  show (buildGraph pools tokenIn.address).flatMap _ = _
  rw [buildGraph_places, List.flatMap_map, loopWalks, List.map_flatMap]
  refine congrArg (List.flatMap · _) (funext fun arc => ?_)
  by_cases hops : 1 < maxHops
  · by_cases heq : arc.2.address = tokenIn.address
    · have none : (new pools).findAllRoutes arc.2 tokenIn (maxHops - 1) = [] := by
        unfold findAllRoutes dfs
        rw [if_pos heq]
        rfl
      rw [if_pos hops, if_pos (.inr heq)]
      show List.map _ ((new pools).findAllRoutes arc.2 tokenIn (maxHops - 1)) = _
      rw [none, List.map_nil, List.map_nil]
    · rw [if_pos hops, if_neg (not_or.mpr ⟨not_le.mpr hops, heq⟩)]
      show List.map _ ((new pools).findAllRoutes arc.2 tokenIn (maxHops - 1)) = _
      rw [findAllRoutes_eq heq, List.map_map, List.map_map]
      rfl
  · rw [if_neg hops, if_pos (.inl (not_lt.mp hops)), List.map_nil]

/-- Every route the search goes through is one of the walks. -/
theorem exists_along {arc : Pool × Token} (harc : arc ∈ (new pools).graph tokenIn.address)
    (hops : 1 < maxHops) {subRoute : Route}
    (hsub : subRoute ∈ (new pools).findAllRoutes arc.2 tokenIn (maxHops - 1)) :
    ∃ p ∈ loopWalks pools tokenIn maxHops,
      fullRoute tokenIn arc.1 subRoute = along tokenIn p := by
  have hmem : fullRoute tokenIn arc.1 subRoute ∈
      (loopWalks pools tokenIn maxHops).map (along tokenIn) := by
    rw [← fullRoutes_eq]
    refine List.mem_flatMap.mpr ⟨arc, harc, ?_⟩
    rw [if_pos hops]
    exact List.mem_map_of_mem hsub
  obtain ⟨p, hp, heq⟩ := List.mem_map.mp hmem
  exact ⟨p, hp, heq.symm⟩

/-- The search lists no walk twice. -/
theorem loopWalks_nodup (pools : List Pool) (tokenIn : Token) (maxHops : ℕ) :
    (loopWalks pools tokenIn maxHops).Nodup := by
  refine List.nodup_flatMap.mpr ⟨?_, ?_⟩
  · intro arc _
    split
    · exact List.nodup_nil
    · exact (search_nodup (places_nodup pools) (Finset.mem_singleton_self _)).map
        (List.cons_injective (a := arc))
  · -- Loops that begin with different arcs are different; an arc that stays begins none.
    refine (List.pairwise_filter.mp (places_nodup pools tokenIn.address)).imp ?_
    intro arc arc' hne p hp hp'
    beta_reduce at hp hp'
    split at hp
    · cases hp
    · split at hp'
      · cases hp'
      · rename_i hgoes hgoes'
        obtain ⟨q, -, rfl⟩ := List.mem_map.mp hp
        obtain ⟨q', -, heq⟩ := List.mem_map.mp hp'
        exact hne (by simpa using (not_or.mp hgoes).2) (by simpa using (not_or.mp hgoes').2)
          (List.cons.inj heq).1.symm

/-- And no two walks have the same entries. -/
theorem entries_nodup {l : List (List (Fin pools.length × Token))}
    (h : l.Sublist (loopWalks pools tokenIn maxHops)) :
    (l.map fun p => p.map Prod.fst).Nodup := by
  refine List.Nodup.map_on ?_ (h.nodup (loopWalks_nodup pools tokenIn maxHops))
  intro p hp q hq
  exact loopWalks_inj (h.subset hp) (h.subset hq)

/-- The pools along a loop are the pools of the list. -/
theorem mem_of_mem_along {pool : Pool} (h : pool ∈ (along tokenIn p).pools) : pool ∈ pools := by
  obtain ⟨i, -, rfl⟩ := List.mem_map.mp h
  exact List.get_mem pools i

/-- A loop of pairs comes back. -/
theorem along_ends (m : TickMath) (pairs : ∀ pool ∈ pools, pool.IsPair)
    (p : List (Fin pools.length × Token)) :
    ∃ o : Outcome U256, o ≠ .panic ∧
      ∀ fuel, (along tokenIn p).getOutput m fuel amountIn = .ended o := by
  refine Route.outputAlong_ends m amountIn ?_ (by simp [along])
  exact fun pool hpool => pairs pool (mem_of_mem_along hpool)

/-- **The search keeps the loops that pay.** -/
theorem findArbitrageLoops_eq (m : TickMath) (pairs : ∀ pool ∈ pools, pool.IsPair) (fuel : ℕ) :
    (new pools).findArbitrageLoops m fuel tokenIn amountIn maxHops =
      .ended (.ok (((loopWalks pools tokenIn maxHops).filter
        fun p => pays m 0 amountIn (along tokenIn p)).map (along tokenIn))) := by
  have ends : ∀ arc ∈ (new pools).graph tokenIn.address, 1 < maxHops →
      ∀ subRoute ∈ (new pools).findAllRoutes arc.2 tokenIn (maxHops - 1),
        ∃ o : Outcome U256, o ≠ .panic ∧
          ∀ fuel, (fullRoute tokenIn arc.1 subRoute).getOutput m fuel amountIn = .ended o := by
    intro arc harc hops subRoute hsub
    obtain ⟨p, -, hp⟩ := exists_along harc hops hsub
    rw [hp]
    exact along_ends m pairs p
  have arcs : ∀ arc ∈ (new pools).graph tokenIn.address, ∀ arbitrageOps : List Route,
      (if 1 < maxHops then
        ((new pools).findAllRoutes arc.2 tokenIn (maxHops - 1)).foldlM
          (pushProfitable m fuel tokenIn amountIn arc.1) arbitrageOps
        else pure arbitrageOps) =
        .ended (.ok (arbitrageOps ++ (if 1 < maxHops then
          ((new pools).findAllRoutes arc.2 tokenIn (maxHops - 1)).map (fullRoute tokenIn arc.1)
          else []).filter (pays m 0 amountIn))) := by
    intro arc harc arbitrageOps
    by_cases hops : 1 < maxHops
    · rw [if_pos hops, if_pos hops, Fueled.foldlM_append fun subRoute hsub =>
        pushProfitable_eq (ends arc harc hops subRoute hsub), ← List.filter_flatMap,
        List.map_eq_flatMap]
    · rw [if_neg hops, if_neg hops, List.filter_nil, List.append_nil]
      rfl
  unfold findArbitrageLoops
  rw [Fueled.foldlM_append arcs, List.nil_append, ← List.filter_flatMap, fullRoutes_eq,
    List.filter_map]
  rfl

/-- **An arbitrage loop**: a simple loop whose quote exceeds what goes in. -/
structure ArbitrageLoop (m : TickMath) (pools : List Pool) (tokenIn : Token) (amountIn : U256)
    (maxHops : ℕ) (is : List (Fin pools.length)) (path : List Token) : Prop where
  simple : SimpleLoop pools tokenIn maxHops is path
  pays : ∃ amountOut, Route.Quotes m { pools := is.map pools.get, path } amountIn amountOut ∧
    amountIn < amountOut

/-- **The loops that pay are the arbitrage loops.** -/
theorem arbitrageLoop_iff (m : TickMath) (pairs : ∀ pool ∈ pools, pool.IsPair) :
    ArbitrageLoop m pools tokenIn amountIn maxHops (p.map Prod.fst) (tokenIn :: p.map Prod.snd) ↔
      p ∈ loopWalks pools tokenIn maxHops ∧ pays m 0 amountIn (along tokenIn p) = true := by
  have v2 : ∀ pool ∈ pools, ∃ pair, pool = .v2 pair := by
    intro pool hpool
    obtain ⟨pair, h, -⟩ := pairs pool hpool
    exact ⟨pair, h⟩
  have hpays : pays m 0 amountIn (along tokenIn p) = true ↔ ∃ amountOut,
      (along tokenIn p).Quotes m amountIn amountOut ∧ amountIn < amountOut :=
    pays_iff (along_ends m pairs p)
  constructor
  · rintro ⟨simple, amountOut, quoted, gain⟩
    exact ⟨(simpleLoop_iff.mp simple).1, hpays.mpr ⟨amountOut, quoted, gain⟩⟩
  · rintro ⟨hp, gains⟩
    obtain ⟨amountOut, quoted, gain⟩ := hpays.mp gains
    refine ⟨simpleLoop_iff.mpr ⟨hp, ?_⟩, amountOut, quoted, gain⟩
    exact (pools_nodup_of_pays hp v2 quoted gain).of_map

/-- **Arbitrage loops are exactly the profitable simple loops**, each sequence of pool entries
    once. The pools are pairs: their quotes end, and a round trip through one of them cannot pay,
    so that the loops the search lists too many are all filtered out by their quotes. -/
theorem findArbitrageLoops_exact (m : TickMath) (pools : List Pool)
    (pairs : ∀ pool ∈ pools, pool.IsPair) (tokenIn : Token) (amountIn : U256) (maxHops : ℕ) :
    ∃ loops : List (List (Fin pools.length) × List Token),
      (∀ fuel, (new pools).findArbitrageLoops m fuel tokenIn amountIn maxHops =
        .ended (.ok (loops.map fun l => { pools := l.1.map pools.get, path := l.2 }))) ∧
      (loops.map Prod.fst).Nodup ∧
      ∀ is path, (is, path) ∈ loops ↔ ArbitrageLoop m pools tokenIn amountIn maxHops is path := by
  refine ⟨((loopWalks pools tokenIn maxHops).filter fun p =>
    pays m 0 amountIn (along tokenIn p)).map fun p => (p.map Prod.fst, tokenIn :: p.map Prod.snd),
    ?_, ?_, ?_⟩
  · intro fuel
    rw [findArbitrageLoops_eq m pairs, List.map_map]
    rfl
  · rw [List.map_map]
    exact entries_nodup List.filter_sublist
  · intro is path
    rw [List.mem_map]
    constructor
    · rintro ⟨p, hp, hpair⟩
      obtain ⟨rfl, rfl⟩ := Prod.mk.inj hpair
      exact (arbitrageLoop_iff m pairs).mpr (List.mem_filter.mp hp)
    · intro loop
      obtain ⟨p, rfl, rfl⟩ := exists_arcs loop.simple.starts loop.simple.length
      exact ⟨p, List.mem_filter.mpr ((arbitrageLoop_iff m pairs).mp loop), rfl⟩

/-- Two pools of the same tokens that do not agree on the price. -/
def sampleMarket : List Pool :=
  [.v2 (UniswapV2Pair.samplePair 1000000#256 2000000#256),
    .v2 { UniswapV2Pair.samplePair 2000000#256 1000000#256 with address := 0x7#160 }]

/-- There is a loop through both. -/
theorem sampleMarket_loop :
    ∃ is path, ArbitrageLoop UniswapV3Pool.stepMath sampleMarket
      (UniswapV2Pair.samplePair 1000000#256 2000000#256).token0 1000#256 2 is path := by
  have pairs : ∀ pool ∈ sampleMarket, pool.IsPair := by
    intro pool hpool
    rcases List.mem_pair.mp hpool with rfl | rfl
    · exact ⟨_, rfl, by decide⟩
    · exact ⟨_, rfl, by decide⟩
  obtain ⟨loops, returned, -, mem⟩ := findArbitrageLoops_exact UniswapV3Pool.stepMath sampleMarket
    pairs (UniswapV2Pair.samplePair 1000000#256 2000000#256).token0 1000#256 2
  have found : (new sampleMarket).findArbitrageLoops UniswapV3Pool.stepMath 0
      (UniswapV2Pair.samplePair 1000000#256 2000000#256).token0 1000#256 2 =
        .ended (.ok [{ pools := sampleMarket
                       path := [(UniswapV2Pair.samplePair 1000000#256 2000000#256).token0,
                         (UniswapV2Pair.samplePair 1000000#256 2000000#256).token1,
                         (UniswapV2Pair.samplePair 1000000#256 2000000#256).token0] }]) := by
    rfl
  rw [returned 0] at found
  cases loops with
  | nil => cases found
  | cons loop rest => exact ⟨loop.1, loop.2, (mem loop.1 loop.2).mp List.mem_cons_self⟩

end RouteFinder
end ArbEngine
