import ArbEngine.Lib.SimplePaths
import ArbEngine.Pricing.Router

/-!
# The routes the search returns

The backtracking search puts everything it takes off its stacks back (`dfs_eq`): a call leaves
the visited set and the stacks as it found them and has appended, in order, one route for each
simple path that `SimplePaths.search` lists from where it stands.

What is left is a matter of the graph. Its arcs are labelled with pools, and a list may hold
one pool twice; labelled with the places of the list instead (`places`) no two arcs are the
same, so no route is listed twice. `findAllRoutes_exact` states the result: the routes
returned are the simple paths, each sequence of pool entries once.
-/

namespace ArbEngine

open SimplePaths

/-! ## The stacks -/

namespace Search

/-- The route that goes on from the stacks along these arcs. -/
def route (s : Search) (p : List (Pool × Token)) : Route where
  pools := s.pathPools ++ p.map Prod.fst
  path := s.pathTokens ++ p.map Prod.snd

/-- The search after it has found these paths from where it stands. -/
def found (s : Search) (ps : List (List (Pool × Token))) : Search :=
  { s with results := s.results ++ ps.map s.route }

@[simp] theorem found_nil (s : Search) : s.found [] = s := by
  simp [found]

theorem found_append (s : Search) (ps qs : List (List (Pool × Token))) :
    (s.found ps).found qs = s.found (ps ++ qs) := by
  simp only [found, List.map_append, List.append_assoc]
  rfl

/-- The stacks with one more arc on them. -/
def push (s : Search) (arc : Pool × Token) : Search :=
  { s with visited := insert arc.2.address s.visited
           pathTokens := s.pathTokens ++ [arc.2]
           pathPools := s.pathPools ++ [arc.1] }

def pop (s : Search) (arc : Pool × Token) : Search :=
  { s with visited := s.visited.erase arc.2.address
           pathTokens := s.pathTokens.dropLast
           pathPools := s.pathPools.dropLast }

/-- What goes on from the stacks with one arc more begins with this arc. -/
theorem route_push (s : Search) (arc : Pool × Token) (p : List (Pool × Token)) :
    (s.push arc).route p = s.route (arc :: p) := by
  simp [route, push]

/-- **What a branch pushes it pops again.** The routes it has found stay, and each of them begins
    with the arc that was pushed. The address was not visited before, so taking it out again
    restores the set. -/
theorem pop_found_push {s : Search} {arc : Pool × Token} (hfresh : arc.2.address ∉ s.visited)
    (ps : List (List (Pool × Token))) :
    ((s.push arc).found ps).pop arc = s.found (ps.map (arc :: ·)) := by
  have hroutes : ps.map (s.push arc).route = (ps.map (arc :: ·)).map s.route := by
    rw [List.map_map]
    exact List.map_congr_left fun p _ => s.route_push arc p
  simp only [found, pop, hroutes]
  simp [push, Finset.erase_insert hfresh]

end Search

namespace RouteFinder

/-! ## The search -/

variable {graph : Address → List (Pool × Token)} {targetToken : Token}

/-- One arc of the loop over the neighbours: it is skipped where its token has been visited, and
    otherwise the search goes on behind it and comes back. -/
theorem dfs_succ {n : ℕ} {currentToken : Token} {s : Search}
    (h : currentToken.address ≠ targetToken.address) :
    dfs graph targetToken (n + 1) currentToken s =
      (graph currentToken.address).foldl
        (fun s arc =>
          if arc.2.address ∈ s.visited then s
          else (dfs graph targetToken n arc.2 (s.push arc)).pop arc) s := by
  rw [dfs, if_neg h]
  rfl

/-- **A call finds the simple paths and restores the stacks.** By induction on the hops that are
    left, and inside by induction on the neighbours. The source does not report a path of no pools,
    so the stacks have to hold one already, or the search must stand somewhere else than at its
    target. -/
theorem dfs_eq {n : ℕ} {currentToken : Token} {s : Search}
    (h : s.pathPools ≠ [] ∨ currentToken.address ≠ targetToken.address) :
    dfs graph targetToken n currentToken s =
      s.found (search Token.address graph targetToken.address n currentToken.address
        s.visited) := by
  have at_target : ∀ {n currentToken} {s : Search},
      s.pathPools ≠ [] ∨ currentToken.address ≠ targetToken.address →
      currentToken.address = targetToken.address →
        dfs graph targetToken n currentToken s = s.found [[]] := by
    intro n currentToken s h heq
    have hpools : s.pathPools.isEmpty = false :=
      List.isEmpty_eq_false_iff.mpr (h.resolve_right fun hne => hne heq)
    unfold dfs
    rw [if_pos heq, hpools]
    simp [Search.found, Search.route]
  induction n generalizing currentToken s with
  | zero =>
    by_cases heq : currentToken.address = targetToken.address
    · rw [at_target h heq, search, if_pos heq]
    · rw [dfs, if_neg heq, search, if_neg heq, Search.found_nil]
  | succ n ih =>
    by_cases heq : currentToken.address = targetToken.address
    · rw [at_target h heq, search, if_pos heq]
    · rw [dfs_succ heq, search, if_neg heq]
      -- The loop over the neighbours, by induction on the list of them.
      generalize graph currentToken.address = arcs
      generalize hvisited : s.visited = visited
      induction arcs generalizing s with
      | nil => simp
      | cons arc arcs loop =>
        rw [List.foldl_cons]
        by_cases hseen : arc.2.address ∈ visited
        · rw [hvisited, if_pos hseen, loop h hvisited,
            List.filter_cons_of_neg (by simpa using hseen)]
        · rw [hvisited, if_neg hseen, List.filter_cons_of_pos (by simpa using hseen),
            List.flatMap_cons, ← Search.found_append]
          have hbranch : (dfs graph targetToken n arc.2 (s.push arc)).pop arc =
              s.found ((search Token.address graph targetToken.address n arc.2.address
                (insert arc.2.address visited)).map (arc :: ·)) := by
            rw [ih (.inl (by simp [Search.push])), Search.pop_found_push (hvisited ▸ hseen),
              ← hvisited]
            rfl
          rw [hbranch]
          exact loop h hvisited

/-! ## The graph -/

/-- The arcs a pool adds at an address. -/
def ends (pool : Pool) (a : Address) : List Token :=
  (if pool.tokens.1.address = a then [pool.tokens.2] else []) ++
    if pool.tokens.2.address = a then [pool.tokens.1] else []

/-- The arcs at an address, pool by pool. The source adds two arcs for each pool while it goes
    through the list; what an address has collected at the end is what each pool adds there. -/
theorem buildGraph_eq (pools : List Pool) (a : Address) :
    buildGraph pools a = pools.flatMap fun pool => (ends pool a).map (pool, ·) := by
  have hfold : ∀ (graph : Address → List (Pool × Token)),
      pools.foldl (fun graph pool =>
        addArc (addArc graph pool.tokens.1.address (pool, pool.tokens.2)) pool.tokens.2.address
          (pool, pool.tokens.1)) graph a =
        graph a ++ pools.flatMap fun pool => (ends pool a).map (pool, ·) := by
    induction pools with
    | nil => simp
    | cons pool pools ih =>
      intro graph
      rw [List.foldl_cons, ih, List.flatMap_cons, ← List.append_assoc]
      congr 1
      unfold addArc ends
      by_cases h0 : pool.tokens.1.address = a <;> by_cases h1 : pool.tokens.2.address = a <;>
        simp [h0, h1, Ne.symm]
  exact hfold fun _ => []

/-- The arcs that leave an address, labelled with places in the list of pools. -/
def places (pools : List Pool) (a : Address) : List (Fin pools.length × Token) :=
  (List.finRange pools.length).flatMap fun i => (ends (pools.get i) a).map (i, ·)

/-- The graph of the source is the labelled one with the labels replaced by the pools. -/
theorem buildGraph_places (pools : List Pool) :
    buildGraph pools = fun a => (places pools a).map (Prod.map pools.get id) := by
  funext a
  rw [buildGraph_eq, places, List.map_flatMap]
  conv_lhs => rw [← List.map_get_finRange pools]
  rw [List.flatMap_map]
  refine congrArg (List.flatMap · _) (funext fun i => ?_)
  rw [List.map_map]
  rfl

/-- A pool leads from each of its tokens to the other one. -/
theorem mem_ends {pool : Pool} {a : Address} {b : Token} :
    b ∈ ends pool a ↔ (pool.tokens.1.address = a ∧ b = pool.tokens.2) ∨
      (pool.tokens.2.address = a ∧ b = pool.tokens.1) := by
  unfold ends
  by_cases h0 : pool.tokens.1.address = a <;> by_cases h1 : pool.tokens.2.address = a <;>
    simp [h0, h1]

/-- A pool leads to one other token only. -/
theorem ends_unique {pool : Pool} {a : Address} {b c : Token} (hb : b ∈ ends pool a)
    (hc : c ∈ ends pool a) (hba : b.address ≠ a) (hca : c.address ≠ a) : b = c := by
  rcases mem_ends.mp hb with ⟨h0, rfl⟩ | ⟨h1, rfl⟩
  · rcases mem_ends.mp hc with ⟨_, rfl⟩ | ⟨_, rfl⟩
    · rfl
    · exact absurd h0 hca
  · rcases mem_ends.mp hc with ⟨_, rfl⟩ | ⟨_, rfl⟩
    · exact absurd h1 hca
    · rfl

/-- It does so once, unless both its tokens have one address. -/
theorem ends_nodup (pool : Pool) (a : Address) :
    ((ends pool a).filter fun b => b.address ≠ a).Nodup := by
  unfold ends
  by_cases h0 : pool.tokens.1.address = a
  · by_cases h1 : pool.tokens.2.address = a
    · simp [h0, h1]
    · simp [h0, h1]
  · by_cases h1 : pool.tokens.2.address = a
    · simp [h0, h1]
    · simp [h0, h1]

/-- An arc with a place is an arc of the pool at this place. -/
theorem mem_places {pools : List Pool} {a : Address} {i : Fin pools.length} {b : Token} :
    (i, b) ∈ places pools a ↔ b ∈ ends (pools.get i) a := by
  simp only [places, List.mem_flatMap, List.mem_finRange, true_and, List.mem_map]
  constructor
  · rintro ⟨j, c, hc, heq⟩
    obtain ⟨rfl, rfl⟩ := Prod.mk.inj heq
    exact hc
  · intro hb
    exact ⟨i, b, hb, rfl⟩

/-- No two arcs with places are the same. Arcs of one place differ in their token, and those of
    different places in their label; arcs back to the same address are left out, for no simple path
    takes them. -/
theorem places_nodup (pools : List Pool) (a : Address) :
    ((places pools a).filter fun arc => arc.2.address ≠ a).Nodup := by
  rw [places, List.filter_flatMap]
  refine List.nodup_flatMap.mpr ⟨?_, ?_⟩
  · intro i _
    rw [List.filter_map]
    exact (ends_nodup (pools.get i) a).map (Prod.mk_right_injective i)
  · refine (List.nodup_finRange _).imp ?_
    intro i j hij arc hi hj
    obtain ⟨_, _, rfl⟩ := List.mem_map.mp (List.mem_filter.mp hi).1
    obtain ⟨_, _, heq⟩ := List.mem_map.mp (List.mem_filter.mp hj).1
    exact hij (Prod.mk.inj heq).1.symm

/-! ## Routes -/

/-- The pool joins the two tokens; the second is the pool's own. -/
def Joins (pool : Pool) (a b : Token) : Prop :=
  (pool.tokens.1.address = a.address ∧ b = pool.tokens.2) ∨
    (pool.tokens.2.address = a.address ∧ b = pool.tokens.1)

/-- **A simple path**: the entries `is` of the list of pools, taken in this order, lead from
    `tokenIn` to `tokenOut` along `path`. -/
structure SimpleRoute (pools : List Pool) (tokenIn tokenOut : Token) (maxHops : ℕ)
    (is : List (Fin pools.length)) (path : List Token) : Prop where
  length : path.length = is.length + 1
  starts : path.head? = some tokenIn
  finishes : path.getLast?.map Token.address = some tokenOut.address
  hops_pos : 1 ≤ is.length
  hops_le : is.length ≤ maxHops
  joined : ∀ (j : ℕ) (i : Fin pools.length) (a b : Token), is[j]? = some i → path[j]? = some a →
    path[j + 1]? = some b → Joins (pools.get i) a b
  simple : (path.map Token.address).Nodup

variable {pools : List Pool} {tokenIn tokenOut : Token} {maxHops : ℕ}

/-- The walks of the labelled graph are the routes, hop by hop. -/
theorem walk_iff {p : List (Fin pools.length × Token)} :
    Walk Token.address (places pools) tokenOut.address tokenIn.address p ↔
      (∀ (j : ℕ) (i : Fin pools.length) (a b : Token), (p.map Prod.fst)[j]? = some i →
        (tokenIn :: p.map Prod.snd)[j]? = some a → (tokenIn :: p.map Prod.snd)[j + 1]? = some b →
          Joins (pools.get i) a b) ∧
        (tokenIn :: p.map Prod.snd).getLast?.map Token.address = some tokenOut.address := by
  induction p generalizing tokenIn with
  | nil => simp [Walk]
  | cons arc p ih =>
    obtain ⟨i, b⟩ := arc
    rw [Walk, ih, mem_places, mem_ends, List.map_cons, List.map_cons, List.getLast?_cons_cons]
    constructor
    · rintro ⟨hjoin, hjoined, hend⟩
      refine ⟨?_, hend⟩
      intro j i' a c hi ha hc
      cases j with
      | zero =>
        cases hi
        cases ha
        cases hc
        exact hjoin
      | succ j => exact hjoined j i' a c hi ha hc
    · rintro ⟨hjoined, hend⟩
      refine ⟨hjoined 0 i tokenIn b rfl rfl rfl, ?_, hend⟩
      intro j i' a c hi ha hc
      exact hjoined (j + 1) i' a c hi ha hc

/-- **What the search finds in the labelled graph are the simple routes.** The library says what it
    finds in terms of walks; here the walk is read hop by hop, and the addresses of the path are
    the first one and those of the arcs. -/
theorem mem_search_places (hne : tokenIn.address ≠ tokenOut.address)
    {p : List (Fin pools.length × Token)} :
    p ∈ search Token.address (places pools) tokenOut.address maxHops tokenIn.address
        {tokenIn.address} ↔
      SimpleRoute pools tokenIn tokenOut maxHops (p.map Prod.fst) (tokenIn :: p.map Prod.snd) := by
  rw [mem_search (Finset.mem_singleton_self _), walk_iff]
  have haddresses : (tokenIn :: p.map Prod.snd).map Token.address =
      tokenIn.address :: p.map fun arc => arc.2.address := by
    rw [List.map_cons, List.map_map]
    rfl
  constructor
  · intro ⟨⟨hjoined, hend⟩, hlen, hnodup, havoid⟩
    refine ⟨by simp, rfl, hend, ?_, by simpa using hlen, hjoined, ?_⟩
    · -- a path without arcs would end where it begins
      rw [List.length_map]
      apply List.length_pos_iff.mpr
      intro hnil
      subst hnil
      exact hne (Option.some.inj hend)
    · rw [haddresses, List.nodup_cons]
      refine ⟨?_, hnodup⟩
      intro hmem
      obtain ⟨arc, harc, heq⟩ := List.mem_map.mp hmem
      exact havoid arc harc (Finset.mem_singleton.mpr heq)
  · intro h
    have hsimple := h.simple
    rw [haddresses, List.nodup_cons] at hsimple
    refine ⟨⟨h.joined, h.finishes⟩, by simpa using h.hops_le, hsimple.2, ?_⟩
    intro arc harc hseen
    exact hsimple.1 (List.mem_map.mpr ⟨arc, harc, Finset.mem_singleton.mp hseen⟩)

/-- The tokens of a simple walk are determined by its pools. A pool leads to its other token, and
    the one it was entered by has been seen. -/
theorem walk_places_inj {k : Address} {seen : Finset Address} (hk : k ∈ seen)
    {p q : List (Fin pools.length × Token)}
    (hp : Walk Token.address (places pools) tokenOut.address k p)
    (hq : Walk Token.address (places pools) tokenOut.address k q)
    (hsp : (p.map fun arc => arc.2.address).Nodup) (hsq : (q.map fun arc => arc.2.address).Nodup)
    (hap : ∀ arc ∈ p, arc.2.address ∉ seen) (haq : ∀ arc ∈ q, arc.2.address ∉ seen)
    (h : p.map Prod.fst = q.map Prod.fst) : p = q := by
  induction p generalizing k seen q with
  | nil =>
    rw [List.map_nil, eq_comm, List.map_eq_nil_iff] at h
    exact h.symm
  | cons arc p ih =>
    cases q with
    | nil => cases h
    | cons arc' q =>
      obtain ⟨i, b⟩ := arc
      obtain ⟨j, c⟩ := arc'
      obtain ⟨rfl, hrest⟩ := List.cons.inj h
      have hb : b.address ∉ seen := hap _ List.mem_cons_self
      have hc : c.address ∉ seen := haq _ List.mem_cons_self
      -- both arcs leave the same token through the same entry
      have hbc : b = c :=
        ends_unique (mem_places.mp hp.1) (mem_places.mp hq.1) (fun heq => hb (heq ▸ hk))
          (fun heq => hc (heq ▸ hk))
      subst hbc
      obtain ⟨hfp, hsp⟩ := List.nodup_cons.mp hsp
      obtain ⟨hfq, hsq⟩ := List.nodup_cons.mp hsq
      have avoids : ∀ r : List (Fin pools.length × Token),
          b.address ∉ r.map (fun arc => arc.2.address) →
            (∀ arc ∈ (i, b) :: r, arc.2.address ∉ seen) →
              ∀ arc ∈ r, arc.2.address ∉ insert b.address seen := by
        intro r hfresh havoid arc harc hmem
        rcases Finset.mem_insert.mp hmem with heq | hseen
        · exact hfresh (List.mem_map.mpr ⟨arc, harc, heq⟩)
        · exact havoid arc (List.mem_cons_of_mem _ harc) hseen
      rw [ih (Finset.mem_insert_self _ _) hp.2 hq.2 hsp hsq (avoids p hfp hap) (avoids q hfq haq)
        hrest]

/-- The arcs along a path of one token more than there are entries. -/
theorem exists_arcs {is : List (Fin pools.length)} {path : List Token}
    (starts : path.head? = some tokenIn) (length : path.length = is.length + 1) :
    ∃ p : List (Fin pools.length × Token),
      is = p.map Prod.fst ∧ path = tokenIn :: p.map Prod.snd := by
  cases path with
  | nil => cases starts
  | cons a rest =>
    obtain rfl : a = tokenIn := Option.some.inj starts
    have hlen : rest.length = is.length := Nat.succ.inj length
    refine ⟨is.zip rest, ?_, ?_⟩
    · rw [List.map_fst_zip hlen.ge]
    · rw [List.map_snd_zip hlen.le]

/-- A simple path does not come back to where it starts. -/
theorem SimpleRoute.addresses_ne {is : List (Fin pools.length)} {path : List Token}
    (h : SimpleRoute pools tokenIn tokenOut maxHops is path) :
    tokenIn.address ≠ tokenOut.address := by
  obtain ⟨p, rfl, rfl⟩ := exists_arcs h.starts h.length
  have hsimple := h.simple
  have hend := h.finishes
  cases p with
  | nil => cases h.hops_pos
  | cons arc p =>
    rw [List.map_cons, List.getLast?_cons_cons, Option.map_eq_some_iff] at hend
    obtain ⟨b, hb, hout⟩ := hend
    rw [List.map_cons, List.nodup_cons] at hsimple
    intro heq
    apply hsimple.1
    rw [heq, ← hout]
    exact List.mem_map_of_mem (List.mem_of_getLast? hb)

/-- The routes returned are those the search finds in the graph of the pools. -/
theorem findAllRoutes_eq (hne : tokenIn.address ≠ tokenOut.address) :
    (new pools).findAllRoutes tokenIn tokenOut maxHops =
      (search Token.address (places pools) tokenOut.address maxHops tokenIn.address
        {tokenIn.address}).map fun p =>
          { pools := (p.map Prod.fst).map pools.get, path := tokenIn :: p.map Prod.snd } := by
  unfold findAllRoutes
  rw [dfs_eq (.inr hne)]
  show [] ++ List.map _ (search _ (buildGraph pools) _ _ _ _) = _
  rw [buildGraph_places, search_map, List.nil_append, List.map_map]
  refine List.map_congr_left fun p _ => ?_
  simp [Search.route]

/-- The route takes a simple path of the pools. -/
def IsSimple (pools : List Pool) (tokenIn tokenOut : Token) (maxHops : ℕ) (route : Route) : Prop :=
  ∃ is path, SimpleRoute pools tokenIn tokenOut maxHops is path ∧
    route = { pools := is.map pools.get, path }

theorem mem_findAllRoutes {route : Route} :
    route ∈ (new pools).findAllRoutes tokenIn tokenOut maxHops ↔
      IsSimple pools tokenIn tokenOut maxHops route := by
  by_cases heq : tokenIn.address = tokenOut.address
  · have none : (new pools).findAllRoutes tokenIn tokenOut maxHops = [] := by
      unfold findAllRoutes dfs
      rw [if_pos heq]
      rfl
    rw [none]
    refine iff_of_false List.not_mem_nil ?_
    rintro ⟨is, path, h, -⟩
    exact h.addresses_ne heq
  · rw [findAllRoutes_eq heq, List.mem_map]
    constructor
    · rintro ⟨p, hp, rfl⟩
      exact ⟨_, _, (mem_search_places heq).mp hp, rfl⟩
    · rintro ⟨is, path, h, rfl⟩
      obtain ⟨p, rfl, rfl⟩ := exists_arcs h.starts h.length
      exact ⟨p, (mem_search_places heq).mpr h, rfl⟩

/-- **The routes are the simple paths, each sequence of pool entries once.** The routes are those
    that the library's search lists in the labelled graph: it is sound and complete for walks, no
    arc is listed twice, and the tokens of a route are determined by its entries. Between two
    tokens of one address there are none. -/
theorem findAllRoutes_exact (pools : List Pool) (tokenIn tokenOut : Token) (maxHops : ℕ) :
    ∃ routes : List (List (Fin pools.length) × List Token),
      (new pools).findAllRoutes tokenIn tokenOut maxHops =
          routes.map (fun r => { pools := r.1.map pools.get, path := r.2 }) ∧
        (routes.map Prod.fst).Nodup ∧
        (∀ is path, (is, path) ∈ routes ↔ SimpleRoute pools tokenIn tokenOut maxHops is path) ∧
        (tokenIn.address = tokenOut.address → routes = []) := by
  by_cases heq : tokenIn.address = tokenOut.address
  · refine ⟨[], ?_, List.nodup_nil, ?_, fun _ => rfl⟩
    · -- the walk would have to come back to where it began
      unfold findAllRoutes dfs
      rw [if_pos heq]
      rfl
    · intro is path
      simp only [List.not_mem_nil, false_iff]
      intro h
      exact h.addresses_ne heq
  · refine ⟨(search Token.address (places pools) tokenOut.address maxHops tokenIn.address
      {tokenIn.address}).map fun p => (p.map Prod.fst, tokenIn :: p.map Prod.snd), ?_, ?_, ?_,
      fun h => absurd h heq⟩
    · rw [findAllRoutes_eq heq, List.map_map]
      rfl
    · rw [List.map_map]
      refine List.Nodup.map_on ?_ (search_nodup (places_nodup pools) (Finset.mem_singleton_self _))
      intro p hp q hq h
      obtain ⟨hwp, _, hsp, hap⟩ := (mem_search (Finset.mem_singleton_self _)).mp hp
      obtain ⟨hwq, _, hsq, haq⟩ := (mem_search (Finset.mem_singleton_self _)).mp hq
      exact walk_places_inj (Finset.mem_singleton_self _) hwp hwq hsp hsq hap haq h
    · intro is path
      rw [List.mem_map]
      constructor
      · rintro ⟨p, hp, hpair⟩
        obtain ⟨rfl, rfl⟩ := Prod.mk.inj hpair
        exact (mem_search_places heq).mp hp
      · intro h
        obtain ⟨p, rfl, rfl⟩ := exists_arcs h.starts h.length
        exact ⟨p, (mem_search_places heq).mpr h, rfl⟩

end RouteFinder

end ArbEngine
