import ArbEngine.Proof.Pricing.QuoteCheck
import ArbEngine.Proof.Pricing.Routes

/-!
# The best route

The ranking counts the output of a route whose quote fails as zero. Such a route is last in the
ranking but still in it, and where nothing is left of any output once the gas is paid for, the
last of the routes is the best one, whether it can be executed or not. `findsBest_iff` says when
the best route is one that can be, and the best of those.

The swaps of V3 pools loop, so that a quote may not come back. Everything here is said of what
enough fuel gives (`Fueled.Ends`).

The source takes the maximum of the analysed routes with an iterator that keeps the last of equal
ones, and this is where a failing route can win: with nothing left of any output all are equal.
`winner` says which route that is, and the theorem compares it with the best of those that can be
executed.
-/

namespace ArbEngine

open Fueled

/-! ## Fuel -/

variable {m : TickMath}

theorem Pool.steady_getAmountOut (m : TickMath) (pool : Pool) (amountIn : U256)
    (tokenIn : Token) : Steady fun fuel => pool.getAmountOut m fuel amountIn tokenIn := by
  cases pool with
  | v2 pair => exact steady_const _
  | v3 pool =>
    intro fuel more o h
    change UniswapV3Pool.getAmountOut m pool fuel amountIn tokenIn = some o at h
    show UniswapV3Pool.getAmountOut m pool (fuel + more) amountIn tokenIn = some o
    unfold UniswapV3Pool.getAmountOut at h ⊢
    by_cases hzero : amountIn = 0#256
    · rw [if_pos hzero] at h ⊢
      exact h
    · rw [if_neg hzero] at h ⊢
      cases hamount : toI128 amountIn.toNat with
      | ok amountSpecified =>
        rw [hamount] at h
        obtain ⟨end_, hrun, hend⟩ := Option.map_eq_some_iff.mp h
        exact Option.map_eq_some_iff.mpr ⟨end_, Loop.run_add hrun more, hend⟩
      | err msg =>
        rw [hamount] at h
        exact h
      | panic =>
        rw [hamount] at h
        exact h

namespace Route

theorem steady_outputAlong (m : TickMath) (pools : List Pool) (path : List Token)
    (amountIn : U256) : Steady fun fuel => outputAlong m fuel pools path amountIn := by
  induction pools generalizing path amountIn with
  | nil => exact steady_const _
  | cons pool pools ih =>
    cases path with
    | nil => exact steady_const _
    | cons tokenIn path =>
      exact (pool.steady_getAmountOut m amountIn tokenIn).bind fun amount => ih path amount

theorem steady_getOutput (m : TickMath) (r : Route) (amountIn : U256) :
    Steady fun fuel => r.getOutput m fuel amountIn := steady_outputAlong m r.pools r.path amountIn

/-- `r.get_output(amount_in) = Ok(output)` -/
def Quotes (m : TickMath) (r : Route) (amountIn output : U256) : Prop :=
  Ends (fun fuel => r.getOutput m fuel amountIn) (.ok output)

/-- `r.get_output(amount_in)` is an error. -/
def QuoteFails (m : TickMath) (r : Route) (amountIn : U256) : Prop :=
  ∃ msg, Ends (fun fuel => r.getOutput m fuel amountIn) (.err msg)

theorem Quotes.not_fails {r : Route} {amountIn output : U256} (h : r.Quotes m amountIn output) :
    ¬ r.QuoteFails m amountIn := by
  rintro ⟨msg, h'⟩
  cases h.unique (steady_getOutput m r amountIn) h'

theorem Quotes.unique {r : Route} {amountIn output output' : U256}
    (h : r.Quotes m amountIn output) (h' : r.Quotes m amountIn output') : output = output' :=
  Outcome.ok.inj (Ends.unique (steady_getOutput m r amountIn) h h')

end Route

namespace RouteFinder

variable {f : RouteFinder} {tokenIn tokenOut : Token} {amountIn : U256}
  {gasPriceGwei : BitVec 64} {maxHops : ℕ} {route : Route} {a : RouteAnalysis}

theorem steady_convertEthToTokenCost (m : TickMath) (f : RouteFinder) (gasCostEth : U256)
    (tokenOut : Token) :
    Steady fun fuel => f.convertEthToTokenCost m fuel gasCostEth tokenOut := by
  unfold convertEthToTokenCost
  split
  · exact steady_const _
  · split
    · exact (Pool.steady_getAmountOut m _ _ _).discardErr
    · exact steady_const _

/-! ## One route -/

section One

variable (m f tokenOut amountIn gasPriceGwei route)

/-- The gas of the route costs this much in the token that comes out; nothing, where that cannot
    be told. -/
def GasCosts (cost : ℕ) : Prop :=
  ∃ told : Option U256,
    Ends (fun fuel => f.convertEthToTokenCost m fuel (gasCostEth route gasPriceGwei) tokenOut)
      (.ok told) ∧
    cost = told.elim 0 BitVec.toNat

/-- The calls made to assess the route come back: its quote with an output or an error, and the
    conversion of what its gas costs. -/
def Assessed : Prop :=
  ((∃ output, route.Quotes m amountIn output) ∨ route.QuoteFails m amountIn) ∧
    ∃ cost, GasCosts m f tokenOut gasPriceGwei route cost

/-- The ranking makes this of the route. -/
def Analysed (a : RouteAnalysis) : Prop :=
  Ends (fun fuel => f.analyse m fuel tokenOut amountIn gasPriceGwei route) (.ok a)

end One

/-- What gas costs is one number, however much fuel is spent on it. -/
theorem GasCosts.unique {cost cost' : ℕ} (h : GasCosts m f tokenOut gasPriceGwei route cost)
    (h' : GasCosts m f tokenOut gasPriceGwei route cost') : cost = cost' := by
  obtain ⟨told, htold, rfl⟩ := h
  obtain ⟨told', hother, rfl⟩ := h'
  rw [Outcome.ok.inj (hother.unique (steady_convertEthToTokenCost m f _ tokenOut) htold)]

/-- The analysis of a route that pays `gross`, its gas being told as `told`. -/
def report (route : Route) (gasPriceGwei : BitVec 64) (gross : U256) (told : Option U256) :
    RouteAnalysis where
  route := route
  grossOutput := gross
  gasEstimate := route.estimateGas
  gasCostEth := gasCostEth route gasPriceGwei
  gasCostToken := told
  netOutput :=
    match told with
    | some cost => Word.saturatingSub gross cost
    | none => gross

/-- What is left of the output: never less than nothing. -/
theorem report_net {gross : U256} {told : Option U256} :
    (report route gasPriceGwei gross told).netOutput.toNat =
      gross.toNat - told.elim 0 BitVec.toNat := by
  cases told with
  | some cost => exact Word.toNat_saturatingSub
  | none => rfl

theorem analyse_eq {fuel : ℕ} :
    f.analyse m fuel tokenOut amountIn gasPriceGwei route =
      (route.getOutput m fuel amountIn).unwrapOr 0#256 >>= fun gross =>
        f.convertEthToTokenCost m fuel (gasCostEth route gasPriceGwei) tokenOut >>= fun told =>
          pure (report route gasPriceGwei gross told) := rfl

/-- A call that has come back comes back the same with more fuel. -/
theorem steady_report (m : TickMath) (f : RouteFinder) (tokenOut : Token)
    (gasPriceGwei : BitVec 64) (route : Route) (gross : U256) :
    Steady fun fuel =>
      f.convertEthToTokenCost m fuel (gasCostEth route gasPriceGwei) tokenOut >>= fun told =>
        pure (report route gasPriceGwei gross told) :=
  (steady_convertEthToTokenCost m f _ tokenOut).bind fun _ => steady_const _

/-- So does an analysis. -/
theorem steady_analyse (m : TickMath) (f : RouteFinder) (tokenOut : Token) (amountIn : U256)
    (gasPriceGwei : BitVec 64) (route : Route) :
    Steady fun fuel => f.analyse m fuel tokenOut amountIn gasPriceGwei route :=
  ((route.steady_getOutput m amountIn).unwrapOr 0#256).bind fun gross =>
    steady_report m f tokenOut gasPriceGwei route gross

/-- **An analysis is put together from two calls**: the quote, of which an error is worth nothing,
    and the conversion of the gas. -/
theorem analysed_iff :
    Analysed m f tokenOut amountIn gasPriceGwei route a ↔
      ∃ gross, (route.Quotes m amountIn gross ∨ gross = 0#256 ∧ route.QuoteFails m amountIn) ∧
      ∃ told, Ends
        (fun fuel => f.convertEthToTokenCost m fuel (gasCostEth route gasPriceGwei) tokenOut)
        (.ok told) ∧
      a = report route gasPriceGwei gross told := by
  unfold Analysed
  simp only [analyse_eq]
  rw [ends_bind_ok ((route.steady_getOutput m amountIn).unwrapOr 0#256)
    (steady_report m f tokenOut gasPriceGwei route)]
  refine exists_congr fun gross => and_congr ends_unwrapOr_ok ?_
  rw [ends_bind_ok (steady_convertEthToTokenCost m f _ tokenOut)
    fun told => steady_const (pure (report route gasPriceGwei gross told))]
  refine exists_congr fun told => and_congr_right fun _ => ?_
  rw [ends_const, Fueled.pure_eq_ok]
  exact eq_comm

/-- **What the ranking makes of a route**: what is left of its output, and of a quote that fails
    nothing. -/
theorem Analysed.cases (h : Analysed m f tokenOut amountIn gasPriceGwei route a) :
    a.route = route ∧ ∃ cost, GasCosts m f tokenOut gasPriceGwei route cost ∧
      ((∃ output, route.Quotes m amountIn output ∧
          a.netOutput.toNat = output.toNat - cost) ∨
        route.QuoteFails m amountIn ∧ a.netOutput.toNat = 0) := by
  obtain ⟨gross, hgross, told, htold, rfl⟩ := analysed_iff.mp h
  refine ⟨rfl, _, ⟨told, htold, rfl⟩, ?_⟩
  rcases hgross with quoted | ⟨rfl, failed⟩
  · exact .inl ⟨gross, quoted, report_net⟩
  · refine .inr ⟨failed, ?_⟩
    rw [report_net]
    exact Nat.zero_sub _

/-- A route that is assessed has an analysis, and no other has. -/
theorem assessed_iff :
    Assessed m f tokenOut amountIn gasPriceGwei route ↔
      ∃ a, Analysed m f tokenOut amountIn gasPriceGwei route a := by
  constructor
  · rintro ⟨quote, -, told, htold, -⟩
    rcases quote with ⟨output, quoted⟩ | failed
    · exact ⟨_, analysed_iff.mpr ⟨output, .inl quoted, told, htold, rfl⟩⟩
    · exact ⟨_, analysed_iff.mpr ⟨0#256, .inr ⟨rfl, failed⟩, told, htold, rfl⟩⟩
  · rintro ⟨a, h⟩
    obtain ⟨-, cost, hcost, ⟨output, quoted, -⟩ | ⟨failed, -⟩⟩ := h.cases
    · exact ⟨.inl ⟨output, quoted⟩, cost, hcost⟩
    · exact ⟨.inr failed, cost, hcost⟩

/-! ## The ranking -/

/-- The analyses of all routes. -/
theorem steady_analyseAll (m : TickMath) (f : RouteFinder) (tokenOut : Token) (amountIn : U256)
    (gasPriceGwei : BitVec 64) (routes : List Route) :
    Steady fun fuel => f.analyseAll m fuel tokenOut amountIn gasPriceGwei routes := by
  induction routes with
  | nil => exact steady_const _
  | cons route routes ih =>
    exact (steady_analyse m f tokenOut amountIn gasPriceGwei route).bind fun analysis =>
      ih.bind fun results => steady_const (pure (analysis :: results))

/-- They come back where each of them does. -/
theorem ends_analyseAll {routes : List Route} {analyses : List RouteAnalysis} :
    Ends (fun fuel => f.analyseAll m fuel tokenOut amountIn gasPriceGwei routes) (.ok analyses) ↔
      List.Forall₂ (Analysed m f tokenOut amountIn gasPriceGwei) routes analyses := by
  induction routes generalizing analyses with
  | nil =>
    simp only [analyseAll, ends_const, Fueled.pure_eq_ok, List.forall₂_nil_left_iff]
    exact eq_comm
  | cons route routes ih =>
    have rest : ∀ analysis : RouteAnalysis, Steady fun fuel =>
        f.analyseAll m fuel tokenOut amountIn gasPriceGwei routes >>= fun results =>
          pure (analysis :: results) := fun analysis =>
      (steady_analyseAll m f tokenOut amountIn gasPriceGwei routes).bind fun results =>
        steady_const (pure (analysis :: results))
    simp only [analyseAll]
    rw [ends_bind_ok (steady_analyse m f tokenOut amountIn gasPriceGwei route) rest,
      List.forall₂_cons_left_iff]
    refine exists_congr fun analysis => ?_
    rw [ends_bind_ok (steady_analyseAll m f tokenOut amountIn gasPriceGwei routes)
      fun results => steady_const (pure (analysis :: results))]
    constructor
    · rintro ⟨hanalysis, results, hresults, hlist⟩
      rw [ends_const, Fueled.pure_eq_ok] at hlist
      exact ⟨results, hanalysis, ih.mp hresults, hlist.symm⟩
    · rintro ⟨results, hanalysis, hresults, hlist⟩
      refine ⟨hanalysis, results, ih.mpr hresults, ?_⟩
      rw [ends_const, Fueled.pure_eq_ok]
      exact hlist.symm

/-- The best route is the best of all analyses. -/
theorem ends_findBestRoute {best : Route × U256} :
    Ends (fun fuel => f.findBestRoute m fuel tokenIn tokenOut amountIn gasPriceGwei maxHops)
        (.ok best) ↔
      ∃ analyses, List.Forall₂ (Analysed m f tokenOut amountIn gasPriceGwei)
          (f.findAllRoutes tokenIn tokenOut maxHops) analyses ∧
        ∃ a, maxByNetOutput analyses = some a ∧ best = (a.route, a.netOutput) := by
  have pick : ∀ analyses : List RouteAnalysis, Steady fun _ =>
      (ended (Outcome.okOr "No route found" (maxByNetOutput analyses)) >>= fun best =>
        pure (best.route, best.netOutput) : Fueled (Route × U256)) := fun _ => steady_const _
  simp only [findBestRoute, compareRoutes]
  rw [ends_bind_ok (steady_analyseAll m f tokenOut amountIn gasPriceGwei _) pick]
  refine exists_congr fun analyses => and_congr ends_analyseAll ?_
  rw [ends_const, bind_eq_ok]
  refine exists_congr fun a => ?_
  rw [ended_eq_ok, Outcome.okOr_eq_ok, Fueled.pure_eq_ok, eq_comm (b := best)]

/-! ## When the best route is one -/

section Best

variable (m : TickMath) (pools : List Pool) (tokenIn tokenOut : Token) (amountIn : U256)
  (gasPriceGwei : BitVec 64) (maxHops : ℕ)

/-- `find_best_route` returns this route with this net output. -/
def Finds (route : Route) (net : U256) : Prop :=
  Ends (fun fuel =>
    (new pools).findBestRoute m fuel tokenIn tokenOut amountIn gasPriceGwei maxHops)
    (.ok (route, net))

/-- **The best route is executable and optimal.** -/
structure FindsBest : Prop where
  found_iff :
    (∃ route net, Finds m pools tokenIn tokenOut amountIn gasPriceGwei maxHops route net) ↔
    ∃ route, IsSimple pools tokenIn tokenOut maxHops route ∧
      ∃ output, route.Quotes m amountIn output
  executable : ∀ route net,
    Finds m pools tokenIn tokenOut amountIn gasPriceGwei maxHops route net →
      IsSimple pools tokenIn tokenOut maxHops route ∧
      ∃ output cost, route.Quotes m amountIn output ∧
        GasCosts m (new pools) tokenOut gasPriceGwei route cost ∧
        net.toNat = output.toNat - cost
  optimal : ∀ route net other output cost,
    Finds m pools tokenIn tokenOut amountIn gasPriceGwei maxHops route net →
      IsSimple pools tokenIn tokenOut maxHops other → other.Quotes m amountIn output →
      GasCosts m (new pools) tokenOut gasPriceGwei other cost →
        output.toNat - cost ≤ net.toNat

/-- The calls made for every route come back. -/
def AllAssessed : Prop :=
  ∀ route ∈ (new pools).findAllRoutes tokenIn tokenOut maxHops,
    Assessed m (new pools) tokenOut amountIn gasPriceGwei route

/-- Some route pays more than its gas costs. -/
def SomePays : Prop :=
  ∃ route ∈ (new pools).findAllRoutes tokenIn tokenOut maxHops, ∃ output cost,
    route.Quotes m amountIn output ∧ GasCosts m (new pools) tokenOut gasPriceGwei route cost ∧
      cost < output.toNat

/-- The last of the routes enumerated, if there is any, has a quote. -/
def LastQuotes : Prop :=
  ∀ route ∈ ((new pools).findAllRoutes tokenIn tokenOut maxHops).getLast?,
    ∃ output, route.Quotes m amountIn output

end Best

variable {pools : List Pool} {net : U256}

/-- Lists that match match piece by piece. -/
theorem forall₂_split {α β : Type} {R : α → β → Prop} {l : List α} {before after : List β} {b : β}
    (h : List.Forall₂ R l (before ++ b :: after)) :
    ∃ l₁ a l₂, l = l₁ ++ a :: l₂ ∧ R a b ∧ List.Forall₂ R l₂ after := by
  have hrest := List.forall₂_drop_append l before (b :: after) h
  obtain ⟨a, l₂, hab, hafter, hdrop⟩ := List.forall₂_cons_right_iff.mp hrest
  refine ⟨l.take before.length, a, l₂, ?_, hab, hafter⟩
  rw [← hdrop, List.take_append_drop]

/-- What is in one list has a partner in the other. -/
theorem forall₂_exists {α β : Type} {R : α → β → Prop} {l : List α} {l' : List β} {a : α}
    (h : List.Forall₂ R l l') (ha : a ∈ l) : ∃ b ∈ l', R a b := by
  induction h with
  | nil => cases ha
  | @cons x y l l' hxy _ ih =>
    rcases List.mem_cons.mp ha with rfl | ha
    · exact ⟨y, List.mem_cons_self, hxy⟩
    · obtain ⟨b, hb, hab⟩ := ih ha
      exact ⟨b, List.mem_cons_of_mem _ hb, hab⟩

/-- **The route that wins**: none is better, and where it is left with nothing it is the last. -/
theorem winner {routes : List Route} {analyses : List RouteAnalysis}
    (ranked : List.Forall₂ (Analysed m f tokenOut amountIn gasPriceGwei) routes analyses)
    (best : maxByNetOutput analyses = some a) :
    a.route ∈ routes ∧ Analysed m f tokenOut amountIn gasPriceGwei a.route a ∧
      (∀ other ∈ routes, ∀ output cost, other.Quotes m amountIn output →
        GasCosts m f tokenOut gasPriceGwei other cost → output.toNat - cost ≤ a.netOutput.toNat) ∧
      (a.netOutput.toNat = 0 → routes.getLast? = some a.route) := by
  obtain ⟨before, after, rfl, hbefore, hafter⟩ := maxByNetOutput_eq_some best
  have largest : ∀ b ∈ before ++ a :: after, b.netOutput ≤ a.netOutput := by
    intro b hb
    rcases List.mem_append.mp hb with earlier | hb
    · exact hbefore b earlier
    · rcases List.mem_cons.mp hb with rfl | later
      · exact BitVec.le_refl _
      · exact BitVec.le_of_lt (hafter b later)
  obtain ⟨l₁, route, l₂, hroutes, hanalysed, hrest⟩ := forall₂_split ranked
  obtain rfl : a.route = route := hanalysed.cases.1
  refine ⟨by simp [hroutes], hanalysed, ?_, ?_⟩
  · intro other hother output cost quoted costs
    obtain ⟨b, hmem, hb⟩ := forall₂_exists ranked hother
    have below : b.netOutput ≤ a.netOutput := largest b hmem
    rw [BitVec.le_def] at below
    obtain ⟨-, cost', costs', ⟨output', quoted', hnet⟩ | ⟨failed, -⟩⟩ := hb.cases
    · rw [quoted.unique quoted', costs.unique costs', ← hnet]
      exact below
    · exact absurd failed quoted.not_fails
  · intro nothing
    have last : after = [] := by
      apply List.eq_nil_iff_forall_not_mem.mpr
      intro b hb
      have less := BitVec.lt_def.mp (hafter b hb)
      omega
    rw [last, List.forall₂_nil_right_iff] at hrest
    rw [hroutes, hrest]
    exact List.getLast?_concat

/-- Where every route is assessed all have an analysis. -/
theorem exists_analyses {routes : List Route}
    (h : ∀ route ∈ routes, Assessed m f tokenOut amountIn gasPriceGwei route) :
    ∃ analyses, List.Forall₂ (Analysed m f tokenOut amountIn gasPriceGwei) routes analyses := by
  induction routes with
  | nil => exact ⟨[], .nil⟩
  | cons route routes ih =>
    obtain ⟨a, ha⟩ := assessed_iff.mp (h route List.mem_cons_self)
    obtain ⟨analyses, hrest⟩ := ih fun other hother => h other (List.mem_cons_of_mem _ hother)
    exact ⟨a :: analyses, .cons ha hrest⟩

/-- A route that was found has won a ranking of all of them. -/
theorem Finds.exists_winner
    (h : Finds m pools tokenIn tokenOut amountIn gasPriceGwei maxHops route net) :
    ∃ analyses a, List.Forall₂ (Analysed m (new pools) tokenOut amountIn gasPriceGwei)
        ((new pools).findAllRoutes tokenIn tokenOut maxHops) analyses ∧
      maxByNetOutput analyses = some a ∧ a.route = route ∧ a.netOutput = net := by
  obtain ⟨analyses, ranked, a, best, hbest⟩ := ends_findBestRoute.mp h
  obtain ⟨rfl, rfl⟩ := Prod.mk.inj hbest
  exact ⟨analyses, a, ranked, best, rfl, rfl⟩

/-- And for a ranking all of them had to be assessed. -/
theorem Finds.allAssessed
    (h : Finds m pools tokenIn tokenOut amountIn gasPriceGwei maxHops route net) :
    AllAssessed m pools tokenIn tokenOut amountIn gasPriceGwei maxHops := by
  obtain ⟨analyses, -, ranked, -⟩ := h.exists_winner
  intro other hother
  obtain ⟨b, -, hb⟩ := forall₂_exists ranked hother
  exact assessed_iff.mpr ⟨b, hb⟩

/-- Where every route is assessed and there is one, one is found. -/
theorem exists_finds
    (assessed : AllAssessed m pools tokenIn tokenOut amountIn gasPriceGwei maxHops)
    (some_route : (new pools).findAllRoutes tokenIn tokenOut maxHops ≠ []) :
    ∃ route net, Finds m pools tokenIn tokenOut amountIn gasPriceGwei maxHops route net := by
  obtain ⟨analyses, ranked⟩ := exists_analyses assessed
  cases analyses with
  | nil => exact absurd (List.forall₂_nil_right_iff.mp ranked) some_route
  | cons first rest => exact ⟨_, _, ends_findBestRoute.mpr ⟨_, ranked, _, rfl, rfl⟩⟩

/-- What is returned where some route pays for its gas, or the last one has a quote. -/
theorem Finds.executable
    (found : Finds m pools tokenIn tokenOut amountIn gasPriceGwei maxHops route net)
    (wins : SomePays m pools tokenIn tokenOut amountIn gasPriceGwei maxHops ∨
      LastQuotes m pools tokenIn tokenOut amountIn maxHops) :
    IsSimple pools tokenIn tokenOut maxHops route ∧
      ∃ output cost, route.Quotes m amountIn output ∧
        GasCosts m (new pools) tokenOut gasPriceGwei route cost ∧
        net.toNat = output.toNat - cost := by
  obtain ⟨analyses, a, ranked, best, rfl, rfl⟩ := found.exists_winner
  obtain ⟨hroute, hanalysed, largest, hlast⟩ := winner ranked best
  refine ⟨mem_findAllRoutes.mp hroute, ?_⟩
  obtain ⟨-, cost, costs, ⟨output, quoted, hnet⟩ | ⟨failed, nothing⟩⟩ := hanalysed.cases
  · exact ⟨output, cost, quoted, costs, hnet⟩
  · -- A route whose quote fails has nothing left, so it would have to be the last.
    rcases wins with ⟨other, hother, output, cost', quoted, costs', pays⟩ | last
    · have bounded := largest other hother output cost' quoted costs'
      omega
    · obtain ⟨output, quoted⟩ := last a.route (hlast nothing)
      exact absurd failed quoted.not_fails

/-- A route with a quote that is returned pays for its gas, or it is the last. -/
theorem Finds.wins
    (found : Finds m pools tokenIn tokenOut amountIn gasPriceGwei maxHops route net)
    {output : U256} (quoted : route.Quotes m amountIn output) {cost : ℕ}
    (costs : GasCosts m (new pools) tokenOut gasPriceGwei route cost)
    (hnet : net.toNat = output.toNat - cost) :
    SomePays m pools tokenIn tokenOut amountIn gasPriceGwei maxHops ∨
      LastQuotes m pools tokenIn tokenOut amountIn maxHops := by
  obtain ⟨analyses, a, ranked, best, rfl, rfl⟩ := found.exists_winner
  obtain ⟨hroute, -, -, hlast⟩ := winner ranked best
  rcases Nat.eq_zero_or_pos a.netOutput.toNat with nothing | pays
  · refine .inr ?_
    intro route last
    rw [hlast nothing] at last
    cases last
    exact ⟨output, quoted⟩
  · exact .inl ⟨a.route, hroute, output, cost, quoted, costs, by omega⟩

/-- Where all routes are assessed, the best is executable and optimal exactly where there is
    something to gain or the last route can be executed: among routes that leave nothing the last
    one wins, whether it can be executed or not. -/
theorem findsBest_iff_wins
    (assessed : AllAssessed m pools tokenIn tokenOut amountIn gasPriceGwei maxHops) :
    FindsBest m pools tokenIn tokenOut amountIn gasPriceGwei maxHops ↔
      SomePays m pools tokenIn tokenOut amountIn gasPriceGwei maxHops ∨
        LastQuotes m pools tokenIn tokenOut amountIn maxHops := by
  constructor
  · intro h
    by_cases none : (new pools).findAllRoutes tokenIn tokenOut maxHops = []
    · refine .inr ?_
      intro route hroute
      rw [none] at hroute
      cases hroute
    · obtain ⟨route, net, found⟩ := exists_finds assessed none
      obtain ⟨-, output, cost, quoted, costs, hnet⟩ := h.executable route net found
      exact found.wins quoted costs hnet
  · intro wins
    refine ⟨?found, fun route net found => found.executable wins, ?optimal⟩
    case found =>
      constructor
      · rintro ⟨route, net, found⟩
        obtain ⟨simple, output, -, quoted, -⟩ := found.executable wins
        exact ⟨route, simple, output, quoted⟩
      · rintro ⟨route, simple, -⟩
        exact exists_finds assessed (List.ne_nil_of_mem (mem_findAllRoutes.mpr simple))
    case optimal =>
      intro route net other output cost found simple quoted costs
      obtain ⟨analyses, a, ranked, best, rfl, rfl⟩ := found.exists_winner
      exact (winner ranked best).2.2.1 other (mem_findAllRoutes.mpr simple) output cost quoted
        costs

/-- Where some call does not come back nothing is found, so nothing may be there to find. -/
theorem findsBest_iff_unquoted
    (endless : ¬ AllAssessed m pools tokenIn tokenOut amountIn gasPriceGwei maxHops) :
    FindsBest m pools tokenIn tokenOut amountIn gasPriceGwei maxHops ↔
      ∀ route ∈ (new pools).findAllRoutes tokenIn tokenOut maxHops,
        ∀ output, ¬ route.Quotes m amountIn output := by
  have nowhere : ∀ route net,
      ¬ Finds m pools tokenIn tokenOut amountIn gasPriceGwei maxHops route net := by
    intro route net found
    exact endless found.allAssessed
  constructor
  · intro h route hroute output quoted
    obtain ⟨route, net, found⟩ :=
      h.found_iff.mpr ⟨route, mem_findAllRoutes.mp hroute, output, quoted⟩
    exact nowhere route net found
  · intro unquoted
    refine ⟨?_, fun route net found => absurd found (nowhere route net),
      fun route net _ _ _ found => absurd found (nowhere route net)⟩
    constructor
    · rintro ⟨route, net, found⟩
      exact absurd found (nowhere route net)
    · rintro ⟨route, simple, output, quoted⟩
      exact absurd quoted (unquoted route (mem_findAllRoutes.mpr simple) output)

/-- **When the best route is executable and optimal**: all the routes can be assessed, and one of
    them pays for its gas or the last of them can be executed; or the search comes to no end, and
    there is nothing to execute. -/
theorem findsBest_iff (m : TickMath) (pools : List Pool) (tokenIn tokenOut : Token)
    (amountIn : U256) (gasPriceGwei : BitVec 64) (maxHops : ℕ) :
    FindsBest m pools tokenIn tokenOut amountIn gasPriceGwei maxHops ↔
      AllAssessed m pools tokenIn tokenOut amountIn gasPriceGwei maxHops ∧
          (SomePays m pools tokenIn tokenOut amountIn gasPriceGwei maxHops ∨
            LastQuotes m pools tokenIn tokenOut amountIn maxHops) ∨
        ¬ AllAssessed m pools tokenIn tokenOut amountIn gasPriceGwei maxHops ∧
          ∀ route ∈ (new pools).findAllRoutes tokenIn tokenOut maxHops,
            ∀ output, ¬ route.Quotes m amountIn output := by
  by_cases assessed : AllAssessed m pools tokenIn tokenOut amountIn gasPriceGwei maxHops
  · simp only [assessed, true_and, not_true_eq_false, false_and, or_false]
    exact findsBest_iff_wins assessed
  · simp only [assessed, false_and, not_false_eq_true, true_and, false_or]
    exact findsBest_iff_unquoted assessed

/-! ## A quote that overflows -/

open PricingEngine in
/-- **A route that cannot be executed is the best one**: no quote fits a word for an amount of
    256 bits. -/
theorem sample_failing_best :
    ∃ route, Finds UniswapV3Pool.stepMath [samplePair "WETH"] (samplePair "WETH").tokens.1
        (samplePair "WETH").tokens.2 (BitVec.ofNat 256 (2 ^ 255)) 30#64 1 route 0#256 ∧
      route.QuoteFails UniswapV3Pool.stepMath (BitVec.ofNat 256 (2 ^ 255)) ∧
      ¬ FindsBest UniswapV3Pool.stepMath [samplePair "WETH"] (samplePair "WETH").tokens.1
        (samplePair "WETH").tokens.2 (BitVec.ofNat 256 (2 ^ 255)) 30#64 1 := by
  have failed : Route.QuoteFails UniswapV3Pool.stepMath
      { pools := [samplePair "WETH"]
        path := [(samplePair "WETH").tokens.1, (samplePair "WETH").tokens.2] }
      (BitVec.ofNat 256 (2 ^ 255)) := ⟨"Overflow calculating amount_in_with_fee", 0, by rfl⟩
  have found : Finds UniswapV3Pool.stepMath [samplePair "WETH"] (samplePair "WETH").tokens.1
      (samplePair "WETH").tokens.2 (BitVec.ofNat 256 (2 ^ 255)) 30#64 1
      { pools := [samplePair "WETH"]
        path := [(samplePair "WETH").tokens.1, (samplePair "WETH").tokens.2] } 0#256 :=
    ⟨0, by rfl⟩
  refine ⟨_, found, failed, ?_⟩
  intro h
  obtain ⟨-, output, -, quoted, -⟩ := h.executable _ _ found
  exact quoted.not_fails failed

end RouteFinder
end ArbEngine
