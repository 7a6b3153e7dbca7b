import ArbEngine.Pricing.AmmV3

/-!
# Pools of either kind (`pricing/src/amm.rs`)
-/

namespace ArbEngine

inductive Pool where
  | v2 (pair : UniswapV2Pair)
  | v3 (pool : UniswapV3Pool)

namespace Pool

def address : Pool → Address
  | .v2 p => p.address
  | .v3 p => p.address

def tokens : Pool → Token × Token
  | .v2 p => (p.token0, p.token1)
  | .v3 p => (p.token0, p.token1)

/-- The swap of a V3 pool is cut off after `fuel` iterations. -/
def getAmountOut (m : TickMath) (pool : Pool) (fuel : ℕ) (amountIn : U256) (tokenIn : Token) :
    Option (Outcome U256) :=
  match pool with
  | .v2 p => some (p.getAmountOut amountIn tokenIn)
  | .v3 p => UniswapV3Pool.getAmountOut m p fuel amountIn tokenIn

def getSpotPrice (pool : Pool) (tokenIn : Token) : Outcome ℚ :=
  match pool with
  | .v2 p => p.getSpotPrice tokenIn
  | .v3 p => p.getSpotPrice tokenIn

def getExecutionPrice (pool : Pool) (amountIn : U256) (tokenIn : Token) : Outcome ℚ :=
  match pool with
  | .v2 p => p.getExecutionPrice amountIn tokenIn
  | .v3 p => p.getExecutionPrice amountIn tokenIn

def getPriceImpact (pool : Pool) (amountIn : U256) (tokenIn : Token) : Outcome ℚ :=
  match pool with
  | .v2 p => p.getPriceImpact amountIn tokenIn
  | .v3 p => p.getPriceImpact amountIn tokenIn

end Pool

end ArbEngine
