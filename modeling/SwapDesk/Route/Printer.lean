import SwapDesk.Json.Value
import SwapDesk.Route.Quote

namespace SwapDesk

def Pool.toJson (p : Pool) : Json :=
  .ofMembers
    [("platform", .string p.platform.name),
     ("token0", .string p.token0.text),
     ("token1", .string p.token1.text),
     ("address", .string p.address.text),
     ("pool_id", .optional (fun n => .nat n.toNat) p.poolId)]

def Hop.toJson (h : Hop) : Json :=
  .ofMembers
    [("platform", .string h.platform.name),
     ("pool", .string h.pool.text),
     ("token_in", .string h.tokenIn.text),
     ("token_out", .string h.tokenOut.text)]

def TradePath.hopsJson (p : TradePath) : Json :=
  .array (p.hops.map Hop.toJson)

def Quote.toJson (q : Quote) : Json :=
  .ofMembers
    [("path", .ofMembers [("hops", q.path.hopsJson)]),
     ("amount_in", .string (Text.hexQuantity q.amountIn.toNat)),
     ("amount_out", .string (Text.hexQuantity q.amountOut.toNat)),
     ("block_number", .nat q.block.toNat)]

end SwapDesk
