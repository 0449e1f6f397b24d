import SwapDesk.Word

/-!
How far an executed price may move away from the quoted one, in ten-thousandths. The bounds are
computed in 256-bit words, and products wrap around.
-/

namespace SwapDesk.Slippage

def denominator : Nat := 10000

def scale (amount : Word) (factor : Nat) : Word :=
  amount * BitVec.ofNat 256 factor / BitVec.ofNat 256 denominator

/-- The least output to accept; more than the whole amount cannot be lost. -/
def minOut (amountOut : Word) (bps : UInt64) : Word :=
  scale amountOut (denominator - min bps.toNat denominator)

/-- The greatest input to pay; none when the factor leaves 64 bits. -/
def maxIn? (amountIn : Word) (bps : UInt64) : Option Word :=
  if denominator + bps.toNat < 2 ^ 64 then some (scale amountIn (denominator + bps.toNat)) else none

end SwapDesk.Slippage
