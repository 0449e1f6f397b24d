import SwapDesk.Route.Quote
import SwapDesk.Route.Slippage

namespace SwapDesk

structure PreparedCall where
  target : Address
  calldata : Bytes
  func : String
  context : Json
deriving Inhabited

structure SwapTerms where
  direction : Direction
  slippageBps : UInt64
  recipient : Address
  deadline : UInt64
deriving DecidableEq, Inhabited

namespace SwapCall

def func : Direction → String
  | .exactIn => "swapExactTokensForTokens"
  | .exactOut => "swapTokensForExactTokens"

/-- `swapExactTokensForTokens` or `swapTokensForExactTokens`, both with the arguments
`(uint256,uint256,address[],address,uint256)` -/
def selector : Direction → Bytes
  | .exactIn => [0x38, 0xed, 0x17, 0x39]
  | .exactOut => [0x88, 0x03, 0xdb, 0xee]

structure Arguments where
  direction : Direction
  fixed : Word
  bound : Word
  tokens : List Address
  recipient : Address
  deadline : Word
deriving DecidableEq

def Arguments.encode (a : Arguments) : Bytes :=
  selector a.direction ++
    (a.fixed.toBytes ++ (a.bound.toBytes ++ (Abi.word 160 ++ (a.recipient.toWord.toBytes ++
      (a.deadline.toBytes ++ Abi.wordArray (a.tokens.map Address.toWord))))))

def Arguments.decodeWith? (direction : Direction) (calldata : Bytes) : Option Arguments :=
  if calldata.take 4 = selector direction then do
    let args := calldata.drop 4
    let fixed ← Abi.readWord? args
    let bound ← Abi.readWord? (args.drop 32)
    let body ← Abi.follow? args (args.drop 64)
    let tokens ← Abi.readWordArray? body
    let recipient ← Abi.readWord? (args.drop 96)
    let deadline ← Abi.readWord? (args.drop 128)
    return ⟨direction, fixed, bound, tokens.map Address.ofWord, Address.ofWord recipient, deadline⟩
  else none

def Arguments.decode? (calldata : Bytes) : Option Arguments :=
  (decodeWith? .exactIn calldata).or (decodeWith? .exactOut calldata)

/-- The amount of a quote that a swap leaves as it is. -/
def fixedAmount (quote : Quote) : Direction → Word
  | .exactIn => quote.amountIn
  | .exactOut => quote.amountOut

def bound? (quote : Quote) (direction : Direction) (bps : UInt64) : Option Word :=
  match direction with
  | .exactIn => some (Slippage.minOut quote.amountOut bps)
  | .exactOut => Slippage.maxIn? quote.amountIn bps

def arguments (quote : Quote) (terms : SwapTerms) (bound : Word) : Arguments :=
  { direction := terms.direction
    fixed := fixedAmount quote terms.direction
    bound := bound
    tokens := quote.path.tokens
    recipient := terms.recipient
    deadline := BitVec.ofNat 256 terms.deadline.toNat }

def context (platform : Platform) (quote : Quote) (terms : SwapTerms) (bound : Word) : Json :=
  .ofMembers
    [("platform", .string platform.name),
     ("path", .strings (quote.path.tokens.map Address.text)),
     ("pools", .strings (quote.path.hops.map fun hop => hop.pool.text)),
     ("amountIn", .string quote.amountIn.decimal),
     ("amountOut", .string quote.amountOut.decimal),
     ("bound", .string bound.decimal),
     ("reverse", .bool (terms.direction == .exactOut)),
     ("deadline", .nat terms.deadline.toNat),
     ("quoteBlock", .nat quote.block.toNat)]

/-- The call on `router`; none when the bound cannot be computed. -/
def build? (platform : Platform) (router : Address) (quote : Quote) (terms : SwapTerms) :
    Option PreparedCall :=
  (bound? quote terms.direction terms.slippageBps).map fun bound =>
    { target := router
      calldata := (arguments quote terms bound).encode
      func := func terms.direction
      context := context platform quote terms bound }

end SwapCall

end SwapDesk
