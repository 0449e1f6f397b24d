import SwapDesk.Abi.Decode
import SwapDesk.Chain.BatchRead
import SwapDesk.Json.Value
import SwapDesk.Pool.Basic

namespace SwapDesk

inductive Direction where
  | exactIn
  | exactOut
deriving DecidableEq, Inhabited

def Direction.ofReverse (reverse : Bool) : Direction :=
  if reverse then .exactOut else .exactIn

/-- A priced path. Both amounts are base units read at `block`. -/
structure Quote where
  path : TradePath
  amountIn : Word
  amountOut : Word
  block : UInt64
deriving DecidableEq

namespace QuoteCall

/-- `getAmountsOut(uint256,address[])` or `getAmountsIn(uint256,address[])` -/
def selector : Direction → Bytes
  | .exactIn => [0xd0, 0x6c, 0xa6, 0x1f]
  | .exactOut => [0x1f, 0x00, 0xca, 0x74]

def encode (direction : Direction) (amount : Word) (tokens : List Address) : Bytes :=
  selector direction ++
    (amount.toBytes ++ (Abi.word 64 ++ Abi.wordArray (tokens.map Address.toWord)))

def decodeWith? (direction : Direction) (calldata : Bytes) :
    Option (Direction × Word × List Address) :=
  if calldata.take 4 = selector direction then do
    let args := calldata.drop 4
    let amount ← Abi.readWord? args
    let body ← Abi.follow? args (args.drop 32)
    let tokens ← Abi.readWordArray? body
    return (direction, amount, tokens.map Address.ofWord)
  else none

def decode? (calldata : Bytes) : Option (Direction × Word × List Address) :=
  (decodeWith? .exactIn calldata).or (decodeWith? .exactOut calldata)

def ofPath (path : TradePath) (amount : Word) (direction : Direction) : Bytes :=
  encode direction amount path.tokens

end QuoteCall

def encodeAmounts (amounts : List Word) : Bytes :=
  Abi.single (Abi.wordArray amounts)

def decodeAmounts? (data : Bytes) : Option (List Word) :=
  Abi.readSingle? Abi.readWordArray? data

inductive QuoteFault where
  | undecodable
  | incomparable (platform : Platform) (amounts tokens : Nat)
deriving DecidableEq

def QuoteFault.message : QuoteFault → String
  | undecodable => unstated
  | incomparable platform amounts tokens =>
      platform.name ++ " router returned " ++ Text.decimal amounts ++ " amounts for a " ++
        Text.decimal tokens ++ "-token path"

/-- The first and the last amount, provided there is one for each token of the path. -/
def endAmounts (platform : Platform) (path : TradePath) (data : Bytes) :
    Except QuoteFault (Word × Word) :=
  match decodeAmounts? data with
  | none => .error .undecodable
  | some amounts =>
      if amounts.length = path.length + 1 then
        .ok (amounts.headD 0, amounts.getLastD 0)
      else .error (.incomparable platform amounts.length (path.length + 1))

end SwapDesk
