import SwapDesk.Word
import SwapDesk.Text.Blank

namespace SwapDesk

inductive Platform where
  | pancake
  | apeswap
  | biswap
deriving DecidableEq, Inhabited

namespace Platform

def byPriority : List Platform :=
  [.pancake, .apeswap, .biswap]

def name : Platform → String
  | .pancake => "pancake"
  | .apeswap => "apeswap"
  | .biswap => "biswap"

def priority : Platform → Nat
  | .pancake => 0
  | .apeswap => 1
  | .biswap => 2

theorem mem_byPriority (p : Platform) : p ∈ byPriority := by
  cases p <;> simp [byPriority]

theorem priority_injective {p q : Platform} (h : p.priority = q.priority) : p = q := by
  cases p <;> cases q <;> simp_all [priority]

def ofName? (s : String) : Option Platform :=
  byPriority.find? fun p => p.name == s

/-- Aliases are folded once blanks and letter case are out of the way. -/
def alias? (s : String) : Option Platform :=
  if s == "pancake" || s == "pancakeswap" then some .pancake
  else if s == "apeswap" || s == "ape" then some .apeswap
  else if s == "biswap" then some .biswap
  else none

def normalize (s : String) : String :=
  Text.lowerAscii (Text.trim s)

/-- A platform as a person writes it; otherwise the text that was not understood. -/
def ofText (s : String) : Except String Platform :=
  match alias? (normalize s) with
  | some p => .ok p
  | none => .error (normalize s)

end Platform

def homeChain : UInt64 := 56

/-- The batching contract has one address on every chain. -/
def batchContract : Address :=
  .ofNat 0xca11bde05977b3631167028862be2a173976ca11

structure Routers where
  pancake : Option Address := none
  apeswap : Option Address := none
  biswap : Option Address := none
deriving DecidableEq, Inhabited

namespace Routers

def get? (r : Routers) : Platform → Option Address
  | .pancake => r.pancake
  | .apeswap => r.apeswap
  | .biswap => r.biswap

def insert (r : Routers) (p : Platform) (a : Address) : Routers :=
  match p with
  | .pancake => { r with pancake := some a }
  | .apeswap => { r with apeswap := some a }
  | .biswap => { r with biswap := some a }

@[simp] theorem get?_insert (r : Routers) (p q : Platform) (a : Address) :
    (r.insert p a).get? q = if q = p then some a else r.get? q := by
  cases p <;> cases q <;> rfl

theorem ext_get? {r s : Routers} (h : ∀ p, r.get? p = s.get? p) : r = s := by
  cases r; cases s
  have a := h .pancake; have b := h .apeswap; have c := h .biswap
  simp only [get?] at a b c
  simp [a, b, c]

def ofList (entries : List (Platform × Address)) : Routers :=
  entries.foldl (fun r e => r.insert e.1 e.2) {}

def platforms (r : Routers) : List Platform :=
  Platform.byPriority.filter fun p => (r.get? p).isSome

def isEmpty (r : Routers) : Bool :=
  r.platforms.isEmpty

theorem mem_platforms {r : Routers} {p : Platform} :
    p ∈ r.platforms ↔ (r.get? p).isSome = true := by
  simp [platforms, Platform.mem_byPriority]

def builtIn (chain : UInt64) : Routers :=
  if chain = homeChain then
    { pancake := some (.ofNat 0x10ed43c718714eb63d5aa57b78b54704e256024e)
      apeswap := some (.ofNat 0xcf0febd3f17cef5b47b0cd257acf6025c5bff3b7)
      biswap := some (.ofNat 0x3a6d8ca21d1cf76f653a67577fa0d27453350dd8) }
  else {}

end Routers

end SwapDesk
