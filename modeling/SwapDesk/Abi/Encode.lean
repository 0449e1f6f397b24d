import SwapDesk.Word

namespace SwapDesk.Abi

def word (n : Nat) : Bytes :=
  Bytes.bigEndian 32 n

@[simp] theorem length_word (n : Nat) : (word n).length = 32 :=
  Bytes.length_bigEndian _ _

def words (ws : List Word) : Bytes :=
  ws.flatMap Word.toBytes

@[simp] theorem words_cons (w : Word) (ws : List Word) :
    words (w :: ws) = w.toBytes ++ words ws := rfl

@[simp] theorem length_words (ws : List Word) : (words ws).length = 32 * ws.length := by
  induction ws with
  | nil => rfl
  | cons w ws ih => simp [ih]; omega

def padding (n : Nat) : Bytes :=
  List.replicate ((32 - n % 32) % 32) 0

def bytes (b : Bytes) : Bytes :=
  word b.length ++ (b ++ padding b.length)

def wordArray (ws : List Word) : Bytes :=
  word ws.length ++ words ws

def offsets (start : Nat) : List Bytes → Bytes
  | [] => []
  | part :: parts => word start ++ offsets (start + part.length) parts

@[simp] theorem length_offsets (start : Nat) (parts : List Bytes) :
    (offsets start parts).length = 32 * parts.length := by
  induction parts generalizing start with
  | nil => rfl
  | cons part parts ih => simp [offsets, ih]; omega

/-- Dynamic parts behind their count and their offsets, which count from after the count. -/
def array (parts : List Bytes) : Bytes :=
  word parts.length ++ (offsets (32 * parts.length) parts ++ parts.flatten)

def single (body : Bytes) : Bytes :=
  word 32 ++ body

end SwapDesk.Abi
