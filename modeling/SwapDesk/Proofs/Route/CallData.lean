import SwapDesk.Proofs.Abi.ReadBack
import SwapDesk.Route.SwapCall

namespace SwapDesk

theorem TradePath.length_tokens_lt (path : TradePath) : path.tokens.length < 2 ^ 64 := by
  have short := path.length_le_two
  rw [path.length_tokens]
  omega

theorem Address.map_ofWord_map_toWord (tokens : List Address) :
    (tokens.map Address.toWord).map Address.ofWord = tokens := by
  rw [List.map_map]
  exact List.map_id'' ofWord_toWord tokens

namespace QuoteCall

theorem decodeWith?_encode (direction : Direction) (amount : Word) {tokens : List Address}
    (few : tokens.length < 2 ^ 64) :
    decodeWith? direction (encode direction amount tokens) =
      some (direction, amount, tokens) := by
  have front : (selector direction).length = 4 := by cases direction <;> rfl
  have fewWords : (tokens.map Address.toWord).length < 2 ^ 64 := by
    rw [List.length_map]
    exact few
  have body := Abi.readWordArray?_wordArray fewWords []
  have offset : Abi.follow?
      (amount.toBytes ++ (Abi.word 64 ++ Abi.wordArray (tokens.map Address.toWord)))
      (Abi.word 64 ++ Abi.wordArray (tokens.map Address.toWord)) =
        some (Abi.wordArray (tokens.map Address.toWord)) := by
    rw [← List.append_assoc]
    exact Abi.follow?_word (by simp) (by omega)
  rw [List.append_nil] at body
  simp only [decodeWith?, encode, Abi.take_of_length front, Abi.drop_of_length front, if_true,
    Abi.readWord?_toBytes, Abi.drop_toBytes, offset, body, Option.bind_eq_bind, Option.bind_some,
    Address.map_ofWord_map_toWord]
  rfl

theorem decode?_encode (direction : Direction) (amount : Word) {tokens : List Address}
    (few : tokens.length < 2 ^ 64) :
    decode? (encode direction amount tokens) = some (direction, amount, tokens) := by
  cases direction with
  | exactIn => rw [decode?, decodeWith?_encode .exactIn amount few, Option.some_or]
  | exactOut =>
      have other : decodeWith? .exactIn (encode .exactOut amount tokens) = none := rfl
      rw [decode?, other, decodeWith?_encode .exactOut amount few, Option.none_or]

theorem length_ofPath_lt (path : TradePath) (amount : Word) (direction : Direction) :
    (ofPath path amount direction).length < 2 ^ 64 := by
  have short := path.length_le_two
  have front : (selector direction).length = 4 := by cases direction <;> rfl
  simp only [ofPath, encode, Abi.wordArray, List.length_append, front, Word.length_toBytes,
    Abi.length_word, Abi.length_words, List.length_map, path.length_tokens]
  omega

theorem decode?_ofPath (path : TradePath) (amount : Word) (direction : Direction) :
    decode? (ofPath path amount direction) = some (direction, amount, path.tokens) :=
  decode?_encode direction amount path.length_tokens_lt

end QuoteCall

namespace SwapCall.Arguments

theorem decodeWith?_encode (a : Arguments) (few : a.tokens.length < 2 ^ 64) :
    decodeWith? a.direction a.encode = some a := by
  have front : (selector a.direction).length = 4 := by cases a.direction <;> rfl
  have fewWords : (a.tokens.map Address.toWord).length < 2 ^ 64 := by
    rw [List.length_map]
    exact few
  let tail := Abi.wordArray (a.tokens.map Address.toWord)
  let args := a.fixed.toBytes ++ (a.bound.toBytes ++ (Abi.word 160 ++
    (a.recipient.toWord.toBytes ++ (a.deadline.toBytes ++ tail))))
  -- Every argument is read behind the words before it; only the offset counts from the front.
  have second : args.drop 32 = a.bound.toBytes ++ (Abi.word 160 ++
      (a.recipient.toWord.toBytes ++ (a.deadline.toBytes ++ tail))) := Abi.drop_toBytes _ _
  have third : args.drop 64 = Abi.word 160 ++
      (a.recipient.toWord.toBytes ++ (a.deadline.toBytes ++ tail)) := by
    rw [show (64 : Nat) = 32 + 32 from rfl, ← List.drop_drop, second, Abi.drop_toBytes]
  have fourth : args.drop 96 = a.recipient.toWord.toBytes ++ (a.deadline.toBytes ++ tail) := by
    rw [show (96 : Nat) = 64 + 32 from rfl, ← List.drop_drop, third, Abi.drop_word]
  have fifth : args.drop 128 = a.deadline.toBytes ++ tail := by
    rw [show (128 : Nat) = 96 + 32 from rfl, ← List.drop_drop, fourth, Abi.drop_toBytes]
  have offset : Abi.follow? args (args.drop 64) = some tail := by
    rw [third]
    have regrouped : args = (a.fixed.toBytes ++ (a.bound.toBytes ++ (Abi.word 160 ++
        (a.recipient.toWord.toBytes ++ a.deadline.toBytes)))) ++ tail := by
      simp only [args, List.append_assoc]
    rw [regrouped]
    exact Abi.follow?_word (by simp) (by omega)
  have body : Abi.readWordArray? tail = some (a.tokens.map Address.toWord) := by
    have read := Abi.readWordArray?_wordArray fewWords []
    rwa [List.append_nil] at read
  have calldata : a.encode = selector a.direction ++ args := rfl
  have first : Abi.readWord? args = some a.fixed := Abi.readWord?_toBytes _ _
  simp only [decodeWith?, calldata, Abi.take_of_length front, Abi.drop_of_length front, if_true,
    first, second, offset, fourth, fifth, Abi.readWord?_toBytes, body, Option.bind_eq_bind,
    Option.bind_some, Address.map_ofWord_map_toWord, Address.ofWord_toWord]
  rfl

theorem decode?_encode (a : Arguments) (few : a.tokens.length < 2 ^ 64) :
    decode? a.encode = some a := by
  have own := decodeWith?_encode a few
  cases direction : a.direction with
  | exactIn =>
      rw [direction] at own
      rw [decode?, own, Option.some_or]
  | exactOut =>
      rw [direction] at own
      have other : decodeWith? .exactIn a.encode = none := by
        simp only [decodeWith?, Arguments.encode, direction]
        rfl
      rw [decode?, other, own, Option.none_or]

end SwapCall.Arguments

namespace SwapCall

theorem build?_of_bound? (platform : Platform) (router : Address) {quote : Quote}
    {terms : SwapTerms} {bound : Word}
    (computed : bound? quote terms.direction terms.slippageBps = some bound) :
    ∃ call, build? platform router quote terms = some call ∧
      Arguments.decode? call.calldata = some (arguments quote terms bound) := by
  refine ⟨_, by rw [build?, computed, Option.map_some], ?_⟩
  exact Arguments.decode?_encode _ quote.path.length_tokens_lt

/-- The calldata of a swap says what the quote, the terms and the bound say. -/
theorem decode?_of_build? {platform : Platform} {router : Address} {quote : Quote}
    {terms : SwapTerms} {call : PreparedCall}
    (built : build? platform router quote terms = some call) :
    ∃ bound, bound? quote terms.direction terms.slippageBps = some bound ∧
      Arguments.decode? call.calldata = some (arguments quote terms bound) := by
  obtain ⟨bound, computed, rfl⟩ := Option.map_eq_some_iff.mp built
  exact ⟨bound, computed, Arguments.decode?_encode _ quote.path.length_tokens_lt⟩

end SwapCall

end SwapDesk
