import Pager.Proofs.Text.Bytes
import Pager.Url.Percent

namespace Pager

namespace Url

open Text (toBytes)

theorem digitIn?_upperHexDigit {n : Nat} (digit : n < 16) :
    Text.digitIn? 16 (upperHexDigit n) = some n := by
  revert n
  decide

theorem digitsIn?_percentByte (b : UInt8) :
    Text.digitsIn? 16 [upperHexDigit (b.toNat / 16), upperHexDigit (b.toNat % 16)] =
      some b.toNat := by
  have byte := b.toNat_lt
  have high : b.toNat / 16 < 16 := by omega
  have low : b.toNat % 16 < 16 := by omega
  have whole : b.toNat / 16 * 16 + b.toNat % 16 = b.toNat := by omega
  simp [Text.digitsIn?, digitIn?_upperHexDigit high, digitIn?_upperHexDigit low, whole]

theorem decodeBytes_percentByte (b : UInt8) (rest : List Char) :
    decodeBytes (percentByte b ++ rest) = b :: decodeBytes rest := by
  simp [percentByte, decodeBytes, digitsIn?_percentByte]

theorem decodeBytes_percentBytes (bytes : Text.Bytes) (rest : List Char) :
    decodeBytes (bytes.flatMap percentByte ++ rest) = bytes ++ decodeBytes rest := by
  induction bytes with
  | nil => rfl
  | cons b bytes ih =>
    rw [List.flatMap_cons, List.append_assoc, decodeBytes_percentByte, ih, List.cons_append]

theorem decodeBytes_cons {c : Char} (plain : c ≠ '%') (rest : List Char) :
    decodeBytes (c :: rest) = toBytes (String.singleton c) ++ decodeBytes rest := by
  rw [decodeBytes]
  exact fun _ _ _ same => absurd same plain

/-- Decoding undoes encoding. -/
theorem decodeBytes_encode {reserved : Char → Bool} (percent : reserved '%' = true)
    (s : List Char) : decodeBytes (encode reserved s) = toBytes (String.ofList s) := by
  induction s with
  | nil => simp [encode, decodeBytes, Text.toBytes_eq]
  | cons c s ih =>
    have front : encode reserved (c :: s) =
        (if reserved c || 0x7f < c.toNat then percentChar c else [c]) ++ encode reserved s := rfl
    rw [front, Text.toBytes_cons, ← ih]
    split
    · exact decodeBytes_percentBytes _ _
    · rename_i open_
      refine decodeBytes_cons ?_ _
      rintro rfl
      simp [percent] at open_

/-- A mark that is encoded, or does not occur, is not in what is written. -/
theorem not_mem_encode {reserved : Char → Bool} {mark : Char} {s : List Char} (sign : mark ≠ '%')
    (digit : ∀ n < 16, upperHexDigit n ≠ mark) (free : reserved mark = true ∨ mark ∉ s) :
    mark ∉ encode reserved s := by
  intro member
  obtain ⟨c, source, written⟩ := List.mem_flatMap.mp member
  split at written
  · obtain ⟨b, _, inByte⟩ := List.mem_flatMap.mp written
    have byte := b.toNat_lt
    simp only [percentByte, List.mem_cons, List.not_mem_nil, or_false] at inByte
    rcases inByte with same | same | same
    · exact sign same
    · exact digit _ (by omega) same.symm
    · exact digit _ (by omega) same.symm
  · rename_i plain
    cases List.mem_singleton.mp written
    rcases free with encoded | absent
    · simp [encoded] at plain
    · exact absent source

end Url

end Pager
