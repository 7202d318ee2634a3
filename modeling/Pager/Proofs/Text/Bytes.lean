import Pager.Text.Bytes

namespace Pager

namespace Text

theorem toList_loop (bytes : ByteArray) (i : Nat) (done : List UInt8) :
    ByteArray.toList.loop bytes i done = done.reverse ++ bytes.data.toList.drop i := by
  fun_induction ByteArray.toList.loop bytes i done with
  | case1 i done within ih =>
    have bound : i < bytes.data.toList.length := by simpa using within
    have byte : bytes.get! i = bytes.data.toList[i] := by
      have found : bytes.get! i = bytes.data[i]! := by
        cases bytes
        rfl
      rw [found, getElem!_pos bytes.data i (by simpa using within), Array.getElem_toList]
    rw [ih, List.drop_eq_getElem_cons bound, byte]
    simp
  | case2 i done beyond =>
    have bound : bytes.data.toList.length ≤ i := by simpa using beyond
    rw [List.drop_eq_nil_of_le bound, List.append_nil]

theorem toBytes_eq (s : String) : toBytes s = s.toByteArray.data.toList := by
  rw [toBytes, String.toUTF8, ByteArray.toList, toList_loop]
  rfl

theorem toBytes_append (s t : String) : toBytes (s ++ t) = toBytes s ++ toBytes t := by
  simp only [toBytes_eq, String.toByteArray_append, ByteArray.toList_data_append]

theorem toBytes_cons (c : Char) (s : List Char) :
    toBytes (String.ofList (c :: s)) = toBytes (String.singleton c) ++ toBytes (String.ofList s) := by
  rw [← toBytes_append]
  congr 1
  simp

theorem toBytes_injective {s t : String} (same : toBytes s = toBytes t) : s = t := by
  rw [toBytes_eq, toBytes_eq, Array.toList_inj] at same
  exact String.toByteArray_inj.mp (ByteArray.ext same)

theorem toBytes_ne_nil {s : List Char} (filled : s ≠ []) : toBytes (String.ofList s) ≠ [] := by
  intro nothing
  have empty : toBytes "" = [] := by rw [toBytes_eq]; rfl
  exact filled (String.ofList_inj.mp (toBytes_injective (nothing.trans empty.symm)))

theorem toBytes_eq_flatMap (s : String) : toBytes s = s.toList.flatMap String.utf8EncodeChar := by
  rw [← String.ofList_toList (s := s), String.toList_ofList, toBytes_eq, String.toByteArray_ofList,
    List.utf8Encode, List.data_toByteArray]

/-- The bytes of a character of several bytes are all beyond those of the others. -/
theorem toNat_of_mem_utf8EncodeChar {c : Char} {b : UInt8} (low : b.toNat < 128)
    (member : b ∈ String.utf8EncodeChar c) : c.toNat = b.toNat := by
  have others (n : Nat) (high : 128 ≤ n) (byte : n < 256) : b ≠ UInt8.ofNat n := by
    rintro rfl
    rw [UInt8.toNat_ofNat_of_lt' byte] at low
    omega
  rw [String.utf8EncodeChar] at member
  split at member
  · next single =>
    cases List.mem_singleton.mp member
    exact (UInt8.toNat_ofNat_of_lt' (Nat.lt_of_le_of_lt single (by decide))).symm
  · refine absurd member ?_
    -- two, three or four bytes
    repeat' split
    all_goals
      simp (disch := omega) only [List.mem_cons, List.not_mem_nil, others, or_self, not_false_iff]

/-- A byte below 128 in the bytes of a text is that of a character of the text. -/
theorem exists_char_of_mem_toBytes {s : String} {b : UInt8} (low : b.toNat < 128)
    (member : b ∈ toBytes s) : ∃ c ∈ s.toList, c.toNat = b.toNat := by
  rw [toBytes_eq_flatMap] at member
  obtain ⟨c, there, inside⟩ := List.mem_flatMap.mp member
  exact ⟨c, there, toNat_of_mem_utf8EncodeChar low inside⟩

end Text

end Pager
