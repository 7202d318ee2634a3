import Mathlib.Data.List.Induction
import Pager.Decimal.Notation
import Pager.Text.Digits

namespace Pager.Text

/-- The digits of a number, with zeros in front or none, behind a plus sign or none. -/
def WritesNat (s : List Char) (n : Nat) : Prop :=
  ∃ sign zeros, (sign = [] ∨ sign = ['+']) ∧
    s = sign ++ (List.replicate zeros '0' ++ Decimal.natText n)

theorem decimalValue_eq (digits : List Char) : decimalValue digits = Nat.ofDigitChars 10 digits 0 := by
  have step : (fun n c => n * 10 + digitOf c) = fun n c => 10 * n + (c.toNat - '0'.toNat) := by
    funext n c
    rw [Nat.mul_comm]
    rfl
  rw [decimalValue, step, Nat.ofDigitChars_eq_foldl]

theorem decimalValue_natText (zeros n : Nat) :
    decimalValue (List.replicate zeros '0' ++ Decimal.natText n) = n := by
  rw [decimalValue_eq, Nat.ofDigitChars_append, Nat.ofDigitChars_replicate_zero, Nat.mul_zero,
    Decimal.natText, Nat.ofDigitChars_ten_toDigits]

theorem digitOf_lt {c : Char} (digit : c.isDigit = true) : digitOf c < 10 := by
  simp only [Char.isDigit, Bool.and_eq_true, decide_eq_true_eq, UInt32.le_iff_toNat_le] at digit
  have upper : c.toNat ≤ 57 := digit.2
  rw [digitOf]
  omega

theorem digitChar_digitOf {c : Char} (digit : c.isDigit = true) : (digitOf c).digitChar = c := by
  have small := digitOf_lt digit
  simp only [Char.isDigit, Bool.and_eq_true, decide_eq_true_eq, UInt32.le_iff_toNat_le] at digit
  have lower : 48 ≤ c.toNat := digit.1
  apply Char.toNat_inj.mp
  rw [Nat.toNat_digitChar_of_lt_ten small, digitOf]
  omega

theorem natText_digitOf {c : Char} (digit : c.isDigit = true) : Decimal.natText (digitOf c) = [c] := by
  rw [Decimal.natText, Nat.toDigits_of_lt_base (digitOf_lt digit), digitChar_digitOf digit]

theorem decimalValue_concat (digits : List Char) (c : Char) :
    decimalValue (digits ++ [c]) = 10 * decimalValue digits + digitOf c := by
  simp [decimalValue, Nat.mul_comm]

/-- Any digits are those of their value, with zeros in front. -/
theorem exists_zeros_natText {digits : List Char} (given : digits ≠ [])
    (are : ∀ c ∈ digits, c.isDigit = true) :
    ∃ zeros, digits = List.replicate zeros '0' ++ Decimal.natText (decimalValue digits) := by
  induction digits using List.reverseRecOn with
  | nil => exact absurd rfl given
  | append_singleton front c ih =>
    obtain ⟨fronts, last⟩ := List.forall_mem_append.mp are
    have digit := last c (List.mem_singleton_self c)
    rw [decimalValue_concat]
    by_cases first : front = []
    · subst first
      refine ⟨0, ?_⟩
      have value : 10 * decimalValue [] + digitOf c = digitOf c := Nat.zero_add _
      rw [value, natText_digitOf digit, List.replicate_zero]
    · obtain ⟨zeros, same⟩ := ih first fronts
      rcases Nat.eq_zero_or_pos (decimalValue front) with zero | positive
      · have blank : front = List.replicate (zeros + 1) '0' := by
          rw [same, zero, List.replicate_succ']
          rfl
        refine ⟨zeros + 1, ?_⟩
        rw [zero, Nat.mul_zero, Nat.zero_add, natText_digitOf digit, blank]
      · refine ⟨zeros, ?_⟩
        have grown : Decimal.natText (decimalValue front) ++ Decimal.natText (digitOf c) =
            Decimal.natText (10 * decimalValue front + digitOf c) :=
          Nat.toDigits_append_toDigits (by decide) positive (digitOf_lt digit)
        rw [← grown, natText_digitOf digit, ← List.append_assoc, ← same]

theorem isDigit_natText (n : Nat) : ∀ c ∈ Decimal.natText n, c.isDigit = true :=
  fun _ member => Nat.isDigit_of_mem_toDigits (by decide) (by decide) member

theorem WritesNat.sign_or_digit {s : List Char} {n : Nat} (writes : WritesNat s n) {c : Char}
    (member : c ∈ s) : c = '+' ∨ c.isDigit = true := by
  obtain ⟨sign, zeros, signed, rfl⟩ := writes
  rw [List.mem_append, List.mem_append] at member
  rcases member with front | zero | digit
  · rcases signed with rfl | rfl
    · cases front
    · exact .inl (List.mem_singleton.mp front)
  · rw [List.eq_of_mem_replicate zero]
    exact .inr (by decide)
  · exact .inr (isDigit_natText n c digit)

/-- What stands behind a plus sign, or the whole text. -/
def unsigned : List Char → List Char
  | '+' :: rest => rest
  | all => all

theorem exists_sign (s : List Char) : ∃ sign, (sign = [] ∨ sign = ['+']) ∧ s = sign ++ unsigned s := by
  unfold unsigned
  split
  · exact ⟨['+'], .inr rfl, rfl⟩
  · exact ⟨[], .inl rfl, rfl⟩

theorem unsigned_append {sign digits : List Char} (signed : sign = [] ∨ sign = ['+'])
    (are : ∀ c ∈ digits, c.isDigit = true) : unsigned (sign ++ digits) = digits := by
  rcases signed with rfl | rfl
  · rw [List.nil_append]
    unfold unsigned
    split
    · exact absurd (are '+' List.mem_cons_self) (by decide)
    · rfl
  · rfl

theorem natBelow?_of_unsigned {limit n : Nat} {s : List Char} :
    natBelow? limit s = some n ↔
      (unsigned s ≠ [] ∧ ∀ c ∈ unsigned s, c.isDigit = true) ∧
      decimalValue (unsigned s) < limit ∧ decimalValue (unsigned s) = n := by
  have same : natBelow? limit s =
      if (unsigned s).isEmpty || !(unsigned s).all Char.isDigit then none
      else if decimalValue (unsigned s) < limit then some (decimalValue (unsigned s)) else none := rfl
  have sound : ¬ ((unsigned s).isEmpty || !(unsigned s).all Char.isDigit) = true ↔
      unsigned s ≠ [] ∧ ∀ c ∈ unsigned s, c.isDigit = true := by
    simp [List.isEmpty_iff]
  rw [same, Option.ite_none_left_eq_some, Option.ite_none_right_eq_some, Option.some_inj, sound]

/-- A text is read as a number exactly if it is written so and the number is below the limit. -/
theorem natBelow?_eq_some_iff {limit n : Nat} {s : List Char} :
    natBelow? limit s = some n ↔ WritesNat s n ∧ n < limit := by
  rw [natBelow?_of_unsigned]
  constructor
  · rintro ⟨⟨given, are⟩, below, rfl⟩
    obtain ⟨sign, signed, same⟩ := exists_sign s
    obtain ⟨zeros, digits⟩ := exists_zeros_natText given are
    exact ⟨⟨sign, zeros, signed, by rw [← digits, ← same]⟩, below⟩
  · rintro ⟨⟨sign, zeros, signed, rfl⟩, below⟩
    have are : ∀ c ∈ List.replicate zeros '0' ++ Decimal.natText n, c.isDigit = true :=
      List.forall_mem_append.mpr
        ⟨fun c member => List.eq_of_mem_replicate member ▸ rfl, isDigit_natText n⟩
    rw [unsigned_append signed are, decimalValue_natText]
    exact ⟨⟨List.append_ne_nil_of_right_ne_nil _ Nat.toDigits_ne_nil, are⟩, below, rfl⟩

end Pager.Text
