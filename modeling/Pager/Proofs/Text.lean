import Pager.Text.Blank
import Pager.Text.Letters

namespace Pager.Text

/-- A character is cut off at the end if it is a blank with nothing but blanks behind it. -/
theorem trimRight_cons (c : Char) (s : List Char) :
    trimRight (c :: s) = if isBlank c = true ∧ trimRight s = [] then [] else c :: trimRight s := by
  rw [trimRight, List.reverse_cons, List.dropWhile_append]
  by_cases blanks : s.reverse.dropWhile isBlank = []
  · cases blank : isBlank c <;> simp [trimRight, blanks, blank]
  · simp [trimRight, blanks]

theorem trimRight_cons_of_not_blank {c : Char} (s : List Char) (dark : isBlank c = false) :
    trimRight (c :: s) = c :: trimRight s := by
  simp [trimRight_cons, dark]

theorem trimRight_trimRight (s : List Char) : trimRight (trimRight s) = trimRight s := by
  induction s with
  | nil => rfl
  | cons c s ih =>
    rw [trimRight_cons]
    split
    · rfl
    · next dark => rw [trimRight_cons, ih, if_neg dark]

/-- Blanks cut off at the end already are not missed when the text is trimmed. -/
theorem trimRight_trimLeft_trimRight (s : List Char) :
    trimRight (trimLeft (trimRight s)) = trimRight (trimLeft s) := by
  induction s with
  | nil => rfl
  | cons c s ih =>
    cases blank : isBlank c with
    | false =>
      rw [trimRight_cons_of_not_blank s blank, trimLeft_cons_of_not_blank blank,
        trimLeft_cons_of_not_blank blank, trimRight_cons_of_not_blank _ blank,
        trimRight_cons_of_not_blank _ blank, trimRight_trimRight]
    | true =>
      rw [trimLeft_cons_of_blank blank, ← ih, trimRight_cons]
      split
      · next both => rw [both.2]
      · rw [trimLeft_cons_of_blank blank]

theorem trim_cons_of_not_blank {c : Char} (s : List Char) (dark : isBlank c = false) :
    trim (String.ofList (c :: s)) = String.ofList (c :: trimRight s) := by
  rw [trim, String.toList_ofList, trimLeft_cons_of_not_blank dark,
    trimRight_cons_of_not_blank s dark]

theorem trim_trimRight (s : String) : trim (String.ofList (trimRight s.toList)) = trim s := by
  rw [trim, trim, String.toList_ofList, trimRight_trimLeft_trimRight]

theorem trim_sublist (s : String) : (trim s).toList.Sublist s.toList := by
  rw [trim, String.toList_ofList]
  have right : (trimRight (trimLeft s.toList)).Sublist (trimLeft s.toList) := by
    have reversed := List.dropWhile_sublist isBlank (l := (trimLeft s.toList).reverse)
    simpa [trimRight] using reversed.reverse
  exact right.trans (List.dropWhile_sublist _)

/-- A text that is not made shorter is trimmed already. -/
theorem trim_eq_of_length {s : String} (long : s.toList.length ≤ (trim s).toList.length) :
    trim s = s :=
  String.toList_inj.mp ((trim_sublist s).eq_of_length_le long)

theorem length_of_sameName {a b : String} (same : sameName a b = true) :
    a.toList.length = b.toList.length := by
  have lowered := congrArg (fun s => s.toList.length) (sameName_iff.mp same)
  simpa [lowerAscii] using lowered

end Pager.Text
