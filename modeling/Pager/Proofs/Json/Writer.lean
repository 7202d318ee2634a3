import Pager.Json.Writer

namespace Pager

/-- No character of a text is below the blank, as the control characters are. -/
def Text.ControlFree (s : List Char) : Prop :=
  ∀ c ∈ s, 32 ≤ c.toNat

namespace Text

variable {s t : List Char} {c : Char}

@[simp] theorem controlFree_nil : ControlFree [] := nofun

@[simp] theorem controlFree_cons : ControlFree (c :: s) ↔ 32 ≤ c.toNat ∧ ControlFree s :=
  List.forall_mem_cons

@[simp] theorem controlFree_append : ControlFree (s ++ t) ↔ ControlFree s ∧ ControlFree t :=
  List.forall_mem_append

theorem ControlFree.take (free : ControlFree s) (n : Nat) : ControlFree (s.take n) :=
  fun c member => free c (List.mem_of_mem_take member)

theorem ControlFree.drop (free : ControlFree s) (n : Nat) : ControlFree (s.drop n) :=
  fun c member => free c (List.mem_of_mem_drop member)

theorem controlFree_replicate (n : Nat) (dark : 32 ≤ c.toNat) : ControlFree (List.replicate n c) :=
  fun _ member => (List.mem_replicate.mp member).2 ▸ dark

end Text

open Text (ControlFree controlFree_replicate)

namespace Decimal

theorem controlFree_natText (n : Nat) : ControlFree (natText n) := by
  intro c member
  have digit : c.isDigit = true := Nat.isDigit_of_mem_toDigits (by decide) (by decide) member
  have lower : 48 ≤ c.toNat := by
    simp only [Char.isDigit, Bool.and_eq_true, decide_eq_true_eq] at digit
    exact UInt32.le_iff_toNat_le.mp digit.1
  omega

theorem natText_ne_nil (n : Nat) : natText n ≠ [] :=
  Nat.toDigits_ne_nil

theorem controlFree_intText (i : Int) : ControlFree (intText i) := by
  rw [intText]
  split
  · simp [controlFree_natText]
  · exact controlFree_natText _

theorem intText_ne_nil (i : Int) : intText i ≠ [] := by
  rw [intText]
  split
  · exact List.cons_ne_nil _ _
  · exact natText_ne_nil _

theorem controlFree_plain {digits : List Char} (free : ControlFree digits) (whole : Int) :
    ControlFree (plain digits whole) := by
  rw [plain]
  split
  · simp [free, controlFree_replicate]
  · simp only [Text.controlFree_append, Text.controlFree_cons]
    refine ⟨⟨free.take _, controlFree_replicate _ (by decide)⟩, by decide, ?_⟩
    split
    · simp
    · exact free.drop _

theorem controlFree_scientific {digits : List Char} (free : ControlFree digits) (power : Int) :
    ControlFree (scientific digits power) := by
  have sign : 32 ≤ (if power < 0 then '-' else '+').toNat := by
    split <;> decide
  simp only [scientific, Text.controlFree_append, Text.controlFree_cons]
  refine ⟨?_, by decide, sign, controlFree_natText _⟩
  split
  · simp
  · exact free
  · simpa using free

theorem controlFree_doubleText (x : Double) : ControlFree (doubleText x) := by
  have sign : ControlFree (if x.negative then ['-'] else []) := by
    split <;> simp
  rw [doubleText]
  split
  · simp [sign]
  · refine Text.controlFree_append.mpr ⟨sign, ?_⟩
    split
    · exact controlFree_plain (controlFree_natText _) _
    · exact controlFree_scientific (controlFree_natText _) _

theorem doubleText_ne_nil (x : Double) : doubleText x ≠ [] := by
  rw [doubleText]
  split
  · exact List.append_ne_nil_of_right_ne_nil _ (List.cons_ne_nil _ _)
  · refine List.append_ne_nil_of_right_ne_nil _ ?_
    split
    · rw [plain]
      split
      · exact List.cons_ne_nil _ _
      · exact List.append_ne_nil_of_right_ne_nil _ (List.cons_ne_nil _ _)
    · exact List.append_ne_nil_of_right_ne_nil _ (List.cons_ne_nil _ _)

end Decimal

namespace Json

theorem controlFree_hexDigit {n : Nat} (digit : n < 16) : 32 ≤ (hexDigit n).toNat := by
  revert n
  decide

theorem controlFree_escape (c : Char) : ControlFree (escape c) := by
  rw [escape]
  -- the short escapes come first, then the long one, and last the character itself
  iterate 7
    split
    · simp
  split
  · next low =>
    have high : c.toNat / 16 < 16 := by omega
    simp [unicodeEscape, controlFree_hexDigit high, controlFree_hexDigit (Nat.mod_lt _ (by decide))]
  · next high => simpa using high

theorem controlFree_quoted (s : String) : ControlFree (quoted s) := by
  have inside : ControlFree (s.toList.flatMap escape) := by
    intro c member
    obtain ⟨d, _, written⟩ := List.mem_flatMap.mp member
    exact controlFree_escape d c written
  simp [quoted, inside]

theorem controlFree_numberText (n : Number) : ControlFree (numberText n) := by
  cases n with
  | whole i => exact Decimal.controlFree_intText i
  | double x => exact Decimal.controlFree_doubleText x

theorem controlFree_boolText (b : Bool) : ControlFree (boolText b) := by
  cases b <;> simp [boolText]

mutual

/-- By recursion on the value: each kind is put together of marks and of texts without control
characters. -/
theorem controlFree_compact (v : Json) : ControlFree v.compact := by
  cases v with
  | null => simp [compact]
  | bool b => simp [compact, controlFree_boolText]
  | number n => simp [compact, controlFree_numberText]
  | text s => simp [compact, controlFree_quoted]
  | list items => simp [compact, controlFree_compactItems items]
  | object fields => simp [compact, controlFree_compactFields fields]

theorem controlFree_compactItems (items : List Json) : ControlFree (compactItems items) := by
  match items with
  | [] => simp [compactItems]
  | [v] => simp [compactItems, controlFree_compact v]
  | v :: w :: vs => simp [compactItems, controlFree_compact v, controlFree_compactItems (w :: vs)]

theorem controlFree_compactFields (fields : List (String × Json)) :
    ControlFree (compactFields fields) := by
  match fields with
  | [] => simp [compactFields]
  | [(k, v)] => simp [compactFields, controlFree_quoted, controlFree_compact v]
  | (k, v) :: field :: fields =>
    simp [compactFields, controlFree_quoted, controlFree_compact v,
      controlFree_compactFields (field :: fields)]

end

theorem compact_ne_nil (v : Json) : v.compact ≠ [] := by
  cases v with
  | null | text | list | object => simp [compact, quoted]
  | bool b => cases b <;> simp [compact, boolText]
  | number n =>
    cases n with
    | whole i => exact Decimal.intText_ne_nil i
    | double x => exact Decimal.doubleText_ne_nil x

theorem indented_ne_nil (v : Json) (depth : Nat) : v.indented depth ≠ [] := by
  cases v with
  | list items => cases items <;> simp [indented]
  | object fields => cases fields <;> simp [indented]
  | null => simp [indented]
  | bool b => exact compact_ne_nil (.bool b)
  | number n => exact compact_ne_nil (.number n)
  | text s => exact compact_ne_nil (.text s)

theorem compactItems_eq (items : List Json) :
    compactItems items = [','].intercalate (items.map compact) := by
  induction items with
  | nil => rfl
  | cons v rest ih =>
    cases rest with
    | nil => simp [compactItems]
    | cons w vs =>
      simp only [compactItems, ih, List.map_cons, List.intercalate_cons_cons, List.append_assoc,
        List.singleton_append]

theorem compactFields_eq (fields : List (String × Json)) :
    compactFields fields =
      [','].intercalate (fields.map fun field => quoted field.1 ++ ':' :: field.2.compact) := by
  induction fields with
  | nil => rfl
  | cons field rest ih =>
    cases rest with
    | nil => simp [compactFields]
    | cons other fields =>
      simp only [compactFields, ih, List.map_cons, List.intercalate_cons_cons, List.append_assoc,
        List.cons_append, List.nil_append]

/-- A whole number is its digits in base ten, behind a minus sign if it is negative. -/
theorem toText_whole (i : Int) : (Json.number (.whole i)).toText = toString i := by
  rw [toText, compact, numberText, Decimal.intText, Int.toString_eq_repr, Int.repr_eq_if]
  by_cases negative : i < 0
  · have size : i.natAbs = (-i).toNat := by omega
    rw [if_pos negative, if_neg (Int.not_le.mpr negative), size, Nat.repr_eq_ofList_toDigits,
      ← List.singleton_append, String.ofList_append]
    rfl
  · have size : i.natAbs = i.toNat := by omega
    rw [if_neg negative, if_pos (Int.not_lt.mp negative), size, Nat.repr_eq_ofList_toDigits]
    rfl

/-- A list on one line is its items between brackets, with commas between them. -/
theorem toText_list (items : List Json) :
    (Json.list items).toText = "[" ++ ",".intercalate (items.map toText) ++ "]" := by
  refine String.toList_inj.mp ?_
  simp [toText, compact, compactItems_eq, String.toList_intercalate, Function.comp_def]

/-- An object on one line is its fields between braces, each a quoted name, a colon and the value. -/
theorem toText_object (fields : List (String × Json)) :
    (Json.object fields).toText = "\x7b" ++ ",".intercalate (fields.map fun field =>
      (Json.text field.1).toText ++ ":" ++ field.2.toText) ++ "\x7d" := by
  refine String.toList_inj.mp ?_
  simp [toText, compact, compactFields_eq, String.toList_intercalate, Function.comp_def]

end Json

end Pager
