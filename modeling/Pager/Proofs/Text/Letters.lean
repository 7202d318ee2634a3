import Mathlib.Data.List.Forall2
import Pager.Text.Letters
import Pager.Text.Pieces

namespace Pager.Text

theorem toNat_toLower (c : Char) :
    c.toLower.toNat = if 65 ≤ c.toNat ∧ c.toNat ≤ 90 then c.toNat + 32 else c.toNat := by
  unfold Char.toLower
  split
  · rename_i upper
    have bounds : 65 ≤ c.toNat ∧ c.toNat ≤ 90 := upper
    have sum : (c.val + 32).toNat = (c.toNat + 32) % 2 ^ 32 := UInt32.toNat_add _ _
    rw [if_pos bounds]
    change (c.val + 32).toNat = _
    omega
  · rename_i other
    have bounds : ¬ (65 ≤ c.toNat ∧ c.toNat ≤ 90) := other
    rw [if_neg bounds]

theorem of_toLower {c d : Char} (lower : c.toLower = d) :
    c = d ∨ c.toNat + 32 = d.toNat ∧ 97 ≤ d.toNat ∧ d.toNat ≤ 122 := by
  have values := congrArg Char.toNat lower
  rw [toNat_toLower] at values
  split at values
  · omega
  · exact .inl (Char.toNat_inj.mp values)

theorem eq_of_toLower {c d : Char} (lower : c.toLower = d) (other : d.toNat < 97) : c = d := by
  rcases of_toLower lower with same | letter
  · exact same
  · omega

/-- The character is an ASCII capital, and the other one its small letter. -/
def CapitalOf (c d : Char) : Prop :=
  65 ≤ c.toNat ∧ c.toNat ≤ 90 ∧ d.toNat = c.toNat + 32

/-- The characters are one, or the capital and the small form of one ASCII letter. -/
def SameLetter (c d : Char) : Prop :=
  c = d ∨ CapitalOf c d ∨ CapitalOf d c

instance (c d : Char) : Decidable (CapitalOf c d) :=
  inferInstanceAs (Decidable (_ ∧ _ ∧ _))

instance (c d : Char) : Decidable (SameLetter c d) :=
  inferInstanceAs (Decidable (_ ∨ _ ∨ _))

theorem sameLetter_iff {c d : Char} : SameLetter c d ↔ c.toLower = d.toLower := by
  rw [SameLetter, CapitalOf, CapitalOf, ← Char.toNat_inj, ← Char.toNat_inj, toNat_toLower, toNat_toLower]
  split <;> split <;> omega

/-- Names that are equal, character by character, when the case of ASCII letters is ignored. -/
def EqualIgnoringCase (a b : String) : Prop :=
  List.Forall₂ SameLetter a.toList b.toList

instance (a b : String) : Decidable (EqualIgnoringCase a b) :=
  inferInstanceAs (Decidable (List.Forall₂ _ _ _))

theorem equalIgnoringCase_iff {a b : String} : EqualIgnoringCase a b ↔ sameName a b = true := by
  have letters : SameLetter = fun c d => c.toLower = d.toLower := funext₂ fun _ _ => propext sameLetter_iff
  rw [sameName_iff, lowerAscii, lowerAscii, String.ofList_inj, ← List.forall₂_eq_eq_eq,
    List.forall₂_map_left_iff, List.forall₂_map_right_iff, EqualIgnoringCase, letters]

theorem contains_iff_infix {part s : List Char} : contains part s = true ↔ part <:+: s := by
  induction s with
  | nil => simp [contains]
  | cons c cs ih =>
    have here : (afterPrefix part (c :: cs)).isSome = true ↔ part <+: c :: cs := by
      simp only [Option.isSome_iff_exists, afterPrefix_eq_some_iff, List.IsPrefix,
        eq_comm (a := c :: cs)]
    rw [contains, Bool.or_eq_true, ih, here, List.infix_cons_iff]

/-- The characters that read as a small one: its own letter, and the Kelvin sign as a k. -/
def ReadsAs (c p : Char) : Prop :=
  SameLetter c p ∨ c = '\u212a' ∧ p = 'k'

instance (c p : Char) : Decidable (ReadsAs c p) :=
  inferInstanceAs (Decidable (_ ∨ _ ∧ _))

/-- Some run of the text's characters reads as the phrase. -/
def Mentions (text phrase : String) : Prop :=
  ∃ front run back, text.toList = front ++ run ++ back ∧ List.Forall₂ ReadsAs run phrase.toList

/-- A phrase of ASCII characters without a capital. The dotted capital I is lowered to an i and a dot
above it, so it can be read in such a phrase only if an i ends it, and none does. -/
structure IsPhrase (phrase : List Char) : Prop where
  small : ∀ p ∈ phrase, isAscii p = true ∧ p.toLower = p
  ending : phrase.getLast? ≠ some 'i'

theorem IsPhrase.tail {p : Char} {phrase : List Char} (is : IsPhrase (p :: phrase)) :
    IsPhrase phrase where
  small := (List.forall_mem_cons.mp is.small).2
  ending := by
    cases phrase with
    | nil => nofun
    | cons q phrase => simpa using is.ending

theorem SameLetter.of_ascii {c p : Char} (same : SameLetter c p) (ascii : isAscii p = true) :
    isAscii c = true := by
  simp only [isAscii, decide_eq_true_eq] at ascii ⊢
  rcases same with rfl | ⟨_, bound, _⟩ | ⟨_, _, code⟩ <;> omega

theorem lowered_eq_singleton_iff {c p : Char} (ascii : isAscii p = true) (small : p.toLower = p) :
    lowered c = [p] ↔ ReadsAs c p := by
  have foreign : isAscii c = false → ¬ SameLetter c p := fun other same => by
    rw [same.of_ascii ascii] at other
    cases other
  rw [lowered, ReadsAs]
  split
  · next kelvin =>
    subst kelvin
    simp [foreign (by decide), eq_comm]
  · next other =>
    split
    · next dotted =>
      subst dotted
      simp [foreign (by decide)]
    · simp [sameLetter_iff, small, other]

theorem lowered_cases (c : Char) : (∃ d, lowered c = [d]) ∨ lowered c = ['i', '\u0307'] := by
  rw [lowered]
  split
  · exact .inl ⟨_, rfl⟩
  · split
    · exact .inr rfl
    · exact .inl ⟨_, rfl⟩

theorem IsPhrase.not_prefix_dot {p : Char} {phrase rest : List Char} (is : IsPhrase (p :: phrase)) :
    ¬ p :: phrase <+: '\u0307' :: rest := by
  intro begins
  cases (List.cons_prefix_cons.mp begins).1
  exact absurd (is.small _ List.mem_cons_self).1 (by decide)

/-- The lowered form of a character begins a phrase exactly if the character reads as the first of it. -/
theorem IsPhrase.prefix_lowered {p c : Char} {phrase rest : List Char} (is : IsPhrase (p :: phrase)) :
    p :: phrase <+: lowered c ++ rest ↔ ReadsAs c p ∧ phrase <+: rest := by
  obtain ⟨ascii, small⟩ := is.small p List.mem_cons_self
  rw [← lowered_eq_singleton_iff ascii small]
  rcases lowered_cases c with ⟨d, single⟩ | dotted
  · simp [single, List.cons_prefix_cons, eq_comm]
  · -- behind the i stands a dot that no phrase holds, and a phrase is longer than its i
    have others : ¬ (p = 'i' ∧ phrase <+: '\u0307' :: rest) := by
      rintro ⟨rfl, begins⟩
      cases phrase with
      | nil => exact is.ending rfl
      | cons q phrase => exact is.tail.not_prefix_dot begins
    simpa [dotted, List.cons_prefix_cons] using others

/-- A phrase does not begin inside the lowered form of a character. -/
theorem IsPhrase.infix_lowered {p c : Char} {phrase rest : List Char} (is : IsPhrase (p :: phrase)) :
    p :: phrase <:+: lowered c ++ rest ↔
      p :: phrase <+: lowered c ++ rest ∨ p :: phrase <:+: rest := by
  rcases lowered_cases c with ⟨d, single⟩ | dotted
  · rw [single, List.singleton_append, List.infix_cons_iff]
  · rw [dotted, List.cons_append, List.infix_cons_iff, List.cons_append, List.infix_cons_iff,
      List.nil_append, or_iff_right is.not_prefix_dot]

theorem IsPhrase.prefix_flatMap {phrase s : List Char} (is : IsPhrase phrase) :
    phrase <+: s.flatMap lowered ↔
      ∃ run back, s = run ++ back ∧ List.Forall₂ ReadsAs run phrase := by
  -- each character of the text uses up one of the phrase, so the induction is on the shorter of the two
  induction phrase generalizing s with
  | nil => simp
  | cons p phrase ih =>
    cases s with
    | nil => simp
    | cons c cs =>
      rw [List.flatMap_cons, is.prefix_lowered, ih is.tail]
      constructor
      · rintro ⟨first, run, back, rfl, others⟩
        exact ⟨c :: run, back, rfl, .cons first others⟩
      · rintro ⟨_, back, same, reads⟩
        cases reads with
        | cons first others =>
          obtain ⟨rfl, rfl⟩ := List.cons.inj same
          exact ⟨first, _, back, rfl, others⟩

theorem IsPhrase.infix_flatMap {phrase s : List Char} (is : IsPhrase phrase) :
    phrase <:+: s.flatMap lowered ↔
      ∃ front run back, s = front ++ run ++ back ∧ List.Forall₂ ReadsAs run phrase := by
  cases phrase with
  | nil => exact ⟨fun _ => ⟨[], [], s, rfl, .nil⟩, fun _ => List.nil_infix⟩
  | cons p phrase =>
    induction s with
    | nil => simp
    | cons c cs ih =>
      rw [List.flatMap_cons, is.infix_lowered, ih, ← List.flatMap_cons, is.prefix_flatMap]
      constructor
      · rintro (⟨run, back, same, reads⟩ | ⟨front, run, back, rfl, reads⟩)
        · exact ⟨[], run, back, same, reads⟩
        · exact ⟨c :: front, run, back, rfl, reads⟩
      · rintro ⟨front, run, back, same, reads⟩
        cases front with
        | nil => exact .inl ⟨run, back, same, reads⟩
        | cons d front =>
          obtain ⟨rfl, rfl⟩ := List.cons.inj same
          exact .inr ⟨front, run, back, rfl, reads⟩

/-- A phrase is found in a lowered text exactly if the text mentions it. -/
theorem contains_loweredText_iff {text phrase : String} (is : IsPhrase phrase.toList) :
    contains phrase.toList (loweredText text) = true ↔ Mentions text phrase :=
  contains_iff_infix.trans is.infix_flatMap

end Pager.Text
