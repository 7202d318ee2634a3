import Pager.Template
import Pager.Text.Pieces

namespace Pager.Template

def isIdentifier : List Char → Bool
  | [] => false
  | c :: cs => isNameStart c && cs.all isNameChar

theorem isNameChar_of_start {c : Char} (start : isNameStart c = true) : isNameChar c = true := by
  rw [isNameStart, Bool.or_eq_true] at start
  rw [isNameChar, Char.isAlphanum, Bool.or_eq_true, Bool.or_eq_true]
  exact start.imp_left .inl

theorem isNameChar_of_mem {name : List Char} (is : isIdentifier name = true) {c : Char}
    (member : c ∈ name) : isNameChar c = true := by
  cases name with
  | nil => cases is
  | cons first more =>
    rw [isIdentifier, Bool.and_eq_true, List.all_eq_true] at is
    rcases List.mem_cons.mp member with rfl | later
    · exact isNameChar_of_start is.1
    · exact is.2 c later

theorem not_mem_identifier {name : List Char} (is : isIdentifier name = true) {c : Char}
    (other : isNameChar c = false) : c ∉ name := by
  intro member
  rw [isNameChar_of_mem is member] at other
  cases other

theorem identifier?_eq_some {s name rest : List Char} (found : identifier? s = some (name, rest)) :
    isIdentifier name = true ∧ s = name ++ rest := by
  cases s with
  | nil => cases found
  | cons c cs =>
    rw [identifier?] at found
    split at found
    · next start =>
      cases found
      refine ⟨?_, by simp⟩
      rw [isIdentifier, start, Bool.true_and, List.all_takeWhile]
    · cases found

/-- An identifier is read to its end. -/
theorem identifier?_append {name rest : List Char} (is : isIdentifier name = true)
    (ends : ∀ c ∈ rest.head?, isNameChar c = false) :
    identifier? (name ++ rest) = some (name, rest) := by
  cases name with
  | nil => cases is
  | cons c cs =>
    rw [isIdentifier, Bool.and_eq_true, List.all_eq_true] at is
    have stops : rest.takeWhile isNameChar = [] ∧ rest.dropWhile isNameChar = rest := by
      cases rest with
      | nil => exact ⟨rfl, rfl⟩
      | cons d rest =>
        have other := ends d rfl
        simp [other]
    rw [List.cons_append, identifier?, if_pos is.1, List.takeWhile_append_of_pos is.2,
      List.dropWhile_append_of_pos is.2, stops.1, stops.2, List.append_nil]

/-- Identifiers with single dots between them. -/
def isName (s : List Char) : Bool :=
  (Text.pieces '.' s).all isIdentifier

theorem isName_iff {s : List Char} :
    isName s = true ↔ ∀ part ∈ Text.pieces '.' s, isIdentifier part = true :=
  List.all_eq_true

theorem dot_not_mem {name : List Char} (is : isIdentifier name = true) : '.' ∉ name :=
  not_mem_identifier is (by decide)

theorem isName_of_identifier {name : List Char} (is : isIdentifier name = true) :
    isName name = true := by
  rw [isName, Text.pieces_of_not_mem (dot_not_mem is)]
  simp [is]

theorem isName_cons {first more : List Char} (is : isIdentifier first = true) :
    isName (first ++ '.' :: more) = isName more := by
  rw [isName, Text.pieces_append (dot_not_mem is), List.all_cons, is, Bool.true_and, isName]

theorem isName_ne_nil {s : List Char} (is : isName s = true) : s ≠ [] := by
  rintro rfl
  cases is

theorem dotted_spec (s : List Char) :
    s = (dotted s).1 ++ (dotted s).2 ∧
      ((dotted s).1 = [] ∨ ∃ more, (dotted s).1 = '.' :: more ∧ isName more = true) := by
  fun_induction dotted s with
  | case1 cs name rest found names rest' step ih =>
    obtain ⟨is, rfl⟩ := identifier?_eq_some found
    simp only [step] at ih
    obtain ⟨same, follows⟩ := ih
    refine ⟨by simp [same], .inr ⟨name ++ names, rfl, ?_⟩⟩
    rcases follows with rfl | ⟨more, rfl, names⟩
    · simpa using isName_of_identifier is
    · rw [isName_cons is, names]
  | case2 => simp
  | case3 => simp

theorem name?_eq_some {s name rest : List Char} (found : name? s = some (name, rest)) :
    isName name = true ∧ s = name ++ rest := by
  simp only [name?, Option.map_eq_some_iff, Prod.exists] at found
  obtain ⟨first, after, first_found, whole⟩ := found
  obtain ⟨is, rfl⟩ := identifier?_eq_some first_found
  obtain ⟨same, follows⟩ := dotted_spec after
  cases whole
  refine ⟨?_, by rw [List.append_assoc, ← same]⟩
  rcases follows with nothing | ⟨more, dots, names⟩
  · simpa [nothing] using isName_of_identifier is
  · rw [dots, isName_cons is, names]

theorem dotted_dot (cs : List Char) :
    dotted ('.' :: cs) = match identifier? cs with
      | some (name, rest) => ('.' :: name ++ (dotted rest).1, (dotted rest).2)
      | none => ([], '.' :: cs) := by
  rw [dotted]
  split <;> simp_all

theorem dotted_of_head {s : List Char} (other : s.head? ≠ some '.') : dotted s = ([], s) := by
  unfold dotted
  split
  · exact absurd rfl other
  · rfl

/-- What does not go on with a name. -/
structure EndsName (rest : List Char) : Prop where
  char : ∀ c ∈ rest.head?, isNameChar c = false
  dot : rest.head? ≠ some '.'

/-- Names read on behind a dot; by the parts of the name. -/
theorem dotted_join {parts : List (List Char)} (given : parts ≠ [])
    (are : ∀ part ∈ parts, isIdentifier part = true) {rest : List Char} (ends : EndsName rest) :
    dotted ('.' :: (Text.join '.' parts ++ rest)) = ('.' :: Text.join '.' parts, rest) := by
  induction parts with
  | nil => exact absurd rfl given
  | cons part parts ih =>
    have is := are part List.mem_cons_self
    cases parts with
    | nil =>
      rw [Text.join, dotted_dot, identifier?_append is ends.char]
      simp [dotted_of_head ends.dot]
    | cons next parts =>
      have behind := ih (by simp) fun x member => are x (List.mem_cons_of_mem _ member)
      rw [Text.join_cons_cons, List.append_assoc, List.cons_append, dotted_dot,
        identifier?_append is (by simp; decide)]
      simp [behind]

/-- A name is read to its end. -/
theorem name?_append {name rest : List Char} (is : isName name = true) (ends : EndsName rest) :
    name? (name ++ rest) = some (name, rest) := by
  have given := Text.pieces_ne_nil '.' name
  have are := isName_iff.mp is
  have whole := Text.join_pieces '.' name
  cases parts : Text.pieces '.' name with
  | nil => exact absurd parts given
  | cons first more =>
    rw [parts] at are whole
    have start := are first List.mem_cons_self
    cases more with
    | nil =>
      rw [Text.join] at whole
      subst whole
      rw [name?, identifier?_append start ends.char]
      simp [dotted_of_head ends.dot]
    | cons next others =>
      have behind := dotted_join (by simp) (fun x member => are x (List.mem_cons_of_mem _ member)) ends
      rw [Text.join_cons_cons] at whole
      rw [← whole, List.append_assoc, List.cons_append, name?,
        identifier?_append start (by simp; decide)]
      simp [behind]

end Pager.Template
