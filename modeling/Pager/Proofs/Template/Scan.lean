import Pager.Proofs.Template.Name

namespace Pager.Template

@[simp] theorem scan_nil : scan [] = [] := by
  rw [scan]

theorem scan_cons (c : Char) (cs : List Char) :
    scan (c :: cs) = match placeholder? (c :: cs) with
      | some (name, rest) =>
        .variable ((c :: cs).take (cs.length + 1 - rest.length)) name :: scan rest
      | none => .char c :: scan cs := by
  rw [scan]
  split <;> simp_all

/-- The names of the variables in a text, in the order of their placeholders. -/
def namesIn (s : List Char) : List String :=
  (scan s).filterMap Piece.name?

@[simp] theorem namesIn_nil : namesIn [] = [] := by
  simp [namesIn]

theorem variableNames_eq (template : String) : variableNames template = namesIn template.toList :=
  rfl

theorem namesIn_cons (c : Char) (cs : List Char) :
    namesIn (c :: cs) = match placeholder? (c :: cs) with
      | some (name, rest) => String.ofList name :: namesIn rest
      | none => namesIn cs := by
  rw [namesIn, scan_cons]
  split
  · rfl
  · exact List.filterMap_cons_none rfl

theorem placeholder?_braces (inside : List Char) :
    placeholder? ('{' :: '{' :: inside) =
      (name? (Text.trimLeft inside)).bind fun (name, rest) =>
        (closing? (Text.trimLeft rest)).map fun after => (name, after) := by
  rw [placeholder?]
  cases name? (Text.trimLeft inside) <;> rfl

theorem placeholder?_plain {s : List Char} (plain : ∀ inside, s ≠ '{' :: '{' :: inside) :
    placeholder? s = none := by
  unfold placeholder?
  split
  · exact absurd rfl (plain _)
  · rfl

theorem isName_of_placeholder {s name rest : List Char}
    (found : placeholder? s = some (name, rest)) : isName name = true := by
  by_cases opens : ∃ inside, s = '{' :: '{' :: inside
  · obtain ⟨inside, rfl⟩ := opens
    rw [placeholder?_braces] at found
    simp only [Option.bind_eq_some_iff, Option.map_eq_some_iff, Prod.exists, Prod.mk.injEq] at found
    obtain ⟨_, _, read, _, _, rfl, _⟩ := found
    exact (name?_eq_some read).1
  · rw [placeholder?_plain (not_exists.mp opens)] at found
    cases found

theorem isName_of_mem_namesIn {s : List Char} {name : String} (member : name ∈ namesIn s) :
    isName name.toList = true := by
  induction length : s.length using Nat.strongRecOn generalizing s with
  | ind n ih =>
    cases s with
    | nil => simp at member
    | cons c cs =>
      rw [namesIn_cons] at member
      split at member
      · next read found =>
        rcases List.mem_cons.mp member with rfl | later
        · rw [String.toList_ofList]
          exact isName_of_placeholder found
        · exact ih _ (length ▸ placeholder?_length found) later rfl
      · exact ih _ (by simp [← length]) member rfl

theorem isName_of_mem {template name : String} (member : name ∈ variableNames template) :
    isName name.toList = true :=
  isName_of_mem_namesIn member

theorem not_blank_of_nameChar {c : Char} (char : isNameChar c = true) : Text.isBlank c = false := by
  have bounds : 48 ≤ c.toNat ∧ c.toNat ≤ 122 := by
    have classes : isNameChar c =
        (((decide (65 ≤ c.val ∧ c.val ≤ 90) || (decide (97 ≤ c.val) && decide (c.val ≤ 122))) ||
          (decide (48 ≤ c.val) && decide (c.val ≤ 57))) || c == '_') := rfl
    simp only [classes, Bool.or_eq_true, Bool.and_eq_true, decide_eq_true_eq, UInt32.le_iff_toNat_le,
      beq_iff_eq] at char
    rcases char with ((⟨low, high⟩ | ⟨low, high⟩) | ⟨low, high⟩) | rfl
    · exact ⟨Nat.le_trans (by decide) low, Nat.le_trans high (by decide)⟩
    · exact ⟨Nat.le_trans (by decide) low, Nat.le_trans high (by decide)⟩
    · exact ⟨low, Nat.le_trans high (by decide)⟩
    · decide
  simp only [Text.isBlank, Text.blankRanges, List.any_cons, List.any_nil, Bool.or_false,
    Bool.or_eq_false_iff, Bool.and_eq_false_iff, decide_eq_false_iff_not]
  omega

theorem trimLeft_append {blank s : List Char} (blanks : ∀ c ∈ blank, Text.isBlank c = true)
    (dark : ∀ c ∈ s.head?, Text.isBlank c = false) : Text.trimLeft (blank ++ s) = s := by
  induction blank with
  | nil =>
    cases s with
    | nil => rfl
    | cons c s => exact Text.trimLeft_cons_of_not_blank (dark c rfl)
  | cons c blank ih =>
    obtain ⟨first, others⟩ := List.forall_mem_cons.mp blanks
    rw [List.cons_append, Text.trimLeft_cons_of_blank first, ih others]

theorem head_of_isName {name : List Char} (is : isName name = true) (rest : List Char) :
    ∀ c ∈ (name ++ rest).head?, Text.isBlank c = false := by
  cases name with
  | nil => cases is
  | cons c name =>
    rintro _ ⟨⟩
    by_cases dot : c = '.'
    · subst dot
      decide
    · have parts := isName_iff.mp is
      rw [Text.pieces, if_neg dot] at parts
      cases others : Text.pieces '.' name with
      | nil => exact absurd others (Text.pieces_ne_nil '.' _)
      | cons part more =>
        rw [others] at parts
        have first := parts (c :: part) List.mem_cons_self
        exact not_blank_of_nameChar (isNameChar_of_mem first List.mem_cons_self)

/-- A placeholder that is written is read. -/
theorem placeholder?_written {left name right : List Char}
    (before : ∀ c ∈ left, Text.isBlank c = true) (is : isName name = true)
    (after : ∀ c ∈ right, Text.isBlank c = true) (rest : List Char) :
    placeholder? ('{' :: '{' :: (left ++ (name ++ (right ++ ('}' :: '}' :: rest))))) =
      some (name, rest) := by
  have ends : EndsName (right ++ ('}' :: '}' :: rest)) := by
    cases right with
    | nil => constructor <;> simp; decide
    | cons c right =>
      have blank := after c List.mem_cons_self
      constructor
      · rintro _ ⟨⟩
        refine Bool.eq_false_iff.mpr fun char => ?_
        rw [not_blank_of_nameChar char] at blank
        cases blank
      · rintro ⟨⟩
        revert blank
        decide
  rw [placeholder?_braces, trimLeft_append before (head_of_isName is _), name?_append is ends]
  simp only [Option.bind_some]
  rw [trimLeft_append after (by rintro _ ⟨⟩; decide)]
  rfl

/-- A character that stands in no placeholder. -/
structure Outside (c : Char) : Prop where
  name : isNameChar c = false
  blank : Text.isBlank c = false
  dot : c ≠ '.'
  opening : c ≠ '{'
  closing : c ≠ '}'

theorem outside_slash : Outside '/' := by
  constructor <;> decide

theorem takeWhile_append_stop {test : Char → Bool} {c : Char} (stop : test c = false)
    (p s : List Char) : (p ++ c :: s).takeWhile test = p.takeWhile test := by
  induction p with
  | nil => simp [stop]
  | cons d p ih => simp only [List.cons_append, List.takeWhile_cons, ih]

theorem dropWhile_append_stop {test : Char → Bool} {c : Char} (stop : test c = false)
    (p s : List Char) : (p ++ c :: s).dropWhile test = p.dropWhile test ++ c :: s := by
  induction p with
  | nil => simp [stop]
  | cons d p ih =>
    simp only [List.cons_append, List.dropWhile_cons, ih]
    split <;> rfl

variable {c : Char}

/-- A reading with more text behind what is left. -/
def behind (s : List Char) : List Char × List Char → List Char × List Char :=
  Prod.map id (· ++ s)

theorem identifier?_append_outside (out : Outside c) (p s : List Char) :
    identifier? (p ++ c :: s) = (identifier? p).map (behind (c :: s)) := by
  cases p with
  | nil =>
    have other : isNameStart c ≠ true := fun start => by
      have char := isNameChar_of_start start
      rw [out.name] at char
      cases char
    simp [identifier?, other]
  | cons d p =>
    rw [List.cons_append, identifier?, identifier?, takeWhile_append_stop out.name,
      dropWhile_append_stop out.name]
    split <;> rfl

theorem dotted_append_outside (out : Outside c) (p s : List Char) :
    dotted (p ++ c :: s) = behind (c :: s) (dotted p) := by
  fun_induction dotted p with
  | case1 cs name rest found names rest' step ih =>
    rw [List.cons_append, dotted_dot, identifier?_append_outside out, found]
    simp only [Option.map_some, behind, Prod.map_apply, id_eq, ih, step]
  | case2 cs missing =>
    rw [List.cons_append, dotted_dot, identifier?_append_outside out, missing]
    rfl
  | case3 p other =>
    refine dotted_of_head ?_
    cases p with
    | nil => simp [out.dot]
    | cons d p => simpa using other p

theorem name?_append_outside (out : Outside c) (p s : List Char) :
    name? (p ++ c :: s) = (name? p).map (behind (c :: s)) := by
  rw [name?, name?, identifier?_append_outside out]
  cases identifier? p with
  | none => rfl
  | some read => simp [behind, dotted_append_outside out]

theorem closing?_append_outside (out : Outside c) (p s : List Char) :
    closing? (p ++ c :: s) = (closing? p).map (· ++ c :: s) := by
  match p with
  | [] => simp [closing?, out.closing]
  | [d] => simp [closing?, out.closing]
  | d :: e :: p =>
    simp only [List.cons_append]
    unfold closing?
    split <;> simp_all

theorem trimLeft_append_outside (out : Outside c) (p s : List Char) :
    Text.trimLeft (p ++ c :: s) = Text.trimLeft p ++ c :: s :=
  dropWhile_append_stop out.blank p s

theorem placeholder?_append_outside (out : Outside c) (p s : List Char) :
    placeholder? (p ++ c :: s) = (placeholder? p).map (behind (c :: s)) := by
  by_cases opens : ∃ inside, p = '{' :: '{' :: inside
  · obtain ⟨inside, rfl⟩ := opens
    simp only [List.cons_append, placeholder?_braces, trimLeft_append_outside out,
      name?_append_outside out]
    cases name? (Text.trimLeft inside) with
    | none => rfl
    | some read =>
      simp only [Option.map_some, Option.bind_some, behind, Prod.map, trimLeft_append_outside out,
        closing?_append_outside out, Option.map_map]
      rfl
  · have plain : ∀ inside, p ++ c :: s ≠ '{' :: '{' :: inside := by
      intro inside same
      match p with
      | [] => exact out.opening (List.cons.inj same).1
      | [d] => exact out.opening (List.cons.inj (List.cons.inj same).2).1
      | d :: e :: p =>
        obtain ⟨rfl, rest⟩ := List.cons.inj same
        obtain ⟨rfl, _⟩ := List.cons.inj rest
        exact opens ⟨p, rfl⟩
    rw [placeholder?_plain plain, placeholder?_plain (not_exists.mp opens)]
    rfl

theorem namesIn_append_outside (out : Outside c) (p s : List Char) :
    namesIn (p ++ c :: s) = namesIn p ++ namesIn s := by
  induction length : p.length using Nat.strongRecOn generalizing p with
  | ind n ih =>
    cases p with
    | nil =>
      have unread : placeholder? (c :: s) = none := placeholder?_append_outside out [] s
      rw [List.nil_append, namesIn_cons, unread, namesIn_nil, List.nil_append]
    | cons d p =>
      rw [List.cons_append, namesIn_cons, namesIn_cons, ← List.cons_append,
        placeholder?_append_outside out]
      cases found : placeholder? (d :: p) with
      | none => exact ih _ (by simp [← length]) p rfl
      | some read =>
        have shorter := placeholder?_length found
        simp [behind, ih _ (length ▸ shorter) _ rfl]

theorem flatMap_namesIn {ps : List (List Char)} (given : ps ≠ []) :
    ps.flatMap namesIn = namesIn (Text.join '/' ps) := by
  induction ps with
  | nil => exact absurd rfl given
  | cons p ps ih =>
    cases ps with
    | nil => simp [Text.join]
    | cons q ps =>
      rw [Text.join_cons_cons, namesIn_append_outside outside_slash, List.flatMap_cons, ih (by simp)]

theorem namesIn_dropWhile_slash (s : List Char) :
    namesIn (s.dropWhile (· = '/')) = namesIn s := by
  induction s with
  | nil => rfl
  | cons c s ih =>
    rw [List.dropWhile_cons]
    split
    · next slash =>
      have same : c = '/' := by simpa using slash
      have cut := namesIn_append_outside outside_slash [] s
      rw [ih, same]
      simpa using cut.symm
    · rfl

end Pager.Template
