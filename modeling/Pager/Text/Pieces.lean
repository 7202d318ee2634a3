namespace Pager.Text

/-- The pieces between the occurrences of `sep`, empty ones included. A text without one is its own
single piece. -/
def pieces (sep : Char) : List Char → List (List Char)
  | [] => [[]]
  | c :: cs =>
    if c = sep then [] :: pieces sep cs
    else match pieces sep cs with
      | [] => [[c]]
      | p :: ps => (c :: p) :: ps

/-- The pieces put side by side again, with `sep` between each two. -/
def join (sep : Char) : List (List Char) → List Char
  | [] => []
  | [p] => p
  | p :: ps => p ++ sep :: join sep ps

theorem pieces_ne_nil (sep : Char) (s : List Char) : pieces sep s ≠ [] := by
  cases s with
  | nil => simp [pieces]
  | cons c cs =>
    rw [pieces]
    split
    · simp
    · split <;> simp

theorem join_pieces (sep : Char) (s : List Char) : join sep (pieces sep s) = s := by
  induction s with
  | nil => rfl
  | cons c cs ih =>
    rw [pieces]
    have filled := pieces_ne_nil sep cs
    split
    · next same =>
      cases rest : pieces sep cs with
      | nil => exact absurd rest filled
      | cons p ps => simp [join, ← rest, ih, same]
    · cases rest : pieces sep cs with
      | nil => exact absurd rest filled
      | cons p ps =>
        rw [rest] at ih
        cases ps <;> simp_all [join]

theorem mem_of_mem_pieces {sep c : Char} {s p : List Char} (piece : p ∈ pieces sep s) (member : c ∈ p) :
    c ≠ sep ∧ c ∈ s := by
  induction s generalizing p with
  | nil =>
    rw [pieces, List.mem_singleton] at piece
    subst piece
    cases member
  | cons d cs ih =>
    rw [pieces] at piece
    split at piece
    · rcases List.mem_cons.mp piece with rfl | later
      · cases member
      · exact ⟨(ih later member).1, List.mem_cons_of_mem _ (ih later member).2⟩
    · next other =>
      cases rest : pieces sep cs with
      | nil => exact absurd rest (pieces_ne_nil sep cs)
      | cons q qs =>
        rw [rest] at piece ih
        rcases List.mem_cons.mp piece with rfl | later
        · rcases List.mem_cons.mp member with rfl | inside
          · exact ⟨other, List.mem_cons_self⟩
          · have found := ih List.mem_cons_self inside
            exact ⟨found.1, List.mem_cons_of_mem _ found.2⟩
        · have found := ih (List.mem_cons_of_mem _ later) member
          exact ⟨found.1, List.mem_cons_of_mem _ found.2⟩

/-- What is no separator stands in some piece. -/
theorem exists_mem_pieces {sep c : Char} {s : List Char} (member : c ∈ s) (other : c ≠ sep) :
    ∃ p ∈ pieces sep s, c ∈ p := by
  induction s with
  | nil => cases member
  | cons d cs ih =>
    rw [pieces]
    split
    · next same =>
      have later : c ∈ cs := (List.mem_cons.mp member).resolve_left fun first => other (first.trans same)
      obtain ⟨p, piece, inside⟩ := ih later
      exact ⟨p, List.mem_cons_of_mem _ piece, inside⟩
    · cases rest : pieces sep cs with
      | nil => exact absurd rest (pieces_ne_nil sep cs)
      | cons q qs =>
        rw [rest] at ih
        rcases List.mem_cons.mp member with rfl | later
        · exact ⟨_, List.mem_cons_self, List.mem_cons_self⟩
        · obtain ⟨p, piece, inside⟩ := ih later
          rcases List.mem_cons.mp piece with rfl | behind
          · exact ⟨_, List.mem_cons_self, List.mem_cons_of_mem _ inside⟩
          · exact ⟨p, List.mem_cons_of_mem _ behind, inside⟩

theorem pieces_append {sep : Char} {p : List Char} (free : sep ∉ p) (s : List Char) :
    pieces sep (p ++ sep :: s) = p :: pieces sep s := by
  induction p with
  | nil => simp [pieces]
  | cons c p ih =>
    rw [List.mem_cons, not_or] at free
    rw [List.cons_append, pieces, if_neg (Ne.symm free.1), ih free.2]

theorem pieces_of_not_mem {sep : Char} {p : List Char} (free : sep ∉ p) : pieces sep p = [p] := by
  induction p with
  | nil => rfl
  | cons c p ih =>
    rw [List.mem_cons, not_or] at free
    rw [pieces, if_neg (Ne.symm free.1), ih free.2]

/-- Texts side by side with a separator between them have the pieces of the one and then of the
other. -/
theorem pieces_append_cons (sep : Char) (s t : List Char) :
    pieces sep (s ++ sep :: t) = pieces sep s ++ pieces sep t := by
  induction s with
  | nil => simp [pieces]
  | cons c cs ih =>
    rw [List.cons_append, pieces, pieces, ih]
    split
    · rfl
    · cases first : pieces sep cs with
      | nil => exact absurd first (pieces_ne_nil sep cs)
      | cons p ps => rfl

theorem join_cons_cons (sep : Char) (p q : List Char) (ps : List (List Char)) :
    join sep (p :: q :: ps) = p ++ sep :: join sep (q :: ps) :=
  rfl

/-- Pieces without the separator are found again. -/
theorem pieces_join {sep : Char} {parts : List (List Char)} (given : parts ≠ [])
    (free : ∀ part ∈ parts, sep ∉ part) : pieces sep (join sep parts) = parts := by
  induction parts with
  | nil => exact absurd rfl given
  | cons p ps ih =>
    obtain ⟨first, others⟩ := List.forall_mem_cons.mp free
    cases ps with
    | nil => exact pieces_of_not_mem first
    | cons q qs => rw [join_cons_cons, pieces_append first, ih (List.cons_ne_nil q qs) others]

def splitOn (sep : Char) (s : String) : List String :=
  (pieces sep s.toList).map String.ofList

theorem splitOn_ne_nil (sep : Char) (s : String) : splitOn sep s ≠ [] := by
  simpa [splitOn] using pieces_ne_nil sep s.toList

/-- The text before the first `sep` and the text after it, when there is one. -/
def cutAt (sep : Char) : List Char → Option (List Char × List Char)
  | [] => none
  | c :: cs =>
    if c = sep then some ([], cs)
    else (cutAt sep cs).map fun (before, after) => (c :: before, after)

theorem cutAt_eq_some {sep : Char} {s before after : List Char}
    (cut : cutAt sep s = some (before, after)) : s = before ++ sep :: after := by
  induction s generalizing before with
  | nil => simp [cutAt] at cut
  | cons c cs ih =>
    rw [cutAt] at cut
    split at cut
    · next same =>
      simp only [Option.some.injEq, Prod.mk.injEq] at cut
      rw [← cut.1, ← cut.2, same, List.nil_append]
    · simp only [Option.map_eq_some_iff, Prod.exists, Prod.mk.injEq] at cut
      obtain ⟨inner, _, found, rfl, rfl⟩ := cut
      rw [ih found, List.cons_append]

theorem cutAt_append {sep : Char} {p : List Char} (free : sep ∉ p) (s : List Char) :
    cutAt sep (p ++ sep :: s) = some (p, s) := by
  induction p with
  | nil => simp [cutAt]
  | cons c p ih =>
    rw [List.mem_cons, not_or] at free
    rw [List.cons_append, cutAt, if_neg (Ne.symm free.1), ih free.2, Option.map_some]

/-- What follows `start`, when the text begins with it. -/
def afterPrefix : List Char → List Char → Option (List Char)
  | [], s => some s
  | _ :: _, [] => none
  | p :: ps, c :: cs => if p = c then afterPrefix ps cs else none

theorem afterPrefix_eq_some_iff {start s rest : List Char} :
    afterPrefix start s = some rest ↔ s = start ++ rest := by
  induction start generalizing s with
  | nil => simp [afterPrefix]
  | cons p ps ih =>
    cases s with
    | nil => simp [afterPrefix]
    | cons c cs =>
      rw [afterPrefix]
      split
      · next same => simp [ih, same]
      · next other => simp [Ne.symm other]

/-- Whether `part` occurs somewhere in the text. -/
def contains (part : List Char) : List Char → Bool
  | [] => part.isEmpty
  | c :: cs => (afterPrefix part (c :: cs)).isSome || contains part cs

/-- Texts that are given by their characters, put together. -/
theorem append_eq_ofList {s t : String} {cs ds : List Char} (first : s = String.ofList cs)
    (second : t = String.ofList ds) : s ++ t = String.ofList (cs ++ ds) := by
  rw [first, second, String.ofList_append]

def joinWith (between : String) (texts : List String) : String :=
  String.intercalate between texts

end Pager.Text
