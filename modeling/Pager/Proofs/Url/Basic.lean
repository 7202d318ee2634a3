import Pager.Proofs.Binding
import Pager.Proofs.Url.Path
import Pager.Url.Basic

namespace Pager

/-- What holds of a result, if there is one. -/
def Ensures {ε α : Type} (x : Except ε α) (P : α → Prop) : Prop :=
  ∀ a, x = .ok a → P a

namespace Ensures

variable {ε α β : Type} {P : β → Prop}

theorem error (e : ε) : Ensures (.error e) P := nofun

theorem ok {b : β} (holds : P b) : Ensures (.ok b : Except ε β) P := by
  rintro _ ⟨⟩
  exact holds

theorem bind {x : Except ε α} {f : α → Except ε β} (holds : ∀ a, Ensures (f a) P) :
    Ensures (x >>= f) P := by
  intro b same
  obtain ⟨a, _, last⟩ := Except.bind_eq_ok.mp same
  exact holds a b last

theorem ite {c : Prop} [Decidable c] {x y : Except ε β} (yes : Ensures x P) (no : Ensures y P) :
    Ensures (if c then x else y) P := by
  split
  · exact yes
  · exact no

end Ensures

namespace Url

theorem withAuthority_ok (scheme : String) (s : List Char) :
    Ensures (withAuthority scheme s) fun u =>
      u.scheme = scheme ∧ ∃ rest, u.path = pathAfter scheme rest := by
  unfold withAuthority
  refine .bind fun (username, password, rest) => .ite (.error _) (.ite ?_ (.ite ?_ ?_))
  -- whatever host and port are read, the path is what follows them
  all_goals
    refine .bind fun host => ?_
    split
    · exact .ite (.bind fun _ => .ite (.error _) (.ok ⟨rfl, _, rfl⟩))
        (.bind fun _ => .ite (.error _) (.ok ⟨rfl, _, rfl⟩))
    · exact .bind fun _ => .ite (.error _) (.ok ⟨rfl, _, rfl⟩)

theorem file_ok (s : List Char) : Ensures (file s) fun u => u.scheme = "file" := by
  unfold file
  split
  · exact .bind fun _ => .ok rfl
  · split
    · exact .bind fun _ => .ok rfl
    · exact .bind fun _ => .bind fun _ => .ok rfl

theorem plain_ok (scheme : String) (s : List Char) :
    Ensures (plain scheme s) fun u => u.scheme = scheme := by
  unfold plain
  split
  · exact fun u read => (withAuthority_ok scheme _ u read).1
  · dsimp only
    split
    · exact .ok rfl
    · exact .ok rfl

/-- A URL of a special scheme that is no file has the path behind its authority. -/
theorem ofText_path {s : String} {u : Url} (read : ofText s = .ok u)
    (special : isSpecial u.scheme = true) (notFile : u.scheme ≠ "file") :
    ∃ rest, u.path = pathAfter u.scheme rest := by
  unfold ofText at read
  dsimp only at read
  split at read
  · cases read
  · rename_i scheme rest _
    split at read
    · exact absurd (file_ok _ u read) notFile
    · split at read
      · obtain ⟨same, path⟩ := withAuthority_ok _ _ u read
        rw [same]
        exact path
      · rename_i other
        rw [plain_ok _ _ u read] at special
        exact absurd special other

/-- Whether the scheme of a text is special or a slash follows it. -/
def Rooted (s : String) : Prop :=
  ∃ scheme rest, scheme? (unbroken (trimmed s)) = some (scheme, rest) ∧
    (isSpecial scheme = true ∨ rest.head? = some '/')

instance (s : String) : Decidable (Rooted s) :=
  match read : scheme? (unbroken (trimmed s)) with
  | none => .isFalse fun ⟨_, _, same, _⟩ => by cases read.symm.trans same
  | some (scheme, rest) =>
    if holds : isSpecial scheme = true ∨ rest.head? = some '/' then .isTrue ⟨scheme, rest, read, holds⟩
    else .isFalse fun ⟨_, _, same, either⟩ => by cases read.symm.trans same; exact holds either

theorem pathAfter_segments (scheme : String) (s : List Char) :
    ∃ own, pathAfter scheme s = .segments own := by
  cases s with
  | nil => exact ⟨_, rfl⟩
  | cons c rest => exact ⟨_, rfl⟩

theorem withAuthority_segments (scheme : String) (s : List Char) :
    Ensures (withAuthority scheme s) fun u => ∃ own, u.path = .segments own := by
  intro u read
  obtain ⟨_, rest, path⟩ := withAuthority_ok scheme s u read
  rw [path]
  exact pathAfter_segments scheme rest

theorem file_segments (s : List Char) : Ensures (file s) fun u => ∃ own, u.path = .segments own := by
  unfold file
  split
  · exact .bind fun _ => .ok ⟨_, rfl⟩
  · split
    · exact .bind fun _ => .ok ⟨_, rfl⟩
    · exact .bind fun _ => .bind fun _ => .ok ⟨_, rfl⟩

theorem plain_segments_iff (scheme : String) (s : List Char) :
    Ensures (plain scheme s) fun u => (∃ own, u.path = .segments own) ↔ s.head? = some '/' := by
  unfold plain
  split
  · exact fun u read => iff_of_true (withAuthority_segments scheme _ u read) rfl
  · -- the mark that ends a path is no slash
    have same : (s.takeWhile fun c => !endsPath c).head? = some '/' ↔ s.head? = some '/' := by
      rw [List.head?_takeWhile, Option.filter_eq_some_iff]
      exact and_iff_left rfl
    dsimp only
    split
    · next rest whole => exact .ok (iff_of_true ⟨_, rfl⟩ (same.mp (whole ▸ rfl)))
    · next other =>
      refine .ok (iff_of_false nofun (mt same.mpr fun slash => ?_))
      obtain ⟨rest, whole⟩ := List.head?_eq_some_iff.mp slash
      exact other rest whole

/-- A URL takes segments exactly if it is rooted. -/
theorem ofText_segments_iff {s : String} {u : Url} (read : ofText s = .ok u) :
    (∃ own, u.path = .segments own) ↔ Rooted s := by
  unfold ofText at read
  dsimp only at read
  unfold Rooted
  split at read
  · cases read
  · rename_i scheme rest found
    have rooted : (∃ scheme' rest', scheme? (unbroken (trimmed s)) = some (scheme', rest') ∧
        (isSpecial scheme' = true ∨ rest'.head? = some '/')) ↔
        isSpecial scheme = true ∨ rest.head? = some '/' := by
      simp [found]
    rw [rooted]
    split at read
    · next isFile =>
      subst isFile
      exact iff_of_true (file_segments _ u read) (.inl rfl)
    · split at read
      · next special => exact iff_of_true (withAuthority_segments _ _ u read) (.inl special)
      · next other => exact (plain_segments_iff _ _ u read).trans (or_iff_right other).symm

theorem pathAfter_closed {scheme : String} (notFile : scheme ≠ "file") (s : List Char) :
    ∃ own, pathAfter scheme s = .segments own ∧ ∀ x ∈ own, Closed (isSpecial scheme) x := by
  unfold pathAfter
  split
  · refine ⟨_, rfl, ?_⟩
    split
    · exact List.forall_mem_singleton.mpr closed_empty
    · exact List.forall_mem_nil _
  · rename_i c rest
    refine ⟨_, rfl, closed_segmentsOf notFile ?_⟩
    split
    · exact fun segment member => rawSegments_cut _ segment (List.mem_of_mem_tail member)
    · exact rawSegments_cut _

theorem text_cons (segment : String) (rest : List String) :
    (Path.segments (segment :: rest)).text.toList =
      '/' :: (segment.toList ++ (Path.segments rest).text.toList) := by
  simp [Path.text]

theorem Closed.slash_free {special : Bool} {segment : String} (closed : Closed special segment) :
    '/' ∉ segment.toList := by
  intro member
  have slash : isSlash special '/' = true := rfl
  rw [(closed '/' member).1] at slash
  cases slash

theorem pieces_behind {special : Bool} {segment : String} {rest : List String}
    (first : Closed special segment) (closed : ∀ x ∈ rest, Closed special x) :
    Text.pieces '/' (segment.toList ++ (Path.segments rest).text.toList) =
      segment.toList :: rest.map String.toList := by
  induction rest generalizing segment with
  | nil => simpa [Path.text] using Text.pieces_of_not_mem first.slash_free
  | cons next rest ih =>
    obtain ⟨second, others⟩ := List.forall_mem_cons.mp closed
    rw [text_cons, Text.pieces_append first.slash_free, ih second others, List.map_cons]

/-- The text of a path, cut at its slashes. -/
theorem pieces_text {special : Bool} {segments : List String}
    (closed : ∀ x ∈ segments, Closed special x) :
    Text.pieces '/' (Path.segments segments).text.toList = [] :: segments.map String.toList := by
  cases segments with
  | nil => rfl
  | cons segment rest =>
    obtain ⟨first, others⟩ := List.forall_mem_cons.mp closed
    rw [text_cons, Text.pieces, if_pos rfl, pieces_behind first others, List.map_cons]

theorem ends_text {special : Bool} {segments : List String}
    (closed : ∀ x ∈ segments, Closed special x) :
    ∀ c ∈ (Path.segments segments).text.toList, endsPath c = false := by
  induction segments with
  | nil => exact nofun
  | cons segment rest ih =>
    obtain ⟨first, others⟩ := List.forall_mem_cons.mp closed
    rw [text_cons, List.forall_mem_cons, List.forall_mem_append]
    exact ⟨rfl, fun c member => (first c member).2, ih others⟩

theorem web_special {scheme : String} (web : scheme = "http" ∨ scheme = "https") :
    isSpecial scheme = true ∧ scheme ≠ "file" := by
  rcases web with rfl | rfl <;> decide

/-- The segments of the address of a web service with pieces put behind them. -/
theorem extend_web {s : String} {base : Url} (read : ofText s = .ok base)
    (web : base.scheme = "http" ∨ base.scheme = "https") {pieces : List String}
    (given : pieces ≠ []) :
    ∃ own segments, base.path = .segments own ∧
      base.extend? pieces = some { base with path := .segments segments } ∧
      (∀ x ∈ segments, Closed true x) ∧
      segments.length ≤ (kept own).length + pieces.length ∧
      (Appended true own pieces segments ↔ Fits own pieces) := by
  obtain ⟨special, notFile⟩ := web_special web
  obtain ⟨rest, path⟩ := ofText_path read special notFile
  obtain ⟨own, same, closed⟩ := pathAfter_closed notFile rest
  rw [special] at closed
  have start : ∀ x ∈ popIfEmpty own, Closed true x :=
    fun x member => closed x (popIfEmpty_subset own member)
  refine ⟨own, _, path.trans same, ?_, closed_foldl notFile pieces start, ?_,
    appended_iff notFile given⟩
  · rw [extend?, path.trans same, special]
  · have most := foldl_length_le true notFile (popIfEmpty own) given
    have fewer := standing_length_le (kept own)
    rw [standing_popIfEmpty] at most
    omega

end Url

end Pager
