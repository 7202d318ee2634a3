import Pager.Proofs.Template.Reading

namespace Pager.Template

/-- A stretch of a text that is read as a placeholder: the place of its first character, the place
behind its last one, and the name in it. -/
structure Occurrence where
  start : Nat
  stop : Nat
  name : String
  deriving DecidableEq, Repr

/-- The placeholders among pieces of which the first stands at a place. -/
def occurrencesFrom (place : Nat) : List Piece → List Occurrence
  | [] => []
  | .char _ :: rest => occurrencesFrom (place + 1) rest
  | .variable source name :: rest =>
    ⟨place, place + source.length, String.ofList name⟩ :: occurrencesFrom (place + source.length) rest

/-- The placeholders found in a template, in the order they are found. -/
def occurrences (template : String) : List Occurrence :=
  occurrencesFrom 0 (scan template.toList)

/-- A placeholder with the name of the occurrence is written at its place. -/
def Occurrence.Stands (o : Occurrence) (s : List Char) : Prop :=
  ∃ before source after, s = before ++ (source ++ after) ∧ IsPlaceholder source o.name.toList ∧
    o.start = before.length ∧ o.stop = before.length + source.length

theorem brace_not_mem_name {name : List Char} (is : isName name = true) : '{' ∉ name := by
  intro member
  obtain ⟨part, piece, inside⟩ := Text.exists_mem_pieces member (by decide : '{' ≠ '.')
  exact not_mem_identifier (isName_iff.mp is part piece) (by decide) inside

theorem brace_not_mem_blanks {blanks : List Char} (are : ∀ c ∈ blanks, Text.isBlank c = true) :
    '{' ∉ blanks := fun member => absurd (are '{' member) (by decide)

/-- Behind the two braces a placeholder opens with, there is something and no further one. -/
theorem IsPlaceholder.body {source name : List Char} (is : IsPlaceholder source name) :
    ∃ body, source = '{' :: '{' :: body ∧ '{' ∉ body ∧ body ≠ [] := by
  obtain ⟨named, left, right, before, after, rfl⟩ := is
  refine ⟨_, rfl, ?_, by simp⟩
  simp only [List.mem_append, not_or]
  exact ⟨brace_not_mem_blanks before, brace_not_mem_name named, brace_not_mem_blanks after, by decide⟩

/-- A placeholder that begins behind the first character of another one begins behind its end. -/
theorem IsPlaceholder.apart {source name source' name' before after rest : List Char}
    (is : IsPlaceholder source name) (is' : IsPlaceholder source' name')
    (same : source ++ rest = before ++ (source' ++ after)) (later : before ≠ []) :
    source.length ≤ before.length := by
  obtain ⟨body, rfl, free, filled⟩ := is.body
  obtain ⟨body', rfl, _, _⟩ := is'.body
  rcases List.append_eq_append_iff.mp same with ⟨between, rfl, _⟩ | ⟨inner, front, behind⟩
  · simp
  · match before, inner with
    | [], _ => exact absurd rfl later
    | _, [] => simp [front]
    | [_], d :: inner =>
      -- a third brace right behind the two
      simp only [List.cons_append, List.nil_append, List.cons.injEq] at front behind
      obtain ⟨-, -, rfl⟩ := front
      cases body with
      | nil => exact absurd rfl filled
      | cons c body =>
        have third := (List.cons.inj behind.2).1
        exact absurd (third ▸ List.mem_cons_self) free
    | _ :: _ :: before, d :: inner =>
      simp only [List.cons_append, List.cons.injEq] at front behind
      obtain ⟨-, -, rfl⟩ := front
      exact absurd (List.mem_append_right before (behind.1 ▸ List.mem_cons_self)) free

/-- At the front of a text there is one placeholder at most. -/
theorem IsPlaceholder.unique {source name source' name' rest rest' : List Char}
    (is : IsPlaceholder source name) (is' : IsPlaceholder source' name')
    (same : source ++ rest = source' ++ rest') : source = source' ∧ name = name' := by
  have read : placeholder? (source ++ rest) = some (name, rest) :=
    placeholder?_eq_some_iff.mpr ⟨source, is, rfl⟩
  have read' : placeholder? (source' ++ rest') = some (name', rest') :=
    placeholder?_eq_some_iff.mpr ⟨source', is', rfl⟩
  rw [same, read'] at read
  cases read
  exact ⟨List.append_cancel_right same, rfl⟩

theorem le_start_of_mem {pieces : List Piece} {place : Nat} {o : Occurrence}
    (member : o ∈ occurrencesFrom place pieces) : place ≤ o.start := by
  induction pieces generalizing place with
  | nil => cases member
  | cons piece rest ih =>
    cases piece with
    | char c =>
      have behind := ih member
      omega
    | «variable» source name =>
      rcases List.mem_cons.mp member with rfl | later
      · exact Nat.le_refl _
      · have behind := ih later
        omega

theorem occurrencesFrom_pairwise (place : Nat) (pieces : List Piece) :
    (occurrencesFrom place pieces).Pairwise fun a b => a.stop ≤ b.start := by
  induction pieces generalizing place with
  | nil => exact .nil
  | cons piece rest ih =>
    cases piece with
    | char c => exact ih _
    | «variable» source name => exact .cons (fun _ later => le_start_of_mem later) (ih _)

theorem map_name_occurrencesFrom (place : Nat) (pieces : List Piece) :
    (occurrencesFrom place pieces).map Occurrence.name = pieces.filterMap Piece.name? := by
  induction pieces generalizing place with
  | nil => rfl
  | cons piece rest ih =>
    cases piece with
    | char c => exact ih _
    | «variable» source name => exact congrArg (String.ofList name :: ·) (ih _)

/-- The occurrences of the reading of a text that follows another one are the placeholders that stand
in it; by the reading. -/
theorem mem_occurrencesFrom_iff {s : List Char} {pieces : List Piece} (reads : Reads s pieces)
    (front : List Char) (o : Occurrence) :
    o ∈ occurrencesFrom front.length pieces ↔ front.length ≤ o.start ∧ o.Stands (front ++ s) := by
  induction reads generalizing front with
  | done =>
    refine ⟨nofun, fun ⟨behind, before, source, after, same, is, start, _⟩ => ?_⟩
    obtain ⟨_, rfl⟩ := is.begins
    have length := congrArg List.length same
    simp only [List.length_append, List.length_cons, List.length_nil] at length
    omega
  | @placeholder source name rest pieces is _ ih =>
    have others := ih (front ++ source)
    rw [List.length_append, List.append_assoc] at others
    rw [occurrencesFrom, List.mem_cons, others]
    constructor
    · rintro (rfl | ⟨behind, stands⟩)
      · exact ⟨Nat.le_refl _, front, source, rest, rfl, by rwa [String.toList_ofList], rfl, rfl⟩
      · exact ⟨by omega, stands⟩
    · rintro ⟨behind, before, source', after, same, is', start, stop⟩
      rcases List.append_eq_append_iff.mp same with ⟨between, rfl, inside⟩ | ⟨between, rfl, inside⟩
      · cases between with
        | nil =>
          obtain ⟨rfl, rfl⟩ := is.unique is' inside
          obtain ⟨start', stop', name'⟩ := o
          simp only [List.append_nil] at start stop
          left
          rw [start, stop, String.ofList_toList]
        | cons d between =>
          have clear := is.apart is' inside (List.cons_ne_nil d between)
          refine .inr ⟨?_, _, source', after, same, is', start, stop⟩
          rw [start, List.length_append]
          omega
      · cases between with
        | nil =>
          obtain ⟨rfl, rfl⟩ := is'.unique is inside
          obtain ⟨start', stop', name'⟩ := o
          simp only [List.append_nil] at start stop ⊢
          left
          rw [start, stop, String.ofList_toList]
        | cons d between =>
          rw [List.length_append, List.length_cons] at behind
          omega
  | @char c rest pieces plain _ ih =>
    have others := ih (front ++ [c])
    rw [List.length_append, List.length_singleton, List.append_assoc, List.singleton_append] at others
    rw [occurrencesFrom, others]
    refine and_congr_left fun ⟨before, source, after, same, is, start, _⟩ => ⟨by omega, fun behind => ?_⟩
    refine Nat.lt_of_le_of_ne behind fun here => ?_
    have length : front.length = before.length := here.trans start
    obtain ⟨rfl, inside⟩ := List.append_inj same length
    exact plain source _ after is inside.symm

/-- Literals without an opening brace, with a placeholder between each two, and the names in the
placeholders. -/
inductive Alternates : List Char → List String → Prop
  | last {literal : List Char} : '{' ∉ literal → Alternates literal []
  | next {literal source rest : List Char} {name : String} {names : List String} :
      '{' ∉ literal → IsPlaceholder source name.toList → Alternates rest names →
      Alternates (literal ++ (source ++ rest)) (name :: names)

theorem namesIn_literal {literal : List Char} (free : '{' ∉ literal) (rest : List Char) :
    namesIn (literal ++ rest) = namesIn rest := by
  induction literal with
  | nil => rfl
  | cons c literal ih =>
    obtain ⟨other, free⟩ := not_or.mp (mt List.mem_cons.mpr free)
    have unread : placeholder? (c :: (literal ++ rest)) = none :=
      placeholder?_plain fun inside same => other (List.cons.inj same).1.symm
    rw [List.cons_append, namesIn_cons, unread]
    exact ih free

theorem namesIn_alternates {s : List Char} {names : List String} (alternates : Alternates s names) :
    namesIn s = names := by
  induction alternates with
  | last free => simpa using namesIn_literal free []
  | @next literal source rest name names free is _ ih =>
    rw [namesIn_literal free, namesIn, scan_placeholder is, List.filterMap_cons, ← namesIn, ih]
    simp [Piece.name?]

/-- The placeholders found in a template follow one another, each behind the end of the one before, and
they are exactly the stretches of the text that have the form of a placeholder, so that no further one
stands before, between or behind them, nor across any of them. The names of the variables are theirs, in
order. Of literals without an opening brace and placeholders in turn, the names are those written in the
placeholders. -/
theorem occurrences_exact (template : String) :
    (occurrences template).Pairwise (fun a b => a.stop ≤ b.start) ∧
      (∀ o, o ∈ occurrences template ↔ o.Stands template.toList) ∧
      variableNames template = (occurrences template).map Occurrence.name ∧
      (hasVariables template = true ↔ ∃ o : Occurrence, o.Stands template.toList) ∧
      ∀ names, Alternates template.toList names → variableNames template = names := by
  have members : ∀ o, o ∈ occurrences template ↔ o.Stands template.toList := fun o =>
    (mem_occurrencesFrom_iff (reads_scan template.toList) [] o).trans (and_iff_right (Nat.zero_le _))
  have names : variableNames template = (occurrences template).map Occurrence.name :=
    (map_name_occurrencesFrom 0 _).symm
  refine ⟨occurrencesFrom_pairwise 0 _, members, names, ?_, fun names' alternates => ?_⟩
  · rw [hasVariables_iff, names, ne_eq, List.map_eq_nil_iff]
    exact ⟨fun filled => (List.exists_mem_of_ne_nil _ filled).imp fun o => (members o).mp,
      fun ⟨o, stands⟩ => List.ne_nil_of_mem ((members o).mpr stands)⟩
  · rw [variableNames_eq, namesIn_alternates alternates]

/-- A path with a parameter in two of its segments. -/
def bucketPath : String :=
  "/\x7b\x7b params.Bucket \x7d\x7d/x-\x7b\x7bparams.Prefix\x7d\x7d"

/-- Its variables are those of the two placeholders it is written with. -/
theorem bucketPath_names : Alternates bucketPath.toList ["params.Bucket", "params.Prefix"] ∧
    variableNames bucketPath = ["params.Bucket", "params.Prefix"] := by
  have blank : ∀ c ∈ [' '], Text.isBlank c = true := List.forall_mem_singleton.mpr (by decide)
  have bucket : IsPlaceholder "\x7b\x7b params.Bucket \x7d\x7d".toList "params.Bucket".toList :=
    ⟨by decide, [' '], [' '], blank, blank, by decide⟩
  have narrow : IsPlaceholder "\x7b\x7bparams.Prefix\x7d\x7d".toList "params.Prefix".toList :=
    ⟨by decide, [], [], List.forall_mem_nil _, List.forall_mem_nil _, by decide⟩
  have alternates : Alternates bucketPath.toList ["params.Bucket", "params.Prefix"] :=
    .next (by decide : '{' ∉ ['/']) bucket
      (.next (by decide : '{' ∉ ['/', 'x', '-']) narrow (.last List.not_mem_nil))
  obtain ⟨_, _, _, _, named⟩ := occurrences_exact bucketPath
  exact ⟨alternates, named _ alternates⟩

/-- A third brace, a dot without an identifier behind it and braces inside others begin no placeholder,
and take none away. -/
example : occurrences "\x7b\x7b\x7b a \x7d\x7d\x7b\x7b b. \x7d\x7d\x7b\x7b \x7b\x7b c \x7d\x7d" =
    [⟨1, 8, "a"⟩, ⟨19, 26, "c"⟩] := by decide +kernel

end Pager.Template
