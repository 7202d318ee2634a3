import Pager.Proofs.Json.Writer
import Pager.Proofs.Template.Scan
import Pager.Proofs.Template.Substitution

namespace Pager.Template

/-- A placeholder as it is written, with the name in it: two braces on either side, and blanks around
the name or none. -/
structure IsPlaceholder (source name : List Char) : Prop where
  named : isName name = true
  written : ∃ left right, (∀ c ∈ left, Text.isBlank c = true) ∧ (∀ c ∈ right, Text.isBlank c = true) ∧
    source = '{' :: '{' :: (left ++ (name ++ (right ++ ['}', '}'])))

/-- The readings of a text from its left end. A character stands for itself only where no placeholder
begins. -/
inductive Reads : List Char → List Piece → Prop
  | done : Reads [] []
  | placeholder {source name rest : List Char} {pieces : List Piece} :
      IsPlaceholder source name → Reads rest pieces →
      Reads (source ++ rest) (.variable source name :: pieces)
  | char {c : Char} {rest : List Char} {pieces : List Piece} :
      (∀ source name after, IsPlaceholder source name → source ++ after ≠ c :: rest) →
      Reads rest pieces → Reads (c :: rest) (.char c :: pieces)

theorem closing?_eq_some_iff {s rest : List Char} :
    closing? s = some rest ↔ s = '}' :: '}' :: rest := by
  unfold closing?
  split
  · simp
  · next other => simpa using fun same => other rest same

/-- The blanks at the front of a text, and what is behind them. -/
theorem blanks_trimLeft (s : List Char) :
    ∃ blanks, (∀ c ∈ blanks, Text.isBlank c = true) ∧ s = blanks ++ Text.trimLeft s := by
  refine ⟨s.takeWhile Text.isBlank, fun c member => ?_, ?_⟩
  · exact List.all_eq_true.mp List.all_takeWhile c member
  · rw [Text.trimLeft, List.takeWhile_append_dropWhile]

/-- What is read as a placeholder is one, and every placeholder at the front of a text is read. -/
theorem placeholder?_eq_some_iff {s name rest : List Char} :
    placeholder? s = some (name, rest) ↔ ∃ source, IsPlaceholder source name ∧ s = source ++ rest := by
  constructor
  · intro found
    by_cases opens : ∃ inside, s = '{' :: '{' :: inside
    · obtain ⟨inside, rfl⟩ := opens
      rw [placeholder?_braces] at found
      simp only [Option.bind_eq_some_iff, Option.map_eq_some_iff, Prod.exists, Prod.mk.injEq] at found
      obtain ⟨_, behind, read, _, closed, rfl, rfl⟩ := found
      obtain ⟨named, inner⟩ := name?_eq_some read
      have braces := closing?_eq_some_iff.mp closed
      obtain ⟨left, before, front⟩ := blanks_trimLeft inside
      obtain ⟨right, after, back⟩ := blanks_trimLeft behind
      refine ⟨_, ⟨named, left, right, before, after, rfl⟩, ?_⟩
      rw [front, inner, back, braces]
      simp
    · rw [placeholder?_plain (not_exists.mp opens)] at found
      cases found
  · rintro ⟨_, ⟨named, left, right, before, after, rfl⟩, rfl⟩
    simpa using placeholder?_written before named after rest

theorem IsPlaceholder.begins {source name : List Char} (is : IsPlaceholder source name) :
    ∃ rest, source = '{' :: rest := by
  obtain ⟨_, _, _, _, _, rfl⟩ := is
  exact ⟨_, rfl⟩

/-- A placeholder at the front is the first piece. -/
theorem scan_placeholder {source name : List Char} (is : IsPlaceholder source name)
    (rest : List Char) : scan (source ++ rest) = .variable source name :: scan rest := by
  have found : placeholder? (source ++ rest) = some (name, rest) :=
    placeholder?_eq_some_iff.mpr ⟨source, is, rfl⟩
  obtain ⟨more, rfl⟩ := is.begins
  rw [List.cons_append] at found ⊢
  have length : (more ++ rest).length + 1 - rest.length = ('{' :: more).length := by
    simp only [List.length_append, List.length_cons]
    omega
  rw [scan_cons, found]
  dsimp only
  rw [length, ← List.cons_append, List.take_left]

theorem scan_char {c : Char} {rest : List Char}
    (plain : ∀ source name after, IsPlaceholder source name → source ++ after ≠ c :: rest) :
    scan (c :: rest) = .char c :: scan rest := by
  have unread : placeholder? (c :: rest) = none := by
    refine Option.eq_none_iff_forall_ne_some.mpr fun (name, after) found => ?_
    obtain ⟨source, is, same⟩ := placeholder?_eq_some_iff.mp found
    exact plain source name after is same.symm
  rw [scan_cons, unread]

theorem reads_scan (s : List Char) : Reads s (scan s) := by
  induction length : s.length using Nat.strongRecOn generalizing s with
  | ind n ih =>
    cases s with
    | nil =>
      rw [scan_nil]
      exact .done
    | cons c cs =>
      cases found : placeholder? (c :: cs) with
      | some read =>
        obtain ⟨name, rest⟩ := read
        have shorter := placeholder?_length found
        obtain ⟨source, is, same⟩ := placeholder?_eq_some_iff.mp found
        rw [same, scan_placeholder is]
        exact .placeholder is (ih _ (length ▸ shorter) rest rfl)
      | none =>
        have plain : ∀ source name after, IsPlaceholder source name → source ++ after ≠ c :: cs := by
          intro source name after is same
          have read := placeholder?_eq_some_iff.mpr ⟨source, is, same.symm⟩
          rw [found] at read
          cases read
        rw [scan_char plain]
        exact .char plain (ih _ (by simp [← length]) cs rfl)

/-- The pieces of a text are its only reading. -/
theorem reads_iff {s : List Char} {pieces : List Piece} : Reads s pieces ↔ pieces = scan s := by
  constructor
  · intro reads
    induction reads with
    | done => exact scan_nil.symm
    | placeholder is _ ih => rw [scan_placeholder is, ← ih]
    | char plain _ ih => rw [scan_char plain, ← ih]
  · rintro rfl
    exact reads_scan s

/-- Without placeholders a text is read as its characters. -/
theorem text_of_nameless (ctx : Context) {s : List Char} {pieces : List Piece} (reads : Reads s pieces)
    (nameless : pieces.filterMap Piece.name? = []) : pieces.flatMap (Piece.text ctx) = s := by
  induction reads with
  | done => rfl
  | placeholder => cases nameless
  | char _ _ ih => exact congrArg (_ :: ·) (ih nameless)

/-- How each kind of value reads inside a text: a text as it is, and of the others all but null as on one
line of JSON. -/
theorem valueText_kinds :
    (∀ s, valueText (.text s) = s) ∧ valueText .null = "" ∧
    valueText (.bool true) = "true" ∧ valueText (.bool false) = "false" ∧
    (∀ i, valueText (.number (.whole i)) = toString i) ∧
    (∀ x, valueText (.number (.double x)) = String.ofList (Decimal.doubleText x)) ∧
    (∀ items, valueText (.list items) = "[" ++ ",".intercalate (items.map Json.toText) ++ "]") ∧
    ∀ fields, valueText (.object fields) = "\x7b" ++ ",".intercalate (fields.map fun field =>
      (Json.text field.1).toText ++ ":" ++ field.2.toText) ++ "\x7d" :=
  ⟨fun _ => rfl, rfl, rfl, rfl, Json.toText_whole, fun _ => rfl, Json.toText_list, Json.toText_object⟩

theorem hasVariables_iff (template : String) :
    hasVariables template = true ↔ variableNames template ≠ [] := by
  rw [hasVariables, variableNames, List.any_eq_true, ne_eq, List.filterMap_eq_nil_iff]
  simp [Option.isSome_iff_ne_none]

theorem render_error_iff {ctx : Context} {template : String} {fault : Fault} :
    render ctx template = .error fault ↔
      unresolved ctx template ≠ [] ∧ fault = .undefinedVariables (unresolved ctx template) := by
  rw [ne_eq, unresolved_eq_nil_iff, render_eq]
  by_cases resolves : Resolves ctx template
  · simp [resolves]
  · simp [resolves, eq_comm]

/-- Rendering is one exact pass over the only reading of a template. It succeeds exactly if every name
among the variables has a value, and gives the pieces of the reading in their order, each placeholder
replaced by the text of its value (`valueText_kinds` says it for each kind) and each other character
as it is, whatever the values are; and else it tells of the names without one, in order and with
repeats. A template has variables exactly if it names some, and one without is rendered as it is. -/
theorem render_reading (ctx : Context) (template : String) :
    ∃ pieces, (∀ other, Reads template.toList other ↔ other = pieces) ∧
      variableNames template = pieces.filterMap Piece.name? ∧
      (∀ s, render ctx template = .ok s ↔
        (∀ name ∈ variableNames template, ∃ value, ctx.get name = some value) ∧
          s = String.ofList (pieces.flatMap (Piece.text ctx))) ∧
      (let undefined := (variableNames template).filter fun name => (ctx.get name).isNone
        ∀ fault, render ctx template = .error fault ↔
          undefined ≠ [] ∧ fault = .undefinedVariables undefined ∧
            fault.message = "Undefined variable in template: " ++ String.intercalate ", " undefined) ∧
      (hasVariables template = true ↔ variableNames template ≠ []) ∧
      (hasVariables template = false → render ctx template = .ok template) := by
  refine ⟨scan template.toList, fun _ => reads_iff, rfl, fun s => ?_, fun fault => ?_,
    hasVariables_iff template, fun plain => ?_⟩
  · rw [render_ok_iff, Resolves, substitute, eq_comm (a := s)]
    simp only [Option.isSome_iff_exists]
  · rw [render_error_iff]
    constructor
    · rintro ⟨lacking, rfl⟩
      exact ⟨lacking, rfl, rfl⟩
    · rintro ⟨lacking, same, _⟩
      exact ⟨lacking, same⟩
  · have nameless : variableNames template = [] :=
      Decidable.not_not.mp (mt (hasVariables_iff template).mpr (by simp [plain]))
    have same := text_of_nameless ctx (reads_scan template.toList) nameless
    rw [render_ok_iff, Resolves, nameless, substitute, same, String.ofList_toList]
    exact ⟨fun _ member => absurd member List.not_mem_nil, rfl⟩

/-- Braces that open no placeholder stay, and so does a value that looks like one. -/
example :
    (render ⟨.object [("a", .text "\x7b\x7b params.a \x7d\x7d")], none⟩
      "\x7b\x7b\x7bparams.a\x7d\x7d\x7d\x7b\x7b").toOption =
        some "\x7b\x7b\x7b params.a \x7d\x7d\x7d\x7b\x7b" := by decide +kernel

end Pager.Template
