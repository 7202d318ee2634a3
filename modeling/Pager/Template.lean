import Pager.Text.Blank

namespace Pager.Template

def isNameStart (c : Char) : Bool :=
  c.isAlpha || c == '_'

def isNameChar (c : Char) : Bool :=
  c.isAlphanum || c == '_'

/-- The identifier the text begins with, and the rest. -/
def identifier? : List Char → Option (List Char × List Char)
  | [] => none
  | c :: cs =>
    if isNameStart c then some (c :: cs.takeWhile isNameChar, cs.dropWhile isNameChar) else none

theorem identifier?_length {s name rest : List Char} (found : identifier? s = some (name, rest)) :
    rest.length < s.length := by
  cases s with
  | nil => simp [identifier?] at found
  | cons c cs =>
    rw [identifier?] at found
    split at found
    · simp only [Option.some.injEq, Prod.mk.injEq] at found
      have shorter := (List.dropWhile_suffix isNameChar (l := cs)).length_le
      rw [found.2] at shorter
      simp only [List.length_cons]
      omega
    · simp at found

/-- The identifiers that follow, each with its dot in front, and the rest. -/
def dotted (s : List Char) : List Char × List Char :=
  match s with
  | '.' :: cs =>
    match _found : identifier? cs with
    | some (name, rest) =>
      let (names, rest') := dotted rest
      ('.' :: name ++ names, rest')
    | none => ([], s)
  | _ => ([], s)
  termination_by s.length
  decreasing_by
    have shorter := identifier?_length _found
    simp only [List.length_cons]
    omega

theorem dotted_length_le (s : List Char) : (dotted s).2.length ≤ s.length := by
  fun_induction dotted s with
  | case1 cs name rest found names rest' step ih =>
    have shorter := identifier?_length found
    simp only [step] at ih
    simp only [List.length_cons]
    omega
  | case2 => simp
  | case3 => simp

/-- The variable's name the text begins with, identifiers with single dots between them, and the
rest. -/
def name? (s : List Char) : Option (List Char × List Char) :=
  (identifier? s).map fun (first, rest) =>
    let (more, rest) := dotted rest
    (first ++ more, rest)

def closing? : List Char → Option (List Char)
  | '}' :: '}' :: rest => some rest
  | _ => none

/-- The placeholder the text begins with, two opening braces, a name and two closing braces with
blanks around the name or none: its variable's name and what follows it. -/
def placeholder? : List Char → Option (List Char × List Char)
  | '{' :: '{' :: inside =>
    match name? (Text.trimLeft inside) with
    | some (name, rest) => (closing? (Text.trimLeft rest)).map fun after => (name, after)
    | none => none
  | _ => none

theorem trimLeft_length_le (s : List Char) : (Text.trimLeft s).length ≤ s.length :=
  (List.dropWhile_suffix _).length_le

theorem closing?_length {s rest : List Char} (found : closing? s = some rest) :
    rest.length < s.length := by
  unfold closing? at found
  split at found
  · simp only [Option.some.injEq] at found
    simp only [found, List.length_cons]
    omega
  · simp at found

theorem name?_length {s name rest : List Char} (found : name? s = some (name, rest)) :
    rest.length < s.length := by
  simp only [name?, Option.map_eq_some_iff, Prod.exists] at found
  obtain ⟨first, after, first_found, whole⟩ := found
  have shorter := identifier?_length first_found
  have bounded := dotted_length_le after
  simp only [Prod.mk.injEq] at whole
  rw [whole.2] at bounded
  omega

theorem placeholder?_length {s name rest : List Char} (found : placeholder? s = some (name, rest)) :
    rest.length < s.length := by
  unfold placeholder? at found
  split at found
  · next inside =>
    split at found
    · next name' after inner =>
      simp only [Option.map_eq_some_iff, Prod.mk.injEq] at found
      obtain ⟨rest', closed, _, same⟩ := found
      have a := closing?_length closed
      have b := name?_length inner
      have c := trimLeft_length_le inside
      have d := trimLeft_length_le after
      subst same
      simp only [List.length_cons]
      omega
    · simp at found
  · simp at found

/-- A part of a template: a character that stands for itself, or a placeholder as it is written
with the name of its variable. -/
inductive Piece
  | char (c : Char)
  | variable (source name : List Char)
  deriving DecidableEq, Repr

/-- The template's pieces in the order of the text. Placeholders are found from left to right and
never overlap. -/
def scan (s : List Char) : List Piece :=
  match s with
  | [] => []
  | c :: cs =>
    match found : placeholder? (c :: cs) with
    | some (name, rest) =>
      .variable ((c :: cs).take (cs.length + 1 - rest.length)) name :: scan rest
    | none => .char c :: scan cs
  termination_by s.length
  decreasing_by
    · exact placeholder?_length found
    · simp

def Piece.name? : Piece → Option String
  | .char _ => none
  | .variable _ name => some (String.ofList name)

/-- The names of the variables, in the order of their placeholders. -/
def variableNames (template : String) : List String :=
  (scan template.toList).filterMap Piece.name?

def hasVariables (template : String) : Bool :=
  (scan template.toList).any fun piece => piece.name?.isSome

end Pager.Template
