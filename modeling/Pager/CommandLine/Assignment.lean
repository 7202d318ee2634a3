import Pager.Fault
import Pager.Text.Blank

namespace Pager.CommandLine

/-- The name, without blanks around it, and the value of an assignment; the first equals sign stands
between them. -/
def assignment (s : String) : Except Fault (String × String) :=
  match Text.cutAt '=' s.toList with
  | none => .error (.invalidArgument "param" s!"'{s}' is not NAME=VALUE")
  | some (name, value) =>
    let name := Text.trim (String.ofList name)
    if name = "" then .error (.invalidArgument "param" s!"'{s}' has an empty name")
    else .ok (name, String.ofList value)

/-- The assignments in order, up to the first that is none. -/
def assignments : List String → Except Fault (List (String × String))
  | [] => .ok []
  | s :: rest =>
    match assignment s with
    | .error fault => .error fault
    | .ok pair => (assignments rest).map (pair :: ·)

end Pager.CommandLine
