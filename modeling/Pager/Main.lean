import Pager.CommandLine.Arguments
import Pager.CommandLine.Run
import Pager.Definition.Templates

namespace Pager.CommandLine

def Refusal.text : Refusal → String
  | .help | .helpForNothing =>
    "Usage: pagewalk [OPTIONS] <COMMAND>\n\nCommands:\n  list        Run a list operation from "
      ++ "the definition file\n  operations  List the operations of the definition file\n"
      ++ "  validate    Validate the definition file\n  s3          List objects in an S3 bucket"
  | .version => "pagewalk 0.1.0"
  | .missingCommand => "error: a command is required"
  | .unknownCommand => "error: unrecognized command"
  | .missingArgument => "error: a required argument was not provided"
  | .unknownArgument => "error: unexpected argument found"
  | .badValue => "error: invalid value for an argument"
  | .malformedValue => "error: an argument's value cannot be read"
  | .repeatedArgument => "error: an argument cannot be used more than once"
  | .needlessValue => "error: an argument takes no value"

/-- Whether a refusal is the answer asked for. -/
def Refusal.isWanted : Refusal → Bool
  | .help | .version => true
  | _ => false

def fileFault : IO.Error → FileFault
  | .noFileOrDirectory .. => .missing
  | .inappropriateType _ _ details => if details = "not a directory" then .notFolder else .folder
  | .permissionDenied .. => .denied
  | .invalidArgument .. => .longName
  | _ => .missing

def readBytes (path : String) : IO (Except FileFault Text.Bytes) := do
  try
    return .ok (← IO.FS.readBinFile path).toList
  catch fault => return .error (fileFault fault)

/-- The variables that a definition asks for. -/
def environmentFor (bytes : Text.Bytes) : IO (Fields String) := do
  match (Text.ofBytes? bytes).map Definition.load with
  | some (.ok d) =>
    let pairs ← d.environmentNames.filterMapM fun name => do
      return (← IO.getEnv name).map fun value => (name, value)
    return Fields.ofPairs pairs
  | _ => return []

/-- Runs a command line and gives its exit code. Documents go to the standard output and everything
else to the standard error. There is no connection, so every request finds nobody listening. -/
def perform (c : CommandLine) : IO UInt32 := do
  let file ← readBytes (c.definition.getD "")
  let env ← match file with
    | .ok bytes => environmentFor bytes
    | .error _ => pure []
  match run ⟨fun _ => file, env.find?, Transport.unreachable, 1⟩ c () with
  | none => return 1
  | some report =>
    IO.print (Text.ofBytes report.output.written)
    for notice in report.notices do
      IO.eprintln s!"{notice.level} {notice.message}"
    match report.result with
    | .ok _ => return 0
    | .error fault =>
      IO.eprintln s!"Error: {fault.message}"
      return 1

end Pager.CommandLine

def main (args : List String) : IO UInt32 := do
  match Pager.CommandLine.ofArguments args with
  | .ok c => c.perform
  | .error refusal =>
    if refusal.isWanted then
      IO.println refusal.text
      return 0
    else
      IO.eprintln refusal.text
      return 2
