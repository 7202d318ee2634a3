import Pager.Bucket.Basic

namespace Pager

/-- How documents are written to the standard output. -/
inductive Format
  | json
  | pretty
  deriving DecidableEq, Repr

def Format.name : Format → String
  | .json => "Json"
  | .pretty => "Pretty"

namespace CommandLine

/-- What all commands that list have in common. -/
structure Paging where
  nextToken : Option String
  noAutoIteration : Bool
  select : Option String
  maxPages : Option Nat
  deriving DecidableEq, Repr

inductive Command
  | list (operation : String) (params : List String) (paging : Paging) (passThru : Bool)
  | operations
  | validate
  | bucket (filter : Bucket.Filter) (region endpointUrl : Option String) (paging : Paging)
  deriving DecidableEq, Repr

/-- Why the arguments name no command; asking for help counts among the reasons. -/
inductive Refusal
  | help
  | version
  | helpForNothing
  | missingCommand
  | unknownCommand
  | missingArgument
  | unknownArgument
  | badValue
  | malformedValue
  | repeatedArgument
  | needlessValue
  deriving DecidableEq, Repr

end CommandLine

structure CommandLine where
  definition : Option String
  format : Format
  verbose : Bool
  command : CommandLine.Command
  deriving DecidableEq, Repr

end Pager
