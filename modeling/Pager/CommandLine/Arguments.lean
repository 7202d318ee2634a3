import Pager.CommandLine.Basic
import Pager.Text.Digits

namespace Pager.CommandLine

inductive Key
  | definition
  | format
  | verbose
  | help
  | version
  | param
  | nextToken
  | noAutoIteration
  | select
  | maxPages
  | passThru
  | bucket
  | keyPrefix
  | delimiter
  | maxKeys
  | region
  | endpointUrl
  /-- The plain word that names an operation. -/
  | operation
  deriving DecidableEq, Repr

inductive Scope
  | root
  | list
  | operations
  | validate
  | bucket
  deriving DecidableEq, Repr

namespace Scope

/-- The commands by name. -/
def commands : List (String × Scope) :=
  [("list", .list), ("operations", .operations), ("validate", .validate), ("s3", .bucket)]

/-- The keys of every scope. -/
def sharedKeys : List (String × Key) :=
  [("definition", .definition), ("format", .format), ("verbose", .verbose), ("help", .help)]

def pagingKeys : List (String × Key) :=
  [("next-token", .nextToken), ("no-auto-iteration", .noAutoIteration), ("select", .select),
   ("max-pages", .maxPages)]

/-- The long forms of a scope's keys. -/
def longKeys : Scope → List (String × Key)
  | .root => ("version", .version) :: sharedKeys
  | .list => ("param", .param) :: ("pass-thru", .passThru) :: pagingKeys ++ sharedKeys
  | .operations | .validate => sharedKeys
  | .bucket =>
    [("bucket", .bucket), ("prefix", .keyPrefix), ("delimiter", .delimiter), ("max-keys", .maxKeys),
     ("region", .region), ("endpoint-url", .endpointUrl)] ++ pagingKeys ++ sharedKeys

/-- The short forms of a scope's keys. -/
def shortKeys : Scope → List (Char × Key)
  | .root => ('V', .version) :: shared
  | .list => ('p', .param) :: shared
  | .operations | .validate | .bucket => shared
where
  shared : List (Char × Key) := [('d', .definition), ('f', .format), ('v', .verbose), ('h', .help)]

/-- The key that has to be there. -/
def required? : Scope → Option Key
  | .list => some .operation
  | .bucket => some .bucket
  | _ => none

end Scope

def Key.takesValue : Key → Bool
  | .verbose | .help | .version | .noAutoIteration | .passThru => false
  | _ => true

/-- Reads the value of an enumerated key. -/
def Format.ofText? (s : String) : Option Format :=
  if s = "json" then some .json else if s = "pretty" then some .pretty else none

/-- What is wrong with a value, if anything is. -/
def Key.refusal? (k : Key) (value : String) : Option Refusal :=
  match k with
  | .definition => if value = "" then some .badValue else none
  | .format => if (Format.ofText? value).isNone then some .badValue else none
  | .maxPages =>
    if (Text.natBelow? (Nat.pow 2 64) value.toList).isNone then some .malformedValue else none
  | .maxKeys =>
    if (Text.intWithin? 32 value.toList).isNone then some .malformedValue else none
  | _ => none

/-- The keys given so far, each with its value, the empty one for a key that takes none; and a key
whose value may still come, or has come and is not yet taken up. -/
structure Given where
  keys : List (Key × String)
  pending : Option (Key × Option String)
  deriving DecidableEq, Repr

namespace Given

def nothing : Given := ⟨[], none⟩

def has (g : Given) (k : Key) : Bool :=
  g.keys.any fun given => given.1 == k

def value? (g : Given) (k : Key) : Option String :=
  (g.keys.find? fun given => given.1 == k).map Prod.snd

/-- Takes a key with its value. Only a parameter may be given more than once. -/
def take (g : Given) (k : Key) (value : String) : Except Refusal Given :=
  if k != .param && g.has k then .error .repeatedArgument
  else match k.refusal? value with
    | some refusal => .error refusal
    | none => .ok { g with keys := g.keys ++ [(k, value)] }

/-- Takes up the key that is pending. -/
def settle (g : Given) : Except Refusal Given :=
  match g.pending with
  | none => .ok g
  | some (_, none) => .error .badValue
  | some (k, some value) => Given.take { g with pending := none } k value

/-- A key whose value is attached to it or that takes none. -/
def complete (g : Given) (k : Key) (value : String) : Except Refusal Given := do
  let g ← g.settle
  match k with
  | .help => .error .help
  | .version => .error .version
  | _ => g.take k value

/-- A key whose value comes with the next argument. -/
def await (g : Given) (k : Key) : Except Refusal Given := do
  let g ← g.settle
  .ok { g with pending := some (k, none) }

/-- The key whose value has not come yet. -/
def awaiting? (g : Given) : Option Key :=
  match g.pending with
  | some (k, none) => some k
  | _ => none

end Given

/-- An argument behind two dashes. -/
def readLong (scope : Scope) (g : Given) (s : List Char) : Except Refusal Given :=
  let (name, attached) := match Text.cutAt '=' s with
    | some (name, value) => (name, some (String.ofList value))
    | none => (s, none)
  match scope.longKeys.lookup (String.ofList name) with
  | none => .error .unknownArgument
  | some k =>
    match attached, k.takesValue with
    | some value, true => g.complete k value
    | some _, false => .error .needlessValue
    | none, true => g.await k
    | none, false => g.complete k ""

/-- Letters behind one dash: keys without values, up to one whose value is the rest. -/
def readShort (scope : Scope) (g : Given) : List Char → Except Refusal Given
  | [] => .ok g
  | c :: rest =>
    match scope.shortKeys.lookup c with
    | none => .error .unknownArgument
    | some k =>
      if k.takesValue then
        match rest with
        | [] => g.await k
        | '=' :: value => g.complete k (String.ofList value)
        | value => g.complete k (String.ofList value)
      else do readShort scope (← g.complete k "") rest

/-- A plain word: the operation's name, where one is wanted. -/
def readWord (scope : Scope) (behindDashes : Bool) (g : Given) (word : String) :
    Except Refusal Given :=
  match scope with
  | .root =>
    if behindDashes && (word = "help" || (Scope.commands.lookup word).isSome) then
      .error .unknownArgument
    else .error .unknownCommand
  | .list =>
    if g.has .operation || g.pending.any (·.1 == .operation) then .error .unknownArgument
    else do
      let g ← g.settle
      .ok { g with pending := some (.operation, some word) }
  | _ => .error .unknownArgument

/-- Help about the commands named one inside the other. -/
def readHelp : List String → Refusal
  | [] => .help
  | [name] =>
    if name = "help" || (Scope.commands.lookup name).isSome then .help else .unknownCommand
  | _ => .unknownCommand

/-- Reads the arguments of a scope; at the root they end at the name of a command, which comes with
what follows it. Behind `--` every argument is a plain word. A value in an argument of its own is
taken up only when the next argument has shown that it is complete, so that an unknown key is told
of before a value that is missing. -/
def read (scope : Scope) (behindDashes : Bool) (g : Given) :
    List String → Except Refusal (Given × Option (Scope × List String))
  | [] => .ok (g, none)
  | s :: rest =>
    if behindDashes then do read scope true (← readWord scope true g s) rest
    else if scope = .root && g.awaiting?.isNone && s = "help" then .error (readHelp rest)
    else
      let command? :=
        if scope = .root && g.awaiting?.isNone then Scope.commands.lookup s else none
      match command? with
      | some command => .ok (g, some (command, rest))
      | none =>
        match s.toList with
        | ['-', '-'] => read scope true g rest
        | '-' :: '-' :: long => do read scope false (← readLong scope g long) rest
        | '-' :: c :: short => do read scope false (← readShort scope g (c :: short)) rest
        | _ =>
          match g.awaiting? with
          | some k => read scope false { g with pending := some (k, some s) } rest
          | none => do read scope false (← readWord scope false g s) rest

/-- Reads the arguments of a command. -/
def readCommand (scope : Scope) (args : List String) : Except Refusal Given := do
  let (g, _) ← read scope false .nothing args
  let g ← g.settle
  match scope.required? with
  | some k => if g.has k then .ok g else .error .missingArgument
  | none => .ok g

def pagingOf (g : Given) : Paging where
  nextToken := g.value? .nextToken
  noAutoIteration := g.has .noAutoIteration
  select := g.value? .select
  maxPages := (g.value? .maxPages).bind fun s => Text.natBelow? (Nat.pow 2 64) s.toList

def commandOf (scope : Scope) (g : Given) : Command :=
  match scope with
  | .list =>
    .list ((g.value? .operation).getD "")
      ((g.keys.filter fun given => given.1 == .param).map Prod.snd) (pagingOf g) (g.has .passThru)
  | .operations => .operations
  | .bucket =>
    .bucket {
        bucket := (g.value? .bucket).getD ""
        keyPrefix := g.value? .keyPrefix
        delimiter := g.value? .delimiter
        maxKeys := (g.value? .maxKeys).bind fun s => Text.intWithin? 32 s.toList }
      (g.value? .region) (g.value? .endpointUrl) (pagingOf g)
  | .root | .validate => .validate

/-- The command line of a program's arguments. What is given behind a command's name counts before
what is given in front of it. -/
def ofArguments (args : List String) : Except Refusal CommandLine := do
  let (front, command) ← read .root false .nothing args
  match command with
  | none =>
    let front ← front.settle
    .error (if front.keys.isEmpty then .helpForNothing else .missingCommand)
  | some (scope, rest) =>
    let back ← readCommand scope rest
    let front ← front.settle
    let shared (k : Key) : Option String := (back.value? k).or (front.value? k)
    .ok {
      definition := shared .definition
      format := ((shared .format).bind Format.ofText?).getD .json
      verbose := (shared .verbose).isSome
      command := commandOf scope back }

end Pager.CommandLine
