/-!
# Command line arguments

Options are written `--name value`, `--name=value`, `-n value`, `-nvalue` or `-n=value`.

- `Arguments`: what the options say.
- `Invocation`: what a command line asks for.
- `UsageError`: why a command line is refused, with its `message`.
- `Invocation.ofArguments`: the invocation of a command line.
-/

namespace UptimeMonitor

/-- What the options say. -/
structure Arguments where
  config : Option String := none
  seed : Option String := none
  once : Bool := false
  validate : Option String := none
deriving DecidableEq, Repr

/-- What a command line asks for. -/
inductive Invocation where
  | run (arguments : Arguments)
  | help
  | version
deriving DecidableEq, Repr

/-- Why a command line is refused. -/
inductive UsageError where
  | unexpected (argument : String)
  | missingValue (option : String)
  | unexpectedValue (value option : String)
  | repeated (option : String)
deriving DecidableEq, Repr

/-- The wording of an error. -/
def UsageError.message : UsageError → String
  | unexpected argument => s!"error: unexpected argument '{argument}' found"
  | missingValue option => s!"error: a value is required for '{option}' but none was supplied"
  | unexpectedValue value option => s!"error: unexpected value '{value}' for '{option}' found"
  | repeated option => s!"error: the argument '{option}' cannot be used multiple times"

/-- An option that takes a value. -/
inductive ValueOption where
  | config
  | seed
  | validate
deriving DecidableEq, Repr

namespace ValueOption

/-- The options with a value by their long names. -/
def named : List (List Char × ValueOption) :=
  [("config".toList, config), ("seed".toList, seed), ("validate".toList, validate)]

/-- The option with a long name. -/
def ofLong? (name : List Char) : Option ValueOption := named.lookup name

/-- The option with a short name. -/
def ofShort? : Char → Option ValueOption
  | 'c' => some config
  | 's' => some seed
  | _ => none

/-- The option as it is shown in messages. -/
def shown : ValueOption → String
  | config => "--config <CONFIG>"
  | seed => "--seed <SEED>"
  | validate => "--validate <SCRIPT>"

/-- The value of an option, if it has been given. -/
def get? (o : ValueOption) (a : Arguments) : Option String :=
  match o with
  | config => a.config
  | seed => a.seed
  | validate => a.validate

/-- The arguments with a value for an option. -/
def put (o : ValueOption) (a : Arguments) (value : String) : Arguments :=
  match o with
  | config => { a with config := some value }
  | seed => { a with seed := some value }
  | validate => { a with validate := some value }

/-- The arguments with a value for an option that has none yet. -/
def set (o : ValueOption) (a : Arguments) (value : String) : Except UsageError Arguments :=
  match o.get? a with
  | some _ => .error (.repeated o.shown)
  | none => .ok (o.put a value)

end ValueOption

/-- What one argument is. The value of an option may be part of the same argument. -/
inductive Word where
  | option (o : ValueOption) (value : Option (List Char))
  | once
  | help
  | version
  | terminator
  | flagValue (value flag : List Char)
  | other
deriving DecidableEq, Repr

namespace Word

/-- The flags by their long names. -/
def flags : List (List Char × Word) :=
  [("once".toList, once), ("help".toList, help), ("version".toList, version)]

/-- A long option without its dashes, split at the first equals sign. -/
def ofLong (body : List Char) : Word :=
  let name := body.takeWhile fun c => c != '='
  let value := match body.dropWhile fun c => c != '=' with
    | _ :: value => some value
    | [] => none
  match ValueOption.ofLong? name, flags.lookup name, value with
  | some o, _, value => .option o value
  | none, some flag, none => flag
  | none, some _, some value => .flagValue value ('-' :: '-' :: name)
  | none, none, _ => .other

/-- A short option and what stands behind it in the same argument. -/
def ofShort (c : Char) (rest : List Char) : Word :=
  match ValueOption.ofShort? c, rest with
  | some o, [] => .option o none
  -- one equals sign is no part of the value
  | some o, '=' :: value => .option o (some value)
  | some o, value => .option o (some value)
  | none, _ => if c = 'h' then .help else if c = 'V' then .version else .other

/-- What an argument is. A dash alone is no option. -/
def ofArgument (argument : String) : Word :=
  match argument.toList with
  | ['-', '-'] => .terminator
  | '-' :: '-' :: body => ofLong body
  | '-' :: c :: rest => ofShort c rest
  | _ => .other

/-- The argument can be the value of the option before it: it does not begin with a dash, or is no
more than one. -/
def isValue (argument : String) : Bool :=
  match argument.toList with
  | '-' :: _ :: _ => false
  | _ => true

end Word

namespace Invocation

/-- The invocation of arguments, where `a` stands for those before them. A request for help or for
the version holds whatever follows it. -/
def ofRest (a : Arguments) : List String → Except UsageError Invocation
  | [] => .ok (.run a)
  | argument :: rest =>
    match Word.ofArgument argument with
    | .help => .ok .help
    | .version => .ok .version
    | .once => if a.once then .error (.repeated "--once") else ofRest { a with once := true } rest
    | .flagValue value flag =>
      .error (.unexpectedValue (String.ofList value) (String.ofList flag))
    | .terminator =>
      match rest with
      | [] => .ok (.run a)
      -- behind the terminator there are no options, and nothing else is asked for
      | extra :: _ => .error (.unexpected extra)
    | .other => .error (.unexpected argument)
    | .option o (some value) =>
      match o.set a (String.ofList value) with
      | .ok a => ofRest a rest
      | .error e => .error e
    | .option o none =>
      match rest with
      | [] => .error (.missingValue o.shown)
      | value :: rest =>
        if Word.isValue value then
          match o.set a value with
          | .ok a => ofRest a rest
          | .error e => .error e
        else .error (.missingValue o.shown)

/-- The invocation of a command line. -/
def ofArguments (arguments : List String) : Except UsageError Invocation := ofRest {} arguments

end Invocation

end UptimeMonitor
