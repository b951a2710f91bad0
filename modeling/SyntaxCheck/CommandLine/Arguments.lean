/-!
# Arguments of the command line

* `Format`, `Command`, `Request` - what may be asked for;
* `Request.ofArguments` - what some arguments ask for.

Options may stand before and after the name of the command, and the one after it wins; in either place
an option may stand once. Behind `--` every argument is a file. The first argument that is wrong, or
that asks for the version or for help, decides.
-/

namespace SyntaxCheck

/-- The form of the output. -/
inductive Format
  | text | json
  deriving DecidableEq

/-- A format by its name. -/
def Format.ofName? (name : String) : Option Format :=
  if name = "text" then some .text else if name = "json" then some .json else none

/-- What to do with files. -/
inductive Command
  /-- Check files, of which there is at least one. -/
  | check (files : List String)
  /-- List the tokens of a file. -/
  | tokens (file : String)
  /-- Show the grouping of the expressions of a file. -/
  | trace (file : String)
  deriving DecidableEq

/-- What the arguments ask for. -/
inductive Request
  | run (format : Format) (command : Command)
  | version
  | help
  /-- Nothing that can be done. -/
  | misuse
  deriving DecidableEq

/-- The name of a command. -/
inductive CommandName
  | check | tokens | trace
  deriving DecidableEq

/-- A command by its name. -/
def CommandName.ofName? (name : String) : Option CommandName :=
  if name = "check" then some .check
  else if name = "tokens" then some .tokens
  else if name = "trace" then some .trace
  else none

/-- The command with a name for some files, if it takes so many. -/
def CommandName.apply? : CommandName → List String → Option Command
  | .check, file :: files => some (.check (file :: files))
  | .tokens, [file] => some (.tokens file)
  | .trace, [file] => some (.trace file)
  | _, _ => none

/-- How one argument is to be understood. -/
inductive Argument
  /-- The format follows as an argument of its own. -/
  | formatNext
  | format (name : String)
  | version
  | help
  /-- From here on there are only files. -/
  | filesOnly
  | unknownOption
  | plain
  deriving DecidableEq

/-- How an argument is to be understood. Short options may be run together; the first one decides. -/
def Argument.ofString (argument : String) : Argument :=
  if argument = "--" then .filesOnly
  else if argument = "--format" then .formatNext
  else if argument = "--version" then .version
  else if argument = "--help" then .help
  else
    match argument.toList with
    | '-' :: '-' :: 'f' :: 'o' :: 'r' :: 'm' :: 'a' :: 't' :: '=' :: name =>
      .format (String.ofList name)
    | '-' :: 'V' :: _ => .version
    | '-' :: 'h' :: _ => .help
    | '-' :: _ :: _ => .unknownOption
    | _ => .plain

namespace Request

/-- The request for a command, once all arguments are known. -/
def ofCommand (outer inner : Option Format) (name : CommandName) (files : List String) : Request :=
  match name.apply? files with
  | some command =>
    if files.all (· ≠ "") then .run ((inner.orElse fun _ => outer).getD .text) command else .misuse
  | none => .misuse

/-- The arguments behind the name of a command, after some files. -/
def ofRest (outer : Option Format) (name : CommandName) (inner : Option Format)
    (files : List String) : List String → Request
  | [] => ofCommand outer inner name files
  | argument :: rest =>
    match Argument.ofString argument with
    | .filesOnly => ofCommand outer inner name (files ++ rest)
    | .plain =>
      if argument = "" then .misuse else ofRest outer name inner (files ++ [argument]) rest
    | .format format =>
      match inner, Format.ofName? format with
      | none, some format => ofRest outer name (some format) files rest
      | _, _ => .misuse
    | .formatNext =>
      match inner, rest with
      | none, format :: rest =>
        match Format.ofName? format with
        | some format => ofRest outer name (some format) files rest
        | none => .misuse
      | _, _ => .misuse
    | .help => if name = .check ∨ files.length ≤ 1 then .help else .misuse
    | .version | .unknownOption => .misuse

/-- What the word `help` asks for, with the arguments behind it: help with everything, or with one
command, of which `help` itself is one. -/
def ofHelp : List String → Request
  | [] => .help
  | [topic] => if topic = "help" ∨ (CommandName.ofName? topic).isSome then .help else .misuse
  | _ => .misuse

/-- The arguments up to the name of a command. -/
def ofStart (outer : Option Format) : List String → Request
  | [] => .misuse
  | argument :: rest =>
    match Argument.ofString argument with
    | .version => .version
    | .help => .help
    | .format format =>
      match outer, Format.ofName? format with
      | none, some format => ofStart (some format) rest
      | _, _ => .misuse
    | .formatNext =>
      match outer, rest with
      | none, format :: rest =>
        match Format.ofName? format with
        | some format => ofStart (some format) rest
        | none => .misuse
      | _, _ => .misuse
    | .plain =>
      if argument = "help" then ofHelp rest
      else
        match CommandName.ofName? argument with
        | some name => ofRest outer name none [] rest
        | none => .misuse
    | .filesOnly | .unknownOption => .misuse

/-- What some arguments ask for. -/
def ofArguments (arguments : List String) : Request := ofStart none arguments

end Request

end SyntaxCheck
