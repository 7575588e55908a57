import MeteredRelay.CommandLine.Page
import MeteredRelay.Net.Address
import MeteredRelay.Text.Lines

/-!
# Requests on the command line

The arguments of the program are flags, some with values, and a command with flags of its own.  A
flag has a long name and mostly a letter.  Its value is the next argument, or follows the name after
an equals sign, or follows the letter at once.  Only addresses to listen on may be given more than
once.

Arguments are read in order (**`scan`**), and the first one that asks for help or for the version
settles the matter.  A value that is an argument of its own is looked at when the next flag is read,
so a bad one does not keep a command from showing its help.

**`Request.ofArguments`** is what all arguments together ask for.
-/

namespace MeteredRelay.CommandLine

/-- A flag. -/
inductive Flag where
  | config
  | listen
  | logLevel
  | output
  | help
  | version
deriving DecidableEq

/-- Whether a flag has a value. -/
def Flag.takesValue : Flag → Bool
  | .help | .version => false
  | _ => true

/-- The flags of a command, with their letters and long names. -/
abbrev Flags := List (Option Char × String × Flag)

/-- The flags of the program. -/
def programFlags : Flags :=
  [(some 'c', "config", .config), (some 'l', "listen", .listen), (none, "log-level", .logLevel),
    (some 'h', "help", .help), (some 'V', "version", .version)]

/-- The flags of a command. -/
def commandFlags (command : String) : Flags :=
  if command = "keygen" then [(some 'o', "output", .output), (some 'h', "help", .help)]
  else [(some 'h', "help", .help)]

/-- The commands. -/
def commands : List String := ["run", "keygen", "cookie-key", "help"]

/-! ## Single arguments -/

/-- What an argument is. -/
inductive Token where
  /-- A flag, and a value that is part of the same argument. -/
  | flag (f : Flag) (value : Option String)
  | word (s : String)
  /-- The end of all flags. -/
  | stop
  /-- A flag that nobody knows. -/
  | unknown

/-- What an argument is, where the given flags are known. -/
def Token.ofArgument (flags : Flags) (a : String) : Token :=
  match a.toList with
  | ['-', '-'] => .stop
  | '-' :: '-' :: r =>
    let (name, value) := match Text.cutAt '=' r with
      | some (name, value) => (name, some (String.ofList value))
      | none => (r, none)
    match flags.find? (·.2.1 = String.ofList name) with
    | some (_, _, f) => .flag f value
    | none => .unknown
  | '-' :: c :: r =>
    match flags.find? (·.1 = some c) with
    | none => .unknown
    | some (_, _, f) =>
      if !f.takesValue || r.isEmpty then .flag f none
      else .flag f (some (String.ofList (if r.head? = some '=' then r.tail else r)))
  | _ => .word a

/-! ## All arguments -/

/-- The values of flags. -/
structure Given where
  config : Option String := none
  listen : List SocketAddress := []
  logLevel : Option String := none
  output : Option String := none

/-- A flag with a value that was not looked at. -/
abbrev Pending := Option (Flag × String)

namespace Given

/-- A value that may be given once. -/
def once (present : Option String) (v : String) : Option (Option String) :=
  if present.isSome then none else some (some v)

/-- A path, which is not empty and may be given once. -/
def path (present : Option String) (v : String) : Option (Option String) :=
  if v.isEmpty then none else once present v

/-- The values with one more. -/
def set (g : Given) (v : String) : Flag → Option Given
  | .config => (path g.config v).map fun c => { g with config := c }
  | .listen => (SocketAddress.ofText? v).map fun a => { g with listen := g.listen ++ [a] }
  | .logLevel => (once g.logLevel v).map fun l => { g with logLevel := l }
  | .output => (path g.output v).map fun o => { g with output := o }
  | .help | .version => none

/-- The values with the one that was not looked at. -/
def settle (g : Given) : Pending → Option Given
  | none => some g
  | some (f, v) => g.set v f

end Given

/-- How the reading of arguments ends. -/
inductive Scan where
  | refused
  | help
  | version
  /-- All arguments were read. -/
  | done (g : Given)
  /-- A command follows. -/
  | command (name : String) (rest : List String) (g : Given) (p : Pending)

/-- Reads arguments in order, after those that gave `g` and `p`. -/
def scan (flags : Flags) (commands : List String) (g : Given) (p : Pending) : List String → Scan
  | [] => (g.settle p).elim .refused .done
  | a :: rest =>
    match Token.ofArgument flags a with
    | .unknown => .refused
    | .stop => if rest.isEmpty then (g.settle p).elim .refused .done else .refused
    | .word w => if commands.contains w then .command w rest g p else .refused
    | .flag .help none => (g.settle p).elim .refused fun _ => .help
    | .flag .version none => (g.settle p).elim .refused fun _ => .version
    | .flag f (some v) =>
      match (g.settle p).bind (·.set v f) with
      | none => .refused
      | some g => scan flags commands g none rest
    | .flag f none =>
      match g.settle p, rest with
      | some g, v :: rest =>
        match Token.ofArgument flags v with
        | .word v => scan flags commands g (some (f, v)) rest
        | _ => .refused
      | _, _ => .refused
termination_by args => args.length

/-- What the program is to do. -/
inductive Task where
  | run
  /-- Make a key pair and store it. -/
  | keygen (output : String)
  | cookieKey
deriving DecidableEq

/-- What the arguments ask for. -/
inductive Request where
  /-- The arguments make no sense. -/
  | refused
  | help (page : Page)
  | version
  | work (g : Given) (t : Task)

namespace Request

/-- The task of a command with the values of its flags. -/
def taskOf? (command : String) (g : Given) : Option Task :=
  match command with
  | "keygen" => g.output.map .keygen
  | "cookie-key" => some .cookieKey
  | _ => some .run

/-- The page that is asked for by naming commands. -/
def helpOn : List String → Request
  | [] => .help .program
  | [name] => (Page.ofCommand? name).elim .refused .help
  | _ => .refused

/-- What a command with its arguments asks for. -/
def ofCommand (name : String) (arguments : List String) (g : Given) (p : Pending) : Request :=
  if name = "help" then helpOn arguments
  else
    match scan (commandFlags name) [] {} none arguments with
    | .help => (Page.ofCommand? name).elim .refused .help
    | .done own =>
      match g.settle p, taskOf? name own with
      | some g, some t => .work g t
      | _, _ => .refused
    | _ => .refused

/-- What the arguments of the program ask for. -/
def ofArguments (arguments : List String) : Request :=
  match scan programFlags commands {} none arguments with
  | .refused => .refused
  | .help => .help .program
  | .version => .version
  | .done g => .work g .run
  | .command name rest g p => ofCommand name rest g p

end Request

end MeteredRelay.CommandLine
