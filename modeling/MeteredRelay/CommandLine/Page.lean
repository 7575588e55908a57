import MeteredRelay.Text.Lines

/-!
# Pages of help

What the program says about itself and its commands.
-/

namespace MeteredRelay.CommandLine

/-- What a page of help is about. -/
inductive Page where
  | program
  | run
  | keygen
  | cookieKey
  | help
deriving DecidableEq

namespace Page

/-- The page of a command. -/
def ofCommand? : String → Option Page
  | "run" => some run
  | "keygen" => some keygen
  | "cookie-key" => some cookieKey
  | "help" => some help
  | _ => none

/-- What the page is about, in a line. -/
def summary : Page → String
  | program => "Command-line interface for the RTDT relay server"
  | run => "Run the relay (default)"
  | keygen => "Generate a KEM keypair for transport encryption"
  | cookieKey => "Print a random cookie key"
  | help => "Print this message or the help of the given subcommand(s)"

/-- How to call what the page is about. -/
def usage : Page → String
  | program => "rtdt-server [OPTIONS] [COMMAND]"
  | run => "rtdt-server run"
  | keygen => "rtdt-server keygen --output <OUTPUT>"
  | cookieKey => "rtdt-server cookie-key"
  | help => "rtdt-server help [COMMAND]..."

/-- What may be given, each line with its explanation, under headings. -/
def parts : Page → List (String × List (String × String))
  | program =>
    [("Commands", [("run", run.summary), ("keygen", keygen.summary),
        ("cookie-key", cookieKey.summary), ("help", help.summary)]),
      ("Options",
        [("-c, --config <CONFIG>", "Configuration file path"),
          ("-l, --listen <LISTEN>", "Listen address (repeatable), overrides the config file"),
          ("    --log-level <LOG_LEVEL>", "Log level, overrides the config file and RUST_LOG"),
          ("-h, --help", "Print help"),
          ("-V, --version", "Print version")])]
  | keygen =>
    [("Options", [("-o, --output <OUTPUT>", "Output file for the private key"),
        ("-h, --help", "Print help")])]
  | help => [("Arguments", [("[COMMAND]...", "Print help for the subcommand(s)")])]
  | run | cookieKey => [("Options", [("-h, --help", "Print help")])]

/-- Lines of two columns, the second one of which starts at the same place in all. -/
def columns (lines : List (String × String)) : String :=
  let width := (lines.map fun l => l.1.length).foldl max 0
  String.join (lines.map fun (a, b) => s!"  {Text.padEnd width a}  {b}\n")

/-- The text of a page. -/
def text (p : Page) : String :=
  let part := fun (heading, lines) => s!"\n{heading}:\n" ++ columns lines
  s!"{p.summary}\n\nUsage: {p.usage}\n" ++ String.join (p.parts.map part)

end Page

/-- The name and the version of the program. -/
def versionText : String := "rtdt-server 0.1.0\n"

/-- What is said about arguments that make no sense. -/
def refusalText : String :=
  s!"error: invalid arguments\n\nUsage: {Page.program.usage}\n\nFor more information, try '--help'.\n"

end MeteredRelay.CommandLine
