/-
  Starting the server.

  A start reads the file of variables, the command line and the variables, and checks the settings.
  It ends with help, with a complaint about the command line, with settings that are refused, or
  with a server that is ready to open its database.  `Launch.report` says what is printed and with
  which status the program ends.

  What follows a good start, from the connection to the database on, needs a network and is not
  part of this library.  Only a database address that cannot be one is found out here.
-/
import Gatehouse.CommandLine.Arguments
import Gatehouse.CommandLine.EnvFile
import Gatehouse.CommandLine.LogFilter

namespace Gatehouse.CommandLine

/-- The name of the program, under which it also writes its log. -/
def program : String := "egal_api_server"

/-- What the program is. -/
def summary : String := "Egaldeutsch authentication API server"

/-- What a start comes to. -/
inductive Launch where
  /-- Help was asked for. -/
  | help
  /-- The command line is wrong. -/
  | misused (m : Misuse)
  /-- The settings are refused. -/
  | refused (problem : ConfigProblem)
  /-- The server is ready. -/
  | ready (options : Options)
deriving DecidableEq, Repr

/-- What words and variables come to. -/
def Launch.ofWords (words : List String) (vars : Variables) : Launch :=
  match Options.read words vars with
  | .error .help => help
  | .error (.misuse m) => misused m
  | .ok options =>
    match options.config.tokens.check with
    | .error problem => refused problem
    | .ok _ => ready options

/-! ## What is printed -/

/-- The help on one option. -/
def Setting.help (s : Setting) : List String :=
  ["      " ++ s.label, "          " ++ s.purpose ++ " [env: " ++ s.source ++ "]"]

/-- The help on the program. -/
def helpLines : List String :=
  [summary, "", "Usage: " ++ program ++ " [OPTIONS] " ++ Setting.label .secret, "", "Options:"] ++
    Setting.all.flatMap Setting.help ++ ["  -h, --help", "          Print help"]

/-- A line of the log. -/
def logLine (level : LogLevel) (message : String) (fields : List (String × String)) : String :=
  " ".intercalate ((level.name ++ " " ++ program ++ ": " ++ message) ::
    fields.map fun field => field.1 ++ "=" ++ field.2)

/-- The line of the log, if the filter lets it through.  To the filter the message is a field. -/
def logged (filter : LogFilter) (level : LogLevel) (message : String)
    (fields : List (String × String)) : List String :=
  if filter.allows program level ("message" :: fields.map Prod.fst)
  then [logLine level message fields] else []

/-- The line of the log about refused settings. -/
def logRefused (filter : LogFilter) (problem : ConfigProblem) : List String :=
  logged filter .error "invalid configuration" [("error", problem.toError.message)]

/-- The line of the log about a server that starts. -/
def logStarting (filter : LogFilter) (o : Options) : List String :=
  logged filter .info ("starting " ++ program)
    [("bind_addr", o.config.bindAddress), ("max_connections", toString o.maxConnections),
      ("rate_limit", toString o.config.rateLimit),
      ("trust_proxy_headers", toString o.config.trustProxy)]

/-- Tells whether an address begins with a scheme: a letter, then letters, digits, plus and minus
signs and points, and then a colon. -/
def hasScheme (url : String) : Bool :=
  let isPart (c : Char) : Bool := c.isAlphanum || c == '+' || c == '-' || c == '.'
  url.toList.head?.any Char.isAlpha && (url.toList.dropWhile isPart).head? == some ':'

/-- What is wrong with the address of a database, as diagnostics show it. -/
def databaseProblem? (url : String) : Option String :=
  if hasScheme url then none else some "Configuration(RelativeUrlWithoutBase)"

/-- What the program prints, and the status with which it ends. -/
structure Report where
  /-- The status. -/
  exit : UInt32 := 0
  /-- The lines of the standard output. -/
  output : List String := []
  /-- The lines of the standard error output. -/
  errors : List String := []
deriving DecidableEq, Repr

/-- What the program prints after a start. -/
def Launch.report (filter : LogFilter) : Launch → Report
  | help => { output := helpLines }
  | misused m =>
    { exit := 2
      errors := ["error: " ++ m.message, "", "For more information, try '--help'."] }
  | refused problem =>
    { exit := 1
      errors := logRefused filter problem ++
        ["Error: Config(" ++ Text.quoted problem.message ++ ")"] }
  | ready o =>
    match databaseProblem? o.config.databaseUrl with
    | some problem => { exit := 1, errors := logStarting filter o ++ ["Error: " ++ problem] }
    | none => { errors := logStarting filter o }

/-- Starts the program: with its words, its environment, and the text of its file of variables. -/
def start (words : List String) (environment : Variables) (file : Option String) : Report :=
  let vars := match file with
    | some text => EnvFile.load text environment
    | none => environment
  (Launch.ofWords words vars).report (LogFilter.ofVariable (vars "RUST_LOG"))

end Gatehouse.CommandLine
