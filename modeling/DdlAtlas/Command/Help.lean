import DdlAtlas.Text.Basic

/-! What the command line says about itself: how the program and each of its tasks is called, and what its
words mean. -/

namespace DdlAtlas.Command

inductive Topic
  | program
  | list
  | parse
  | context
  | warnings
  | serve
deriving DecidableEq, Repr

namespace Topic

def tasks : List Topic :=
  [.list, .parse, .context, .warnings, .serve]

def name : Topic → Text
  | .program => "schemascope"
  | .list => "list"
  | .parse => "parse"
  | .context => "context"
  | .warnings => "warnings"
  | .serve => "serve"

def call (t : Topic) : Text :=
  if t = .program then t.name else .concat [Topic.program.name, " ", t.name]

end Topic

def helpRow (margin column : Nat) (word meaning : Text) : Text :=
  List.replicate margin ' ' ++ Text.padRight (column - margin) word ++ meaning

def helpOption (column : Nat) : Text :=
  helpRow 2 column "-h, --help" "show this help message and exit"

def targetRow : Text :=
  helpRow 2 14 "target" "Schema name in the folder, or a path to a .sql file"

def targetHelp (name : Text) : List Text :=
  [.concat ["usage: schemascope ", name, " [-h] target"], [],
    "positional arguments:", targetRow, [],
    "options:", helpOption 14]

def programHelp : List Text :=
  let task := helpRow 4 24
  ["usage: schemascope [-h] [--config CONFIG] [-v]",
    "                   \x7blist,parse,context,warnings,serve\x7d ...", [],
    "schemascope - explore SQL schema files and their RLS policies", [],
    "positional arguments:",
    "  \x7blist,parse,context,warnings,serve\x7d",
    task "list" "List schema files in the configured folder",
    task "parse" "Parse a schema file and print its tables",
    task "context" "Print the schema as chat context text",
    task "warnings" "Show schema warnings",
    task "serve" "Run the HTTP API", [],
    "options:", helpOption 24,
    helpRow 2 24 "--config CONFIG" "Path to configuration YAML file",
    helpRow 2 24 "-v, --verbose" "Enable debug logging"]

def Topic.help : Topic → List Text
  | .program => programHelp
  | .list => ["usage: schemascope list [-h]", [], "options:", helpOption 14]
  | .parse =>
    ["usage: schemascope parse [-h] [--json] target", [],
      "positional arguments:", targetRow, [],
      "options:", helpOption 14,
      helpRow 2 14 "--json" "Print the full model as JSON"]
  | .context => targetHelp "context"
  | .warnings => targetHelp "warnings"
  | .serve =>
    ["usage: schemascope serve [-h] [--host HOST] [--port PORT]", [],
      "options:", helpOption 15,
      helpRow 2 15 "--host HOST" "Bind address (overrides config)",
      helpRow 2 15 "--port PORT" "Bind port (overrides config)"]

def Topic.helpText (t : Topic) : Text :=
  Text.concat (t.help.map (· ++ ['\n']))

def Topic.usage (t : Topic) : Text :=
  Text.concat ((t.help.takeWhile (· != [])).map (· ++ ['\n']))

end DdlAtlas.Command
