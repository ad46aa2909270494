import SchemaPipeline.Command.Invocation

/-!
# Help

The texts about the program and its commands.
-/

namespace SchemaPipeline.Command

def programName : String := "jsreg"

def versionText : String := programName ++ " 0.1.0"

/-- The options that every command has. -/
def sharedOptions : List (String × String) :=
  [("-v, --verbose...", "Enable verbose output. Repeat for more verbosity (-v, -vv, -vvv)"),
    ("    --log-json", "Emit log lines as JSON objects"),
    ("    --config <CONFIG>", "Registry configuration file (JSON or YAML). Defaults to " ++
      "JSREG_* environment variables"),
    ("-h, --help", "Print help")]

def validateOptions : List (String × String) :=
  [("-s, --schema <SCHEMA>", "Schema to validate against (JSON or YAML)"),
    ("    --no-defaults", "Do not insert default values before validation"),
    ("    --no-fill", "Do not add declared but absent properties after validation"),
    ("    --no-formats", "Do not enforce the format keyword"),
    ("    --draft <DRAFT>", "Force a schema draft instead of detecting it from $schema"),
    ("    --compact", "Print each result on a single line")]

def commandList : List (String × String) :=
  [("validate", "Validate data files against a schema and print the pipeline result"),
    ("check", "Compile schemas, resolving every reference, without validating data"),
    ("help", "Print this message or the help of the given subcommand(s)")]

/-- Names with what they mean, one a line, the meanings in one column. -/
def table (rows : List (String × String)) : List String :=
  let width := (rows.map (·.1.length)).foldl max 0
  rows.map fun r =>
    "  " ++ r.1 ++ String.ofList (List.replicate (width - r.1.length + 2) ' ') ++ r.2

def programHelp : List String :=
  ["Compile JSON Schemas and run data through their validation pipelines", "",
    "Usage: " ++ programName ++ " [OPTIONS] <COMMAND>", "", "Commands:"] ++ table commandList ++
    ["", "Options:"] ++ table (sharedOptions ++ [("-V, --version", "Print version")])

def helpLines : Option CommandName → List String
  | none => programHelp
  | some .validate =>
    ["Validate data files against a schema and print the pipeline result", "",
      "Usage: " ++ programName ++ " validate [OPTIONS] --schema <SCHEMA> <DATA>...", "",
      "Arguments:"] ++
      table [("<DATA>...", "Data files to validate")] ++ ["", "Options:"] ++
      table (validateOptions ++ sharedOptions)
  | some .check =>
    ["Compile schemas, resolving every reference, without validating data", "",
      "Usage: " ++ programName ++ " check [OPTIONS] <SCHEMA>...", "", "Arguments:"] ++
      table [("<SCHEMA>...", "Schemas to compile (JSON or YAML)")] ++ ["", "Options:"] ++
      table sharedOptions

end SchemaPipeline.Command
