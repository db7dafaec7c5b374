import RecordSchema.CommandLine.Arguments

set_option autoImplicit false

/-!
The help pages of the command line.
-/

namespace RecordSchema.CommandLine

def programName : String := "familiar-models"

def lines (ls : List String) : String := String.join (ls.map (· ++ "\n"))

def HelpPage.text : HelpPage → String
  | program =>
      lines
        ["Compile schema definitions and parse data against them",
         "",
         "Usage: " ++ programName ++ " [OPTIONS] <COMMAND>",
         "",
         "Commands:",
         "  check   Compile every schema file and list the registered models",
         "  parse   Parse a JSON or YAML data file as one model",
         "  config  Print the effective configuration",
         "  help    Print this message or the help of the given subcommand(s)",
         "",
         "Options:",
         "  -c, --config <CONFIG>    Config file, layered over models.toml and MODELS__* variables",
         "  -s, --schemas <SCHEMAS>  Schemas directory (overrides loader.schemas_path)",
         "  -h, --help               Print help"]
  | check =>
      lines
        ["Compile every schema file and list the registered models",
         "",
         "Usage: " ++ programName ++ " check",
         "",
         "Options:",
         "  -h, --help  Print help"]
  | parse =>
      lines
        ["Parse a JSON or YAML data file as one model",
         "",
         "Usage: " ++ programName ++ " parse --model <MODEL> <FILE>",
         "",
         "Arguments:",
         "  <FILE>  Data file",
         "",
         "Options:",
         "  -m, --model <MODEL>  Qualified model name, e.g. Test::TestSchema::Company",
         "  -h, --help           Print help"]
  | settings =>
      lines
        ["Print the effective configuration",
         "",
         "Usage: " ++ programName ++ " config [OPTIONS]",
         "",
         "Options:",
         "  -w, --write <WRITE>  Also write it to this file",
         "  -h, --help           Print help"]
  | help =>
      lines
        ["Print this message or the help of the given subcommand(s)",
         "",
         "Usage: " ++ programName ++ " help [COMMAND]...",
         "",
         "Arguments:",
         "  [COMMAND]...  Print help for the subcommand(s)"]

end RecordSchema.CommandLine
