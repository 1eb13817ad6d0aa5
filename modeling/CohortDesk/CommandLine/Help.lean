/-!
# Help texts

What the program prints when it is asked how to use it.
-/
namespace CohortDesk.CommandLine

inductive Topic
  | program
  | list
  | remove
  | help
  deriving DecidableEq, Repr

def lines (texts : List String) : String := String.join (texts.map (· ++ "\n"))

def Topic.text : Topic → String
  | .program => lines
      ["List and remove cohorts",
        "",
        "Usage: cohorts-admin [OPTIONS] <COMMAND>",
        "",
        "Commands:",
        "  list    Show one page of cohorts",
        "  remove  Delete a cohort by name",
        "  help    Print this message or the help of the given subcommand(s)",
        "",
        "Options:",
        "      --config <CONFIG>          Settings file; missing files are ignored " ++
          "[default: cohorts-admin.toml]",
        "      --server-url <SERVER_URL>  Cohort service base URL, " ++
          "e.g. http://localhost:8080/api",
        "  -h, --help                     Print help"]
  | .list => lines
      ["Show one page of cohorts",
        "",
        "Usage: cohorts-admin list [OPTIONS]",
        "",
        "Options:",
        "      --filter <FILTER>  ",
        "      --order <ORDER>    ",
        "      --limit <LIMIT>    ",
        "      --page <PAGE>      ",
        "  -h, --help             Print help"]
  | .remove => lines
      ["Delete a cohort by name",
        "",
        "Usage: cohorts-admin remove <NAME>",
        "",
        "Arguments:",
        "  <NAME>  ",
        "",
        "Options:",
        "  -h, --help  Print help"]
  | .help => lines
      ["Print this message or the help of the given subcommand(s)",
        "",
        "Usage: cohorts-admin help [COMMAND]...",
        "",
        "Arguments:",
        "  [COMMAND]...  Print help for the subcommand(s)"]

/-- The topic that the words after the help command name. -/
def Topic.of? : List String → Option Topic
  | [] => some .program
  | ["list"] => some .list
  | ["remove"] => some .remove
  | ["help"] => some .help
  | _ => none

end CohortDesk.CommandLine
