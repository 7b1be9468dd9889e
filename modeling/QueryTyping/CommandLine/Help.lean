import QueryTyping.CommandLine.Flag

namespace QueryTyping.CommandLine

def version : String :=
  "sqlinfer 0.4.0\n"

def lines (l : List String) : String :=
  String.join (l.map (· ++ "\n"))

def Topic.text : Topic → String
  | program => lines [
    "Infer parameter and result types of SQL queries from a live database",
    "",
    "Usage: sqlinfer <COMMAND>",
    "",
    "Commands:",
    "  infer  Type every query in a manifest and write the typed queries as JSON",
    "  help   Print this message or the help of the given subcommand(s)",
    "",
    "Options:",
    "  -h, --help     Print help",
    "  -V, --version  Print version"]
  | infer => lines [
    "Type every query in a manifest and write the typed queries as JSON",
    "",
    "Usage: sqlinfer infer [OPTIONS] --database-url <URL> --queries <FILE> --package-path <PATH>",
    "",
    "Options:",
    "      --database-url <URL>          Connection string of the database to prepare queries against [env: DATABASE_URL]",
    "      --queries <FILE>              Path to the JSON query manifest",
    "  -o, --output <FILE>               Path where the typed queries will be written (default: stdout)",
    "      --package-path <PATH>         Package path that receives generated enum and composite types",
    "      --type-override <NAME=TYPE>   Map a catalog type onto a qualified target type (e.g., text=github.com/jackc/pgtype.Text)",
    "      --acronym <WORD[=RENDERING]>  Word to render as an acronym, optionally with its rendering (e.g., id or oids=OIDs)",
    "      --timeout <SECS>              Abort the whole run after this many seconds",
    "  -v, --verbose                     Enable verbose output with per-query details",
    "  -q, --quiet                       Suppress non-essential output (errors only)",
    "  -h, --help                        Print help"]
  | help => lines [
    "Print this message or the help of the given subcommand(s)",
    "",
    "Usage: sqlinfer help [COMMAND]...",
    "",
    "Arguments:",
    "  [COMMAND]...  Print help for the subcommand(s)"]

end QueryTyping.CommandLine
