import ResourceStubs.Command.Flag

/-! What is told to someone who asks for help. -/

namespace ResourceStubs.Command

/-- The name that the program is called by. -/
def programName : String := "sdk-stubs-builder"

/-- The version of the program. -/
def programVersion : String := "0.1.0"

namespace Level

/-- Help on the commands. -/
def topUsage : List String := [
  "Build typed stub IR from cloud SDK resource models", "",
  s!"Usage: {programName} [OPTIONS] <COMMAND>", "",
  "Commands:",
  "  parse     Parse service resources and optionally write the IR as JSON",
  "  services  List services found in a data directory",
  "  help      Print this message or the help of the given subcommand(s)", "",
  "Options:",
  "  -v, --verbose  Enable verbose output",
  "  -h, --help     Print help",
  "  -V, --version  Print version"]

/-- Help on the command that builds stubs. -/
def parseUsage : List String := [
  "Parse service resources and optionally write the IR as JSON", "",
  s!"Usage: {programName} parse [OPTIONS] --data-dir <DATA_DIR>", "",
  "Options:",
  "  -d, --data-dir <DATA_DIR>  SDK data directory",
  "  -s, --services <SERVICES>  Comma-separated list of services to parse",
  "  -c, --config <CONFIG>      YAML configuration file",
  "  -o, --output <OUTPUT>      Write the parsed IR to this JSON file",
  "  -v, --verbose              Enable verbose output",
  "  -h, --help                 Print help"]

/-- Help on the command that lists services. -/
def servicesUsage : List String := [
  "List services found in a data directory", "",
  s!"Usage: {programName} services [OPTIONS] --data-dir <DATA_DIR>", "",
  "Options:",
  "  -d, --data-dir <DATA_DIR>  SDK data directory",
  "  -c, --config <CONFIG>      YAML configuration file",
  "  -v, --verbose              Enable verbose output",
  "  -h, --help                 Print help"]

/-- Help on a level of the command line. -/
def usage (level : Level) : String :=
  "\n".intercalate (match level with
    | top => topUsage
    | parse => parseUsage
    | services => servicesUsage)

end Level

end ResourceStubs.Command
