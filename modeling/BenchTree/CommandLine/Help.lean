/-!
# Help texts

The texts that a command line can ask for. They end with a line feed.
-/

namespace BenchTree.CommandLine

/-- The lines that the help option shows when it is spelled out. -/
def longHelpLines : List String :=
  ["Generate MODULES directories of FILES C header/source pairs, each source"
      ++ " including and calling DEPS sibling files (wrapping around the module), plus"
      ++ " main.c and CMake/meique build descriptions. Output is fully determined by the"
      ++ " parameters.",
    "",
    "Usage: buildbench-gen [OPTIONS] [FILES] [DEPS] [MODULES]",
    "",
    "Arguments:",
    "  [FILES]",
    "          Files per module",
    "",
    "  [DEPS]",
    "          Dependencies (includes and calls) per file",
    "",
    "  [MODULES]",
    "          Number of modules",
    "",
    "Options:",
    "  -o, --out <OUT>",
    "          Output directory (the tree is written directly inside it)",
    "          ",
    "          [default: .]",
    "",
    "      --config <CONFIG>",
    "          Path to a TOML configuration file; positional arguments take"
      ++ " precedence over it",
    "",
    "      --backend <BACKENDS>",
    "          Build description formats to emit (repeatable; default: all)",
    "          ",
    "          [possible values: cmake, meique]",
    "",
    "      --jobs",
    "          Emit modules in parallel",
    "",
    "      --manifest <MANIFEST>",
    "          Write a JSON manifest of the generated artifacts to this path",
    "",
    "  -q, --quiet",
    "          Suppress non-essential output",
    "",
    "  -h, --help",
    "          Print help (see a summary with '-h')",
    "",
    "  -V, --version",
    "          Print version"]

/-- The lines that the help option shows when it is spelled by its letter. -/
def shortHelpLines : List String :=
  ["Generate a C source tree for build-system benchmarks",
    "",
    "Usage: buildbench-gen [OPTIONS] [FILES] [DEPS] [MODULES]",
    "",
    "Arguments:",
    "  [FILES]    Files per module",
    "  [DEPS]     Dependencies (includes and calls) per file",
    "  [MODULES]  Number of modules",
    "",
    "Options:",
    "  -o, --out <OUT>            Output directory (the tree is written directly"
      ++ " inside it) [default: .]",
    "      --config <CONFIG>      Path to a TOML configuration file; positional"
      ++ " arguments take precedence over it",
    "      --backend <BACKENDS>   Build description formats to emit (repeatable;"
      ++ " default: all) [possible values: cmake, meique]",
    "      --jobs                 Emit modules in parallel",
    "      --manifest <MANIFEST>  Write a JSON manifest of the generated artifacts"
      ++ " to this path",
    "  -q, --quiet                Suppress non-essential output",
    "  -h, --help                 Print help (see more with '--help')",
    "  -V, --version              Print version"]

/-- The lines of a text, each ended by a line feed. -/
def endLines (lines : List String) : String := String.join (lines.map (· ++ "\n"))

/-- What the help option shows. -/
def helpText (isLong : Bool) : String :=
  endLines (if isLong then longHelpLines else shortHelpLines)

/-- What the version option shows. -/
def versionText : String := "buildbench-gen 0.1.0\n"

end BenchTree.CommandLine
