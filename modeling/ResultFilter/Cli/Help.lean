import ResultFilter.Cli.Command

/-!
# Help on the command line

What is printed when help is asked for: what a command is for, how it is called, and its options.

## Main definitions

* `helpLines` — the help on a command, or on all of them.
-/

namespace ResultFilter.Cli

/-- The help on all commands. -/
def generalHelp : List String :=
  ["serpguard ruleset compiler and tools",
    "",
    "Usage: sg-cli [OPTIONS] <COMMAND>",
    "",
    "Commands:",
    "  compile  Compile rule text into a serialized ruleset",
    "  info     Show ruleset info",
    "  query    Decide one search result",
    "  patch    Propose (and optionally apply) the patch toggling one search result",
    "  help     Print this message or the help of the given subcommand(s)",
    "",
    "Options:",
    "      --psl <PSL>  Public suffix list (public_suffix_list.dat) used to widen patches",
    "  -v, --verbose    Verbose output",
    "  -h, --help       Print help"]

/-- The options that every command has, each with its purpose on a line of its own. -/
def commonHelp (first second : List String) : List String :=
  ["      --psl <PSL>",
    "          Public suffix list (public_suffix_list.dat) used to widen patches"]
    ++ first ++ ["  -v, --verbose", "          Verbose output"] ++ second
    ++ ["  -h, --help", "          Print help"]

/-- The options for the rulesets and the search result. -/
def entryHelp (more : List String) : List String :=
  commonHelp
    ["  -u, --user <USER>",
      "          User ruleset",
      "  -s, --subscription <SUBSCRIPTION>",
      "          Subscription rulesets"]
    (["      --url <URL>",
      "          Result URL",
      "      --title <TITLE>",
      "          Result title",
      "      --prop <PROP>",
      "          Extra property as key=value"] ++ more)

/-- The help on a command, or on all of them. -/
def helpLines : Option CommandName → List String
  | none => generalHelp
  | some .compile =>
    ["Compile rule text into a serialized ruleset",
      "",
      "Usage: sg-cli compile [OPTIONS] --input <INPUT>",
      "",
      "Options:",
      "  -i, --input <INPUT>    Rule text file",
      "      --psl <PSL>        Public suffix list (public_suffix_list.dat) used to widen patches",
      "  -o, --output <OUTPUT>  Output file (stdout if omitted)",
      "  -v, --verbose          Verbose output",
      "  -h, --help             Print help"]
  | some .info =>
    ["Show ruleset info",
      "",
      "Usage: sg-cli info [OPTIONS] --input <INPUT>",
      "",
      "Options:",
      "  -i, --input <INPUT>  Rule text or serialized ruleset",
      "      --psl <PSL>      Public suffix list (public_suffix_list.dat) used to widen patches",
      "  -v, --verbose        Verbose output",
      "  -h, --help           Print help"]
  | some .query =>
    ["Decide one search result",
      "",
      "Usage: sg-cli query [OPTIONS] --url <URL>",
      "",
      "Options:"] ++ entryHelp []
  | some .patch =>
    ["Propose (and optionally apply) the patch toggling one search result",
      "",
      "Usage: sg-cli patch [OPTIONS] --url <URL>",
      "",
      "Options:"] ++ entryHelp
        ["      --whole-site",
          "          Suggest a rule for the whole registrable domain",
          "      --rules-to-add <RULES_TO_ADD>",
          "          Replacement for the suggested rules",
          "      --apply",
          "          Apply the patch and write the updated user ruleset",
          "  -o, --output <OUTPUT>",
          "          Where to write the updated user ruleset (defaults to --user)"]

end ResultFilter.Cli
