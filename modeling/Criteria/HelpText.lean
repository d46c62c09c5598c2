import Criteria.Arguments

namespace Criteria

def HelpTopic.lines : HelpTopic → List String
  | .root => [
      "predsql - compile JSON predicate trees into parameterized SQL",
      "",
      "USAGE:",
      "  predsql <COMMAND> [OPTIONS]",
      "",
      "COMMANDS:",
      "  where         Compile a WHERE tree and print SQL + parameters",
      "  help          Print help",
      "",
      "Run \x60predsql <command> --help\x60 for more."]
  | .compile => [
      "USAGE:",
      "  predsql where [OPTIONS] [FILE|-]",
      "",
      "Reads a JSON predicate tree from FILE (or stdin) such as",
      "  [\x7b\"id\": 5\x7d, \"or\", [[\x7b\"%name\": \"a%\", \"!deleted_at\": null\x7d]]]",
      "and prints the compiled SQL followed by the JSON parameter array.",
      "",
      "OPTIONS:",
      "  --config <FILE>           Config file path (default: predsql.toml, optional)",
      "  --placeholder <STYLE>     question (?) or dollar ($1, $2, ...)",
      "  --json                    Print one JSON object \x7b\"sql\", \"params\"\x7d",
      "  -h, --help                Print help"]

/-- What is printed for a topic. -/
def HelpTopic.text (topic : HelpTopic) : String := "\n".intercalate topic.lines

end Criteria
