import ReviewChannel.Arguments

/-!
What the program says about itself: help for each topic, its version, and why arguments were
refused.
-/

namespace ReviewChannel

def programName : String := "grader-link"

def programVersion : String := "0.3.2"

def Topic.text : Topic → String
  | program =>
      "Control channel between a reviewer's editor and the grading process\n\n" ++
      s!"Usage: {programName} [OPTIONS] <COMMAND>\n\n" ++
      "Commands:\n" ++
      "  connect  Connect to a running grader; each line on stdin is a trigger\n" ++
      "  listen   Act as the grader: wait for a client and collect one review per id\n" ++
      "  config   Show effective configuration\n" ++
      "  help     Print this message or the help of the given subcommand(s)\n\n" ++
      "Options:\n" ++
      "  -v, --verbose...  Verbosity level (-v, -vv, -vvv)\n" ++
      "  -h, --help        Print help\n" ++
      "  -V, --version     Print version\n"
  | verb .connect =>
      "Connect to a running grader; each line on stdin is a trigger\n\n" ++
      s!"Usage: {programName} connect [OPTIONS]\n\n" ++
      "Options:\n" ++
      "      --workdir <WORKDIR>  " ++
      "Grader work directory (overrides the configured environment variable)\n" ++
      "  -v, --verbose...         Verbosity level (-v, -vv, -vvv)\n" ++
      "  -h, --help               Print help\n"
  | verb .listen =>
      "Act as the grader: wait for a client and collect one review per id\n\n" ++
      s!"Usage: {programName} listen [OPTIONS] --workdir <WORKDIR> [IDS]...\n\n" ++
      "Arguments:\n  [IDS]...  Student identifiers to send, in order\n\n" ++
      "Options:\n" ++
      "      --workdir <WORKDIR>  Directory to bind the control socket in\n" ++
      "  -v, --verbose...         Verbosity level (-v, -vv, -vvv)\n" ++
      "  -h, --help               Print help\n"
  | verb .config =>
      "Show effective configuration\n\n" ++
      s!"Usage: {programName} config [OPTIONS]\n\n" ++
      "Options:\n" ++
      "      --json        Emit machine-readable JSON\n" ++
      "  -v, --verbose...  Verbosity level (-v, -vv, -vvv)\n" ++
      "  -h, --help        Print help\n"
  | help =>
      "Print this message or the help of the given subcommand(s)\n\n" ++
      s!"Usage: {programName} help [COMMAND]...\n\n" ++
      "Arguments:\n  [COMMAND]...  Print help for the subcommand(s)\n"

namespace Refusal

/-- Whether a refusal is an answer that was asked for, and not a fault. -/
def isAnswer : Refusal → Bool
  | help _ | version => true
  | _ => false

/-- What a refusal says: an answer, or what is wrong. -/
def message : Refusal → String
  | help topic => topic.text
  | version => s!"{programName} {programVersion}\n"
  | nothingGiven => Topic.program.text
  | missingCommand => s!"error: '{programName}' requires a subcommand but one was not provided\n"
  | unknownCommand word => s!"error: unrecognized subcommand '{word}'\n"
  | unknownArgument word asValue =>
      let hint := s!"\n  tip: to pass '{word}' as a value, use '-- {word}'\n"
      s!"error: unexpected argument '{word}' found\n" ++ (if asValue then hint else "")
  | invalidValue =>
      s!"error: a value is required for '{Arguments.Options.workdirOption}' but none was supplied\n"
  | conflict option => s!"error: the argument '{option}' cannot be used multiple times\n"
  | unwantedValue value option =>
      s!"error: unexpected value '{value}' for '{option}' found; no more were expected\n"
  | missingWorkdir =>
      s!"error: the following required arguments were not provided:\n" ++
        s!"  {Arguments.Options.workdirOption}\n"

end Refusal

end ReviewChannel
