import KeyLog.CommandLine.Arguments

/-!
# Help texts

What the command line says about itself.
-/

namespace KeyLog
namespace CommandLine

/-- The name under which the program speaks of itself. -/
def programName : String := "heapkv-cli"

/-- The version of the program and of the format. -/
def version : String := "0.1.0"

/-- The line that the program answers to a request for its version. -/
def versionLine : String := s!"{programName} {version}\n"

/-- What a subcommand does, in one line. -/
def Subcommand.about : Subcommand → String
  | .get => "Get a value by key"
  | .set => "Set a key-value pair"
  | .keys => "List all live keys"
  | .verify => "Check every record's checksum without opening the store"
  | .compact => "Rewrite the heap keeping only live records"

/-- The arguments of a subcommand, each with what it is. -/
def Subcommand.parameters : Subcommand → List (String × String)
  | .get => [("<KEY>", "The key to get")]
  | .set => [("<KEY>", "The key to set"), ("<VALUE>", "The value to set")]
  | .keys | .verify | .compact => []

/-- A word filled up with blanks to a width. -/
def padded (width : Nat) (word : String) : String :=
  word ++ String.ofList (List.replicate (width - word.length) ' ')

/-- Lines of two columns, indented; the first column is as wide as its widest entry. -/
def columns (rows : List (String × String)) : String :=
  let width := rows.foldl (fun width row => max width row.1.length) 0
  String.join (rows.map fun row => "  " ++ padded width row.1 ++ "  " ++ row.2 ++ "\n")

/-- A heading and the lines under it, after an empty line; nothing where there are no lines. -/
def titled (title : String) (rows : List (String × String)) : String :=
  if rows.isEmpty then "" else s!"\n{title}:\n" ++ columns rows

/-- The help text of the program. -/
def programHelp : String :=
  let standard : Settings := {}
  let commands := [Subcommand.get, .set, .keys, .verify, .compact].map fun s => (s.name, s.about)
  "CLI for the heapkv key-value heap\n\n"
    ++ s!"Usage: {programName} [OPTIONS] <COMMAND>\n"
    ++ titled "Commands"
      (commands ++ [("help", "Print this message or the help of the given subcommand(s)")])
    ++ titled "Options"
      [("-f, --file <FILE>", s!"Heap file [default: {standard.path}]"),
        ("-h, --help", "Print help"), ("-V, --version", "Print version")]

/-- The help text of a subcommand. -/
def Subcommand.help (subcommand : Subcommand) : String :=
  let usage := " ".intercalate
    (programName :: subcommand.name :: subcommand.parameters.map fun row => row.1)
  s!"{subcommand.about}\n\nUsage: {usage}\n"
    ++ titled "Arguments" subcommand.parameters
    ++ titled "Options" [("-h, --help", "Print help")]

/-- The help text of the subcommand that gives help. -/
def helpHelp : String :=
  "Print this message or the help of the given subcommand(s)\n\n"
    ++ s!"Usage: {programName} help [COMMAND]...\n"
    ++ titled "Arguments" [("[COMMAND]...", "Print help for the subcommand(s)")]

/-- The text that answers a request for help. -/
def Topic.text : Topic → String
  | .program => programHelp
  | .subcommand which => which.help
  | .help => helpHelp

end CommandLine
end KeyLog
