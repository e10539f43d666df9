import TelemetryExport.CommandLine.Basic

/-! # Help texts

A help text says what a command does and how it is written, and lists in two columns its
subcommands, arguments and options.  The environment's path of the settings is shown beside the
option that it stands in for. -/

namespace TelemetryExport
namespace CommandLine

def programName : String := "farm-export"

def versionText : String := programName ++ " 0.1.0\n"

/-- The environment variable that may hold the path of the settings. -/
def configVariable : String := "FARM_EXPORT_CONFIG"

def Subcommand.about : Subcommand → String
  | serve => "Run the export server until Ctrl+C"
  | fetch => "Request one frame from a running server and print it"
  | seed => "Fill the database with synthetic readings for local testing"

/-- The subcommand that prints help. -/
def helpName : String := "help"

def helpAbout : String := "Print this message or the help of the given subcommand(s)"

def Level.about : Level → String
  | program => "Serves recent farm telemetry over a framed TCP protocol"
  | subcommand s => s.about

def Level.usage : Level → String
  | program => programName ++ " [OPTIONS] [COMMAND]"
  | subcommand s =>
    programName ++ " " ++ s.name ++
      (if (Level.subcommand s).options.isEmpty then "" else " [OPTIONS]")

/-- An option's value in a help text. -/
def Opt.valueName (o : Opt) : String :=
  .ofList (o.long.toList.map fun c => if c = '-' then '_' else c.toUpper)

/-- A row of a help text: what is written, and what it stands for. -/
abbrev HelpRow := String × String

def Opt.row (env : Option String) (o : Opt) : HelpRow :=
  ("-" ++ .ofList [o.short] ++ ", --" ++ o.long ++ " <" ++ o.valueName ++ ">",
    (if o = .config then "[env: " ++ configVariable ++ "=" ++ env.getD "" ++ "] " else "") ++
      "[default: " ++ o.default ++ "]")

def Switch.row (s : Switch) : HelpRow :=
  ("-" ++ .ofList [s.short] ++ ", --" ++ s.long, "Print " ++ s.long)

def padded (width : Nat) (text : String) : String :=
  text ++ .ofList (List.replicate (width - text.length) ' ')

def helpSection (title : String) (rows : List HelpRow) : String :=
  let width := (rows.map (·.1.length)).foldl max 0
  "\n" ++ title ++ ":\n" ++
    String.join (rows.map fun row => "  " ++ padded width row.1 ++ "  " ++ row.2 ++ "\n")

def helpHead (about usage : String) : String := about ++ "\n\nUsage: " ++ usage ++ "\n"

def subcommandRows : Level → List HelpRow
  | .program => Subcommand.all.map (fun s => (s.name, s.about)) ++ [(helpName, helpAbout)]
  | .subcommand _ => []

def Level.helpText (env : Option String) (level : Level) : String :=
  let rows := subcommandRows level
  helpHead level.about level.usage ++
    (if rows.isEmpty then "" else helpSection "Commands" rows) ++
    helpSection "Options" (level.options.map (Opt.row env) ++ level.switches.map Switch.row)

/-- Help on the subcommand that prints help. -/
def helpOnHelp : String :=
  helpHead helpAbout (programName ++ " " ++ helpName ++ " [COMMAND]...") ++
    helpSection "Arguments" [("[COMMAND]...", "Print help for the subcommand(s)")]

end CommandLine
end TelemetryExport
