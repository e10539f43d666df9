import TelemetryExport.CommandLine.Help

/-! # Reading the command line

The arguments of a level are read from left to right.  An option's value is part of its
argument or the argument after it, unless that begins with a hyphen.  A value that stands in an
argument of its own is not looked at until the next option of the level or the end of its
arguments; whatever is wrong with the arguments in between is reported first.  The program's
own arguments end where a subcommand begins, and the subcommand's are read before the program's
last value.

After `--` no options follow, and as no command takes anything else, nothing may follow. -/

namespace TelemetryExport
namespace CommandLine

/-- Why a command line is not carried out. -/
inductive Stop where
  | usage (e : UsageError)
  | help (text : String)
  | version
deriving DecidableEq, Repr

/-- An argument by its form. -/
inductive Word where
  | escape
  | long (name : String) (value : Option String)
  | short (flag : Char) (value : Option String)
  | plain
deriving DecidableEq, Repr

/-- The value in the argument of a short option; an equals sign may precede it. -/
def attached : List Char → Option String
  | [] => none
  | '=' :: cs => some (.ofList cs)
  | cs => some (.ofList cs)

def Word.ofArgument (arg : String) : Word :=
  match arg.toList with
  | ['-', '-'] => .escape
  | '-' :: '-' :: cs =>
    .long (.ofList (cs.takeWhile (· != '=')))
      (match cs.dropWhile (· != '=') with
      | [] => none
      | _ :: value => some (.ofList value))
  | '-' :: c :: cs => .short c (attached cs)
  | _ => .plain

/-! ### One level -/

/-- An option whose value stands in an argument of its own, if it has been read yet. -/
structure Pending where
  opt : Opt
  value : Option String
deriving DecidableEq, Repr

structure Progress where
  given : Given := {}
  pending : Option Pending := none
deriving DecidableEq, Repr

namespace Progress

/-- The next argument is the value of the pending option if it does not begin with a hyphen. -/
def awaits (p : Progress) : Bool :=
  match p.pending with
  | some ⟨_, none⟩ => true
  | _ => false

/-- Looks at the pending value. -/
def settle (p : Progress) : Except UsageError Given :=
  match p.pending with
  | none => .ok p.given
  | some ⟨_, none⟩ => .error .invalidValue
  | some ⟨o, some value⟩ => p.given.set o value

/-- An option, with its value if that is part of the argument. -/
def option (p : Progress) (o : Opt) (value : Option String) : Except UsageError Progress := do
  let given ← p.settle
  match value with
  | some v => return ⟨← given.set o v, none⟩
  | none => return ⟨given, some ⟨o, none⟩⟩

end Progress

def Switch.stop (env : Option String) (level : Level) : Switch → Stop
  | help => .help (level.helpText env)
  | version => .version

/-- The option or switch that was found under the name in an argument, if any; `assigned` when
the argument gives a value even if none is asked for. -/
def flagged (env : Option String) (level : Level) (p : Progress) (value : Option String)
    (assigned : Bool) (opt : Option Opt) (switch : Option Switch) : Except Stop Progress :=
  match opt, switch with
  | some o, _ => (p.option o value).mapError .usage
  | none, some s =>
    if assigned then .error (.usage .tooManyValues)
    else
      match p.settle with
      | .error e => .error (.usage e)
      | .ok _ => .error (s.stop env level)
  | none, none => .error (.usage .unknownArgument)

/-- An argument that is neither an option nor a value. -/
def misplaced (level : Level) (escaped : Bool) (arg : String) : UsageError :=
  match level with
  | .subcommand _ => .unknownArgument
  | .program =>
    if escaped ∧ (arg = helpName ∨ (Subcommand.ofName? arg).isSome) then .unknownArgument
    else .invalidSubcommand

/-- Help on what the arguments after `help` name. -/
def helpOn (env : Option String) : List String → Stop
  | [] => .help (Level.program.helpText env)
  | [name] =>
    if name = helpName then .help helpOnHelp
    else
      match Subcommand.ofName? name with
      | some s => .help ((Level.subcommand s).helpText env)
      | none => .usage .invalidSubcommand
  | _ => .usage .invalidSubcommand

/-- The arguments of a level, up to a subcommand, which is given with the arguments after it. -/
def scan (env : Option String) (level : Level) :
    Progress → List String → Except Stop (Progress × Option (Subcommand × List String))
  | p, [] => .ok (p, none)
  | p, arg :: args =>
    if level = .program ∧ !p.awaits ∧ arg = helpName then .error (helpOn env args)
    else
      match if level = .program ∧ !p.awaits then Subcommand.ofName? arg else none with
      | some s => .ok (p, some (s, args))
      | none =>
        match Word.ofArgument arg with
        | .escape =>
          match args with
          | [] => .ok (p, none)
          | next :: _ => .error (.usage (misplaced level true next))
        | .long name value => do
          let p ← flagged env level p value value.isSome
            (level.options.find? (·.long == name)) (level.switches.find? (·.long == name))
          scan env level p args
        | .short c value => do
          let p ← flagged env level p value false
            (level.options.find? (·.short == c)) (level.switches.find? (·.short == c))
          scan env level p args
        | .plain =>
          match p.pending with
          | some ⟨o, none⟩ => scan env level { p with pending := some ⟨o, some arg⟩ } args
          | _ => .error (.usage (misplaced level false arg))

/-! ### The whole command line -/

def settled (p : Progress) : Except Stop Given := p.settle.mapError .usage

def subcommandAction (env : Option String) (s : Subcommand) (args : List String) :
    Except Stop Action := do
  let (p, _) ← scan env (.subcommand s) {} args
  return .of (← settled p) s

/-- The path of the settings: as given, from the environment, or the default. -/
def configPath (env given : Option String) : Except UsageError String :=
  match given, env with
  | some path, _ => .ok path
  | none, some path => if path.isEmpty then .error .invalidValue else .ok path
  | none, none => .ok Opt.config.default

/-- The invocation that the arguments after the program's name and the value of the environment
variable for the path of the settings stand for. -/
def parse (env : Option String) (args : List String) : Except Stop Invocation := do
  let (p, rest) ← scan env .program {} args
  let action ← rest.mapM fun (s, args) => subcommandAction env s args
  let given ← settled p
  return ⟨← (configPath env given.config).mapError .usage, action⟩

end CommandLine
end TelemetryExport
