import TelemetryExport.Proofs.CommandLine.Steps

/-! # Where the path of the settings may stand

The path of the settings is an option of the program and of none of its subcommands.  So it is
taken in front of a subcommand, in any spelling, and refused behind it, wherever it stands among
the subcommand's own arguments; a command line that is accepted has its path from what precedes
the subcommand or from the environment (`pathPlaced`). -/

namespace TelemetryExport
namespace CommandLine

variable {env : Option String} {s : Subcommand} {p : Progress} {value : Option String}
  {arg path : String} {sp : Spelling} {args words : List String} {action : Action}

/-! ### The program's own arguments -/

theorem ofArgument_name (s : Subcommand) : Word.ofArgument s.name = .plain := by
  cases s <;> decide

theorem Names.ne_plain {o : Opt} (h : Names o value arg) : Word.ofArgument arg ≠ .plain := by
  intro hplain
  rcases h with h | h <;> rw [hplain] at h <;> cases h

theorem scan_name (env : Option String) (h : p.awaits = false) (s : Subcommand)
    (args : List String) : scan env .program p (s.name :: args) = .ok (p, some (s, args)) := by
  have hhelp : s.name ≠ helpName := by cases s <;> decide
  have hname : Subcommand.ofName? s.name = some s := by cases s <;> decide
  unfold scan
  simp [h, hhelp, hname]

/-- An option is neither a subcommand nor a request for help. -/
theorem scan_names (h : Names .config value arg) (args : List String) :
    scan env .program p (arg :: args) =
      (p.option .config value).mapError .usage >>= fun p => scan env .program p args := by
  have hhelp : arg ≠ helpName := by
    rintro rfl
    exact h.ne_plain (by decide)
  have hname : Subcommand.ofName? arg = none := by
    apply List.find?_eq_none.mpr
    intro s _ heq
    apply h.ne_plain
    rw [← beq_iff_eq.mp heq, ofArgument_name]
  have hknown : Opt.config ∈ Level.program.options := List.mem_singleton.mpr rfl
  conv =>
    lhs
    unfold scan
  rw [if_neg (fun hall => hhelp hall.2.2), hname, ite_self]
  rcases h with h | h
  · rw [h]
    dsimp only
    rw [find?_long hknown]
    rfl
  · rw [h]
    dsimp only
    rw [find?_short hknown]
    rfl

theorem scan_awaited {g : Given} {o : Opt} {text : String} (h : ¬ Hyphened text)
    (args : List String) :
    scan env .program ⟨g, some ⟨o, none⟩⟩ (text :: args) =
      scan env .program ⟨g, some ⟨o, some text⟩⟩ args := by
  conv =>
    lhs
    unfold scan
  simp [Progress.awaits, Word.ofArgument_eq_plain h]

/-- The subcommand's arguments are read before the program's last value is. -/
theorem parse_of_scan (h : scan env .program {} words = .ok (p, some (s, args))) :
    parse env words = subcommandAction env s args >>= fun action =>
      settled p >>= fun given =>
        ((configPath env given.config).mapError .usage).map (⟨·, some action⟩) := by
  unfold parse
  rw [h]
  change (some <$> subcommandAction env s args) >>= _ = _
  cases subcommandAction env s args with
  | error e => rfl
  | ok action =>
      change settled p >>= _ = settled p >>= _
      apply bind_congr
      intro given
      cases configPath env given.config <;> rfl

/-! ### Behind a subcommand and in front of it -/

/-- Without a path of its own the command line has that of the environment or the default. -/
theorem parse_name (env : Option String) (s : Subcommand) (args : List String) :
    parse env (s.name :: args) = subcommandAction env s args >>= fun action =>
      ((configPath env none).mapError .usage).map (⟨·, some action⟩) :=
  parse_of_scan (scan_name env rfl s args)

theorem configPath_of_parse_name {i : Invocation} (h : parse env (s.name :: args) = .ok i) :
    configPath env none = .ok i.config := by
  rw [parse_name] at h
  cases haction : subcommandAction env s args with
  | error e =>
      rw [haction] at h
      cases h
  | ok action =>
      rw [haction] at h
      cases hpath : configPath env none with
      | error e =>
          rw [hpath] at h
          cases h
      | ok path =>
          rw [hpath] at h
          cases h
          rfl

theorem scan_apart (hnames : Names .config none arg) (hpath : ¬ Hyphened path) (s : Subcommand)
    (args : List String) :
    scan env .program {} (arg :: path :: s.name :: args) =
      .ok (⟨{}, some ⟨.config, some path⟩⟩, some (s, args)) := by
  rw [scan_names hnames]
  change scan env .program ⟨{}, some ⟨.config, none⟩⟩ (path :: s.name :: args) = _
  rw [scan_awaited hpath, scan_name env rfl]

theorem scan_joined (hnames : Names .config (some path) arg) (s : Subcommand)
    (args : List String) :
    scan env .program {} (arg :: s.name :: args) =
      ((Given.set {} .config path).mapError .usage).map fun g => (⟨g, none⟩, some (s, args)) := by
  rw [scan_names hnames, Progress.option_some]
  change ((Given.set {} .config path).map fun g => (⟨g, none⟩ : Progress)).mapError
    Stop.usage >>= _ = _
  cases Given.set {} .config path with
  | error e => rfl
  | ok g => exact scan_name env rfl s args

theorem set_config (path : String) :
    Given.set {} .config path =
      if path.isEmpty then .error .invalidValue else .ok { config := some path } := rfl

theorem parse_config_name (hcarries : sp.Carries path)
    (h : subcommandAction env s args = .ok action) :
    parse env (sp.words .config path ++ s.name :: args) =
      if path.isEmpty then .error (.usage .invalidValue) else .ok ⟨path, some action⟩ := by
  obtain ⟨hapart, arg, hwords, hnames⟩ | ⟨-, arg, found, hwords, hnames, hfound⟩ :=
    sp.words_cases .config path
  · have hpath := (Spelling.carries_iff_of_apart hapart).mp hcarries
    rw [hwords]
    change parse env (arg :: path :: s.name :: args) = _
    rw [parse_of_scan (scan_apart hnames hpath s args), h]
    change (Given.set {} .config path).mapError Stop.usage >>= _ = _
    rw [set_config]
    split_ifs <;> rfl
  · obtain rfl := hfound hcarries
    have hscan : scan env .program {} (arg :: s.name :: args) = _ := scan_joined hnames s args
    rw [hwords]
    change parse env (arg :: s.name :: args) = _
    rw [set_config] at hscan
    split_ifs at hscan ⊢
    · unfold parse
      rw [hscan]
      rfl
    · rw [parse_of_scan hscan, h]
      rfl

theorem parse_name_config {front back : List String}
    (h : subcommandAction env s (front ++ back) = .ok action) (path : String) (sp : Spelling) :
    parse env (s.name :: (front ++ sp.words .config path ++ back)) =
      .error (.usage .unknownArgument) := by
  have hforeign : Opt.config ∉ (Level.subcommand s).options := by cases s <;> decide
  obtain ⟨c, hfront⟩ := exists_cursor_of_append h
  obtain ⟨arg, rest, found, hwords, hnames⟩ := sp.exists_names .config path
  have hgiven := Cursor.given_of_unknown (unknown_of_notMem hnames hforeign) hfront (rest ++ back)
  rw [parse_name, subcommandAction_eq, hwords, List.append_assoc, List.cons_append, hgiven]
  rfl

/-- What becomes of a path of the settings that is written down with a subcommand and arguments
that the subcommand accepts. -/
structure PathPlaced (env : Option String) (s : Subcommand) (args : List String)
    (action : Action) (path : String) (sp : Spelling) : Prop where
  /-- In front of the subcommand it is the path, unless it is empty. -/
  before : parse env (sp.words .config path ++ s.name :: args) =
    if path.isEmpty then .error (.usage .invalidValue) else .ok ⟨path, some action⟩
  /-- Behind the subcommand it is refused, wherever it stands among the arguments. -/
  after : ∀ front back, args = front ++ back →
    parse env (s.name :: (front ++ sp.words .config path ++ back)) =
      .error (.usage .unknownArgument)
  /-- Nothing that stands behind the subcommand decides on the path. -/
  elsewhere : ∀ words i, parse env (s.name :: words) = .ok i →
    configPath env none = .ok i.config

/-- **The path has its place** in front of the subcommand, and none behind it. -/
theorem pathPlaced (hcarries : sp.Carries path) (h : subcommandAction env s args = .ok action) :
    PathPlaced env s args action path sp := by
  refine ⟨parse_config_name hcarries h, ?_, fun words i => configPath_of_parse_name⟩
  intro front back hargs
  subst hargs
  exact parse_name_config h path sp

theorem pathPlaced_fetch :
    let args := ["--addr", "farm:5003", "-f2"]
    ¬ Hyphened "a b.toml" ∧
      subcommandAction (some "env.toml") .fetch args = .ok (.fetch "farm:5003" 2) ∧
      PathPlaced (some "env.toml") .fetch args (.fetch "farm:5003" 2) "a b.toml" .long ∧
      parse (some "env.toml") ["--config", "a b.toml", "fetch", "--addr", "farm:5003", "-f2"] =
        .ok ⟨"a b.toml", some (.fetch "farm:5003" 2)⟩ := by
  intro args
  have hcarries : Spelling.long.Carries "a b.toml" := by
    unfold Spelling.Carries Hyphened
    decide
  have haccepted : subcommandAction (some "env.toml") .fetch args = .ok (.fetch "farm:5003" 2) := by
    decide
  have hplaced := pathPlaced hcarries haccepted
  exact ⟨hcarries, haccepted, hplaced, hplaced.before⟩

/-- The same path is taken before a subcommand and refused after it. -/
theorem parse_path_after_serve :
    parse none ["--config", "a.toml", "serve"] = .ok ⟨"a.toml", some .serve⟩ ∧
      parse none ["serve", "--config", "a.toml"] = .error (.usage .unknownArgument) := by
  decide

end CommandLine
end TelemetryExport
