import Mathlib.Data.List.TakeWhile
import Mathlib.Tactic.SplitIfs
import TelemetryExport.CommandLine.Parse

/-! # A subcommand's arguments, one after the other

An option and its value can be written in five ways, with the value in an argument of its own or
not (`Spelling`).  What is read of a subcommand's arguments is a fold of one step for each of them
(`subcommandAction_eq`), and of options written one after the other it is what setting them one
after the other gives, in whichever way each of them is written (`Cursor.given_written`).  Their
order does not matter either (`Given.setAll_perm`).

An argument that the subcommand does not know is refused wherever it stands
(`Cursor.given_of_unknown`), and so is a value that its option never takes
(`Cursor.given_words_of_set`). -/

namespace TelemetryExport
namespace CommandLine

/-! ### The forms of an argument -/

/-- The text cannot be a value in an argument of its own. -/
def Hyphened (text : String) : Prop := text.toList.head? = some '-'

namespace Word

variable {arg : String}

theorem ofArgument_eq_plain (h : ¬ Hyphened arg) : ofArgument arg = .plain := by
  unfold Hyphened at h
  unfold ofArgument
  split <;> simp_all

theorem ofArgument_long {name : List Char} (h : arg.toList = '-' :: '-' :: name)
    (hne : name ≠ []) (hname : '=' ∉ name) : ofArgument arg = .long (.ofList name) none := by
  obtain ⟨c, cs, rfl⟩ := List.exists_cons_of_ne_nil hne
  have hall : ∀ d ∈ c :: cs, (d != '=') = true := by
    intro d hd
    simpa using ne_of_mem_of_not_mem hd hname
  have hrest : (c :: cs).dropWhile (· != '=') = [] := List.dropWhile_eq_nil_iff.mpr hall
  unfold ofArgument
  rw [h]
  change long (.ofList ((c :: cs).takeWhile (· != '='))) _ = _
  rw [List.takeWhile_eq_self_iff.mpr hall, hrest]

/-- The first equals sign ends the name. -/
theorem ofArgument_longEquals {name value : List Char}
    (h : arg.toList = '-' :: '-' :: (name ++ '=' :: value)) (hname : '=' ∉ name) :
    ofArgument arg = .long (.ofList name) (some (.ofList value)) := by
  have hall : ∀ d ∈ name, (d != '=') = true := by
    intro d hd
    simpa using ne_of_mem_of_not_mem hd hname
  have hrest : (name ++ '=' :: value).dropWhile (· != '=') = '=' :: value := by
    rw [List.dropWhile_append_of_pos hall]
    rfl
  obtain ⟨c, cs, hcs⟩ : ∃ c cs, name ++ '=' :: value = c :: cs := by
    apply List.exists_cons_of_ne_nil
    simp
  unfold ofArgument
  rw [h, hcs]
  change long (.ofList ((c :: cs).takeWhile (· != '='))) _ = _
  rw [← hcs, List.takeWhile_append_of_pos hall, hrest]
  simp

theorem ofArgument_short {c : Char} {cs : List Char} (h : arg.toList = '-' :: c :: cs)
    (hc : c ≠ '-') : ofArgument arg = .short c (attached cs) := by
  unfold ofArgument
  rw [h]
  split <;> simp_all

end Word

/-- The argument gives an option under one of its names, and the value if that is part of the
argument. -/
def Names (o : Opt) (value : Option String) (arg : String) : Prop :=
  Word.ofArgument arg = .long o.long value ∨ Word.ofArgument arg = .short o.short value

namespace Opt

theorem long_ne_nil (o : Opt) : o.long.toList ≠ [] := by cases o <;> decide

theorem equals_notMem_long (o : Opt) : '=' ∉ o.long.toList := by cases o <;> decide

theorem short_ne_hyphen (o : Opt) : o.short ≠ '-' := by cases o <;> decide

end Opt

/-! ### Spellings -/

/-- How an option and its value are written. -/
inductive Spelling where
  | long
  | longEquals
  | short
  | shortEquals
  | attached
deriving DecidableEq, Repr

namespace Spelling

def words (o : Opt) (value : String) : Spelling → List String
  | long => ["--" ++ o.long, value]
  | longEquals => ["--" ++ o.long ++ "=" ++ value]
  | short => ["-" ++ .ofList [o.short], value]
  | shortEquals => ["-" ++ .ofList [o.short] ++ "=" ++ value]
  | attached => ["-" ++ .ofList [o.short] ++ value]

/-- The value has an argument of its own. -/
def apart : Spelling → Bool
  | long | short => true
  | longEquals | shortEquals | attached => false

/-- The value is found where it is written. -/
def Carries (value : String) : Spelling → Prop
  | long | short => ¬ Hyphened value
  | longEquals | shortEquals => True
  | attached => ∃ c cs, value.toList = c :: cs ∧ c ≠ '='

variable {sp : Spelling} {value : String}

theorem carries_iff_of_apart (h : sp.apart = true) : sp.Carries value ↔ ¬ Hyphened value := by
  cases sp with
  | long | short => rfl
  | longEquals | shortEquals | attached => cases h

/-- The name comes first, and the value is behind it or in the next argument. -/
theorem words_cases (o : Opt) (value : String) (sp : Spelling) :
    (sp.apart = true ∧ ∃ arg, sp.words o value = [arg, value] ∧ Names o none arg) ∨
      sp.apart = false ∧ ∃ arg given, sp.words o value = [arg] ∧ Names o given arg ∧
        (sp.Carries value → given = some value) := by
  cases sp with
  | long =>
      have hword : Word.ofArgument ("--" ++ o.long) = .long (.ofList o.long.toList) none :=
        Word.ofArgument_long (by simp) o.long_ne_nil o.equals_notMem_long
      rw [String.ofList_toList] at hword
      exact .inl ⟨rfl, _, rfl, .inl hword⟩
  | longEquals =>
      have hword : Word.ofArgument ("--" ++ o.long ++ "=" ++ value) =
          .long (.ofList o.long.toList) (some (.ofList value.toList)) :=
        Word.ofArgument_longEquals (by simp) o.equals_notMem_long
      rw [String.ofList_toList, String.ofList_toList] at hword
      exact .inr ⟨rfl, _, _, rfl, .inl hword, fun _ => rfl⟩
  | short =>
      have hword : Word.ofArgument ("-" ++ .ofList [o.short]) =
          .short o.short (CommandLine.attached []) :=
        Word.ofArgument_short (by simp) o.short_ne_hyphen
      exact .inl ⟨rfl, _, rfl, .inr hword⟩
  | shortEquals =>
      have hword : Word.ofArgument ("-" ++ .ofList [o.short] ++ "=" ++ value) =
          .short o.short (CommandLine.attached ('=' :: value.toList)) :=
        Word.ofArgument_short (by simp) o.short_ne_hyphen
      rw [CommandLine.attached, String.ofList_toList] at hword
      exact .inr ⟨rfl, _, _, rfl, .inr hword, fun _ => rfl⟩
  | attached =>
      have hword : Word.ofArgument ("-" ++ .ofList [o.short] ++ value) =
          .short o.short (CommandLine.attached value.toList) :=
        Word.ofArgument_short (by simp) o.short_ne_hyphen
      refine .inr ⟨rfl, _, _, rfl, .inr hword, ?_⟩
      rintro ⟨c, cs, hvalue, hc⟩
      rw [← String.ofList_toList (s := value), hvalue]
      unfold CommandLine.attached
      split <;> simp_all

theorem exists_names (o : Opt) (value : String) (sp : Spelling) :
    ∃ arg rest given, sp.words o value = arg :: rest ∧ Names o given arg := by
  obtain ⟨-, arg, hwords, hnames⟩ | ⟨-, arg, given, hwords, hnames, -⟩ := sp.words_cases o value
  · exact ⟨arg, _, _, hwords, hnames⟩
  · exact ⟨arg, _, _, hwords, hnames⟩

end Spelling

/-! ### Names at a level -/

variable {o : Opt} {level : Level}

theorem find?_long (h : o ∈ level.options) :
    level.options.find? (·.long == o.long) = some o := by
  revert h
  rcases level with _ | s
  · cases o <;> decide
  · cases s <;> cases o <;> decide

theorem find?_short (h : o ∈ level.options) :
    level.options.find? (·.short == o.short) = some o := by
  revert h
  rcases level with _ | s
  · cases o <;> decide
  · cases s <;> cases o <;> decide

/-- Another level's option has no name in common with what the level knows. -/
theorem find?_of_notMem (h : o ∉ level.options) :
    (level.options.find? (·.long == o.long) = none ∧
        level.switches.find? (·.long == o.long) = none) ∧
      level.options.find? (·.short == o.short) = none ∧
        level.switches.find? (·.short == o.short) = none := by
  revert h
  rcases level with _ | s
  · cases o <;> decide
  · cases s <;> cases o <;> decide

namespace Progress

theorem option_none (p : Progress) (o : Opt) :
    p.option o none = p.settle.map (⟨·, some ⟨o, none⟩⟩) := by
  unfold option
  cases p.settle <;> rfl

theorem option_some (p : Progress) (o : Opt) (text : String) :
    p.option o (some text) = (p.settle >>= fun g => g.set o text).map (⟨·, none⟩) := by
  unfold option
  cases p.settle with
  | error e => rfl
  | ok g => exact bind_pure_comp (fun g => (⟨g, none⟩ : Progress)) (g.set o text)

end Progress

/-! ### One argument -/

/-- Where the reading of a subcommand's arguments stands. -/
structure Cursor where
  progress : Progress := {}
  /-- Nothing may follow. -/
  closed : Bool := false

namespace Cursor

variable {env : Option String} {s : Subcommand} {p : Progress} {value : Option String}
  {arg text : String}

/-- What becomes of the next argument. -/
def step (env : Option String) (s : Subcommand) (c : Cursor) (arg : String) :
    Except Stop Cursor :=
  if c.closed then .error (.usage .unknownArgument)
  else
    match Word.ofArgument arg with
    | .escape => .ok ⟨c.progress, true⟩
    | .long name value =>
      (flagged env (.subcommand s) c.progress value value.isSome
        ((Level.subcommand s).options.find? (·.long == name))
        ((Level.subcommand s).switches.find? (·.long == name))).map (⟨·, false⟩)
    | .short flag value =>
      (flagged env (.subcommand s) c.progress value false
        ((Level.subcommand s).options.find? (·.short == flag))
        ((Level.subcommand s).switches.find? (·.short == flag))).map (⟨·, false⟩)
    | .plain =>
      match c.progress.pending with
      | some ⟨o, none⟩ => .ok ⟨{ c.progress with pending := some ⟨o, some arg⟩ }, false⟩
      | _ => .error (.usage .unknownArgument)

theorem step_of_names (h : Names o value arg) (ho : o ∈ (Level.subcommand s).options) :
    step env s ⟨p, false⟩ arg = ((p.option o value).mapError .usage).map (⟨·, false⟩) := by
  unfold step
  rw [if_neg Bool.false_ne_true]
  rcases h with h | h
  · rw [h]
    dsimp only
    rw [find?_long ho]
    rfl
  · rw [h]
    dsimp only
    rw [find?_short ho]
    rfl

theorem step_of_awaited {g : Given} (h : ¬ Hyphened text) :
    step env s ⟨⟨g, some ⟨o, none⟩⟩, false⟩ text = .ok ⟨⟨g, some ⟨o, some text⟩⟩, false⟩ := by
  unfold step
  rw [if_neg Bool.false_ne_true, Word.ofArgument_eq_plain h]

/-! ### All arguments -/

theorem scan_eq_foldlM (env : Option String) (s : Subcommand) (p : Progress)
    (args : List String) :
    scan env (.subcommand s) p args =
      (args.foldlM (step env s) ⟨p, false⟩).map fun c => (c.progress, none) := by
  induction args generalizing p with
  | nil => rfl
  | cons arg args ih =>
      rw [List.foldlM_cons, step]
      unfold scan
      simp only [reduceCtorEq, false_and, if_false, Bool.false_eq_true]
      cases Word.ofArgument arg with
      | escape => cases args <;> rfl
      | long name value =>
          dsimp only
          cases flagged env (.subcommand s) p value value.isSome
            ((Level.subcommand s).options.find? (·.long == name))
            ((Level.subcommand s).switches.find? (·.long == name)) with
          | error e => rfl
          | ok p => exact ih p
      | short flag value =>
          dsimp only
          cases flagged env (.subcommand s) p value false
            ((Level.subcommand s).options.find? (·.short == flag))
            ((Level.subcommand s).switches.find? (·.short == flag)) with
          | error e => rfl
          | ok p => exact ih p
      | plain =>
          obtain ⟨g, _ | ⟨o, _ | text⟩⟩ := p
          · rfl
          · exact ih ⟨g, some ⟨o, some arg⟩⟩
          · rfl

/-- What the options are given from here to the last argument. -/
def given (env : Option String) (s : Subcommand) (c : Cursor) (args : List String) :
    Except Stop Given := do
  settled (← args.foldlM (step env s) c).progress

theorem given_cons (c : Cursor) (arg : String) (args : List String) :
    given env s c (arg :: args) = step env s c arg >>= fun c => given env s c args := by
  unfold given
  rw [List.foldlM_cons, bind_assoc]

theorem given_append (c : Cursor) (front back : List String) :
    given env s c (front ++ back) =
      front.foldlM (step env s) c >>= fun c => given env s c back := by
  unfold given
  rw [List.foldlM_append, bind_assoc]

theorem given_apart (h : Names o none arg) (ho : o ∈ (Level.subcommand s).options)
    (htext : ¬ Hyphened text) (p : Progress) (back : List String) :
    given env s ⟨p, false⟩ (arg :: text :: back) = p.settle.mapError .usage >>= fun g =>
      given env s ⟨⟨g, some ⟨o, some text⟩⟩, false⟩ back := by
  rw [given_cons, step_of_names h ho, Progress.option_none]
  cases p.settle with
  | error e => rfl
  | ok g =>
      change given env s ⟨⟨g, some ⟨o, none⟩⟩, false⟩ (text :: back) = _
      rw [given_cons, step_of_awaited htext]
      rfl

theorem given_joined (h : Names o (some text) arg) (ho : o ∈ (Level.subcommand s).options)
    (p : Progress) (back : List String) :
    given env s ⟨p, false⟩ (arg :: back) =
      (p.settle >>= fun g => g.set o text).mapError .usage >>= fun g =>
        given env s ⟨⟨g, none⟩, false⟩ back := by
  rw [given_cons, step_of_names h ho, Progress.option_some]
  cases p.settle >>= fun g => g.set o text <;> rfl

/-- An option's value is set at once, or not before the next option if it has an argument of its
own. -/
theorem given_words (env : Option String) {sp : Spelling} (ho : o ∈ (Level.subcommand s).options)
    (hcarries : sp.Carries text) (p : Progress) (back : List String) :
    (given env s ⟨p, false⟩ (sp.words o text ++ back) = p.settle.mapError .usage >>= fun g =>
        given env s ⟨⟨g, some ⟨o, some text⟩⟩, false⟩ back) ∨
      given env s ⟨p, false⟩ (sp.words o text ++ back) =
        (p.settle >>= fun g => g.set o text).mapError .usage >>= fun g =>
          given env s ⟨⟨g, none⟩, false⟩ back := by
  obtain ⟨hapart, arg, hwords, hnames⟩ | ⟨-, arg, value, hwords, hnames, hvalue⟩ :=
    sp.words_cases o text
  · have htext := (Spelling.carries_iff_of_apart hapart).mp hcarries
    left
    rw [hwords]
    exact given_apart hnames ho htext p back
  · obtain rfl := hvalue hcarries
    right
    rw [hwords]
    exact given_joined hnames ho p back

end Cursor

variable {env : Option String} {s : Subcommand}

theorem subcommandAction_eq (env : Option String) (s : Subcommand) (args : List String) :
    subcommandAction env s args = (Cursor.given env s {} args).map (Action.of · s) := by
  unfold subcommandAction Cursor.given
  rw [Cursor.scan_eq_foldlM]
  cases args.foldlM (Cursor.step env s) {} <;> rfl

/-- Arguments that are accepted are gone through, and leave nothing that cannot be read. -/
theorem exists_cursor_of_accepted {args : List String} {action : Action}
    (h : subcommandAction env s args = .ok action) :
    ∃ c, args.foldlM (Cursor.step env s) {} = .ok c ∧ ∃ g, c.progress.settle = .ok g := by
  rw [subcommandAction_eq] at h
  unfold Cursor.given at h
  cases hc : args.foldlM (Cursor.step env s) {} with
  | error e =>
      rw [hc] at h
      cases h
  | ok c =>
      rw [hc] at h
      change ((c.progress.settle.mapError Stop.usage).map (Action.of · s)) = _ at h
      cases hg : c.progress.settle with
      | error e =>
          rw [hg] at h
          cases h
      | ok g => exact ⟨c, rfl, g, hg⟩

theorem exists_cursor_of_append {front back : List String} {action : Action}
    (h : subcommandAction env s (front ++ back) = .ok action) :
    ∃ c, front.foldlM (Cursor.step env s) {} = .ok c := by
  obtain ⟨c, hc, -⟩ := exists_cursor_of_accepted h
  rw [List.foldlM_append] at hc
  cases hfront : front.foldlM (Cursor.step env s) {} with
  | error e =>
      rw [hfront] at hc
      cases hc
  | ok c' => exact ⟨c', rfl⟩

/-! ### What is refused -/

/-- The subcommand refuses the argument wherever it stands. -/
def Unknown (env : Option String) (s : Subcommand) (arg : String) : Prop :=
  ∀ c : Cursor, c.step env s arg = .error (.usage .unknownArgument)

theorem unknown_of_notMem {value : Option String} {arg : String} (h : Names o value arg)
    (ho : o ∉ (Level.subcommand s).options) : Unknown env s arg := by
  intro c
  obtain ⟨⟨hlong, hlongSwitch⟩, hshort, hshortSwitch⟩ := find?_of_notMem ho
  unfold Cursor.step
  split_ifs
  · rfl
  · rcases h with h | h
    · rw [h]
      dsimp only
      rw [hlong, hlongSwitch]
      rfl
    · rw [h]
      dsimp only
      rw [hshort, hshortSwitch]
      rfl

namespace Cursor

variable {c : Cursor} {p : Progress} {e : UsageError}

theorem given_of_unknown {arg : String} (h : Unknown env s arg) {front : List String}
    {c' : Cursor} (hfront : front.foldlM (step env s) c = .ok c') (back : List String) :
    given env s c (front ++ arg :: back) = .error (.usage .unknownArgument) := by
  rw [given_append, hfront]
  change given env s c' (arg :: back) = _
  rw [given_cons, h c']
  rfl

theorem flagged_of_settle (h : p.settle = .error e) (env : Option String) (level : Level)
    (value : Option String) (assigned : Bool) (opt : Option Opt) (switch : Option Switch) :
    ∃ e', flagged env level p value assigned opt switch = .error (.usage e') := by
  unfold flagged
  rcases opt with _ | o
  · rcases switch with _ | w
    · exact ⟨_, rfl⟩
    · dsimp only
      rw [h]
      split_ifs <;> exact ⟨_, rfl⟩
  · dsimp only
    unfold Progress.option
    rw [h]
    exact ⟨_, rfl⟩

/-- A pending value that cannot be read is not replaced by another. -/
theorem step_of_settle (h : c.progress.settle = .error e) (hawaits : c.progress.awaits = false)
    (env : Option String) (s : Subcommand) (arg : String) :
    (∃ e', c.step env s arg = .error (.usage e')) ∨
      c.step env s arg = .ok ⟨c.progress, true⟩ := by
  unfold step
  split_ifs
  · exact .inl ⟨_, rfl⟩
  · cases Word.ofArgument arg with
    | escape => exact .inr rfl
    | long name value =>
        obtain ⟨e', he'⟩ := flagged_of_settle h env (.subcommand s) value value.isSome
          ((Level.subcommand s).options.find? (·.long == name))
          ((Level.subcommand s).switches.find? (·.long == name))
        dsimp only
        rw [he']
        exact .inl ⟨_, rfl⟩
    | short flag value =>
        obtain ⟨e', he'⟩ := flagged_of_settle h env (.subcommand s) value false
          ((Level.subcommand s).options.find? (·.short == flag))
          ((Level.subcommand s).switches.find? (·.short == flag))
        dsimp only
        rw [he']
        exact .inl ⟨_, rfl⟩
    | plain =>
        obtain ⟨⟨g, _ | ⟨o, _ | text⟩⟩, closed⟩ := c
        · exact .inl ⟨_, rfl⟩
        · cases hawaits
        · exact .inl ⟨_, rfl⟩

theorem given_of_settle (h : c.progress.settle = .error e) (hawaits : c.progress.awaits = false)
    (args : List String) : ∃ e', given env s c args = .error (.usage e') := by
  induction args generalizing c with
  | nil =>
      refine ⟨e, ?_⟩
      change c.progress.settle.mapError Stop.usage = _
      rw [h]
      rfl
  | cons arg args ih =>
      rw [given_cons]
      obtain ⟨e', he'⟩ | hstep := step_of_settle h hawaits env s arg
      · rw [he']
        exact ⟨e', rfl⟩
      · rw [hstep]
        exact ih h hawaits

/-- A value that its option never takes is refused, whatever surrounds it. -/
theorem given_words_of_set {text : String} {sp : Spelling}
    (hset : ∀ g : Given, ∃ e, g.set o text = .error e) (hcarries : sp.Carries text) (c : Cursor)
    (back : List String) :
    ∃ e, given env s c (sp.words o text ++ back) = .error (.usage e) := by
  obtain ⟨first, rest, found, hhead, hfirst⟩ := sp.exists_names o text
  obtain ⟨p, _ | _⟩ := c
  · by_cases ho : o ∈ (Level.subcommand s).options
    · obtain hgiven | hgiven := given_words env ho hcarries p back
      · rw [hgiven]
        cases p.settle with
        | error e => exact ⟨e, rfl⟩
        | ok g =>
            obtain ⟨e, he⟩ := hset g
            exact given_of_settle (c := ⟨⟨g, some ⟨o, some text⟩⟩, false⟩) he rfl back
      · rw [hgiven]
        cases p.settle with
        | error e => exact ⟨e, rfl⟩
        | ok g =>
            obtain ⟨e, he⟩ := hset g
            refine ⟨e, ?_⟩
            change (g.set o text).mapError Stop.usage >>= _ = _
            rw [he]
            rfl
    · rw [hhead, List.cons_append, given_cons, unknown_of_notMem hfirst ho]
      exact ⟨_, rfl⟩
  · rw [hhead, List.cons_append, given_cons]
    exact ⟨_, rfl⟩

end Cursor

/-! ### Options written one after the other -/

/-- An option, its value and how they are written. -/
structure Assignment where
  opt : Opt
  value : String
  spelling : Spelling
deriving DecidableEq, Repr

namespace Assignment

def words (a : Assignment) : List String := a.spelling.words a.opt a.value

/-- The subcommand knows the option, and the value is found where it is written. -/
structure Fits (s : Subcommand) (a : Assignment) : Prop where
  known : a.opt ∈ (Level.subcommand s).options
  carried : a.spelling.Carries a.value

end Assignment

def written (as : List Assignment) : List String := as.flatMap Assignment.words

example : written [⟨.deviceId, "-7", .longEquals⟩, ⟨.count, "3", .long⟩, ⟨.flag, "1", .attached⟩] =
    ["--device-id=-7", "--count", "3", "-f1"] := by decide

namespace Given

def setAll (g : Given) (as : List Assignment) : Except UsageError Given :=
  as.foldlM (fun g a => g.set a.opt a.value) g

theorem setAll_cons (g : Given) (a : Assignment) (as : List Assignment) :
    g.setAll (a :: as) = g.set a.opt a.value >>= fun g => g.setAll as :=
  List.foldlM_cons

variable {g g₁ g₂ : Given} {o' : Opt} {text text' : String}

/-- No option's value depends on another option. -/
theorem set_comm (h : g.set o text = .ok g₁) (h' : g₁.set o' text' = .ok g₂) :
    ∃ g₁', g.set o' text' = .ok g₁' ∧ g₁'.set o text = .ok g₂ := by
  cases o <;> cases o' <;> grind [Given.set, Given.has, Given.read]

theorem exists_set_of_setAll_cons {a : Assignment} {as : List Assignment}
    (h : g.setAll (a :: as) = .ok g₂) :
    ∃ g₁, g.set a.opt a.value = .ok g₁ ∧ g₁.setAll as = .ok g₂ := by
  rw [setAll_cons] at h
  cases hset : g.set a.opt a.value with
  | error e =>
      rw [hset] at h
      cases h
  | ok g₁ =>
      rw [hset] at h
      exact ⟨g₁, rfl, h⟩

theorem setAll_perm {as bs : List Assignment} (hperm : as.Perm bs) (h : g.setAll as = .ok g₂) :
    g.setAll bs = .ok g₂ := by
  induction hperm generalizing g with
  | nil => exact h
  | cons a _ ih =>
      obtain ⟨g₁, hset, hrest⟩ := exists_set_of_setAll_cons h
      rw [setAll_cons, hset]
      exact ih hrest
  | swap a b as =>
      obtain ⟨g₁, hfirst, hrest⟩ := exists_set_of_setAll_cons h
      obtain ⟨g₃, hsecond, hrest⟩ := exists_set_of_setAll_cons hrest
      obtain ⟨g₁', hfirst', hsecond'⟩ := set_comm hfirst hsecond
      rw [setAll_cons, hfirst']
      change g₁'.setAll (b :: as) = _
      rw [setAll_cons, hsecond']
      exact hrest
  | trans _ _ ih₁ ih₂ => exact ih₂ (ih₁ h)

end Given

/-- However they are written, options are set in their order. -/
theorem Cursor.given_written {as : List Assignment} (h : ∀ a ∈ as, a.Fits s) (p : Progress) :
    given env s ⟨p, false⟩ (written as) = (p.settle >>= fun g => g.setAll as).mapError .usage := by
  induction as generalizing p with
  | nil =>
      change settled p = (p.settle >>= pure).mapError .usage
      rw [bind_pure]
      rfl
  | cons a as ih =>
      obtain ⟨ha, has⟩ := List.forall_mem_cons.mp h
      change given env s ⟨p, false⟩ (a.spelling.words a.opt a.value ++ written as) = _
      obtain hgiven | hgiven := given_words env ha.known ha.carried p (written as)
      · rw [hgiven]
        cases p.settle with
        | error e => rfl
        | ok g => exact ih has ⟨g, some ⟨a.opt, some a.value⟩⟩
      · rw [hgiven]
        cases p.settle with
        | error e => rfl
        | ok g =>
            change (g.set a.opt a.value).mapError Stop.usage >>= _ =
              (g.set a.opt a.value >>= fun g => g.setAll as).mapError .usage
            cases g.set a.opt a.value with
            | error e => rfl
            | ok g => exact ih has ⟨g, none⟩

end CommandLine
end TelemetryExport
