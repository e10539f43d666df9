import TelemetryExport.Proofs.CommandLine.Placement
import TelemetryExport.Proofs.Decimal.Digits

/-! # The values of options

An integer is written in decimal, and each option that takes one has a range (`Opt.Takes`).  What
is in the range is read exactly and what is not is refused, wherever it stands and in whichever
spelling (`valuesRead`).  An address is whatever text is written.

A text that begins with a hyphen is never the value of the option before it.  So an integer with a
minus sign has to be written in the same argument as its option
(`parse_seed_of_negative_apart`). -/

namespace TelemetryExport
namespace CommandLine

variable {env : Option String} {s : Subcommand} {text : String} {i : Int} {o : Opt}
  {sp : Spelling}

/-! ### Integers in decimal -/

/-- The text is the integer in decimal; there may be a plus sign or zeros in front of it. -/
inductive Denotes : List Char → Int → Prop
  | plain {digits : List Char} : digits ≠ [] → (∀ c ∈ digits, c.isDigit = true) →
      Denotes digits (naturalOfDigits digits)
  | plus {digits : List Char} : digits ≠ [] → (∀ c ∈ digits, c.isDigit = true) →
      Denotes ('+' :: digits) (naturalOfDigits digits)
  | minus {digits : List Char} : digits ≠ [] → (∀ c ∈ digits, c.isDigit = true) →
      Denotes ('-' :: digits) (-naturalOfDigits digits)

theorem denotes_toString (i : Int) : Denotes (toString i).toList i := by
  by_cases hi : 0 ≤ i
  · have h := Denotes.plain (Nat.toDigits_ne_nil (n := i.toNat) (b := 10)) fun c =>
      isDigit_of_mem_toDigits
    rw [naturalOfDigits_toDigits, Int.toNat_of_nonneg hi] at h
    rwa [toList_toString_of_nonneg hi]
  · have hneg := Int.not_le.mp hi
    have h := Denotes.minus (Nat.toDigits_ne_nil (n := (-i).toNat) (b := 10)) fun c =>
      isDigit_of_mem_toDigits
    rw [naturalOfDigits_toDigits, Int.toNat_of_nonneg (by omega), Int.neg_neg] at h
    rwa [toList_toString_of_neg hneg]

theorem hyphened_toString_iff : Hyphened (toString i) ↔ i < 0 := by
  unfold Hyphened
  by_cases hi : 0 ≤ i
  · obtain ⟨c, cs, hcs, hc⟩ := exists_toDigits_eq_cons i.toNat
    rw [toList_toString_of_nonneg hi, hcs]
    refine iff_of_false ?_ (Int.not_lt.mpr hi)
    rintro ⟨⟩
    cases hc
  · have hneg := Int.not_le.mp hi
    rw [toList_toString_of_neg hneg]
    exact iff_of_true rfl hneg

theorem integer?_of_denotes (h : Denotes text.toList i) : integer? text = some i := by
  unfold integer?
  generalize text.toList = cs at h
  cases h with
  | plain hne hall =>
      obtain ⟨c, more, rfl⟩ := List.exists_cons_of_ne_nil hne
      rw [takeSign_of_isDigit (hall c (by simp))]
      simp_all [Datum.withSign]
  | plus hne hall => simp_all [takeSign, Datum.withSign]
  | minus hne hall => simp_all [takeSign, Datum.withSign]

theorem integerWithin?_of_denotes (h : Denotes text.toList i) (low high : Int) :
    integerWithin? low high text = if low ≤ i ∧ i ≤ high then some i else none := by
  unfold integerWithin?
  rw [integer?_of_denotes h]
  simp [Option.filter]

theorem natural?_of_denotes (h : Denotes text.toList i) (hplain : ¬ Hyphened text) :
    natural? text = if 0 ≤ i ∧ i ≤ 18446744073709551615 then some i.toNat else none := by
  unfold Hyphened at hplain
  unfold natural?
  rw [if_neg hplain, integerWithin?_of_denotes h]
  split_ifs <;> rfl

/-! ### Ranges -/

/-- The integers that an option takes; for an option with another value there is no restriction. -/
def Opt.Takes : Opt → Int → Prop
  | .flag, i => 0 ≤ i ∧ i ≤ 255
  | .deviceId, i => minInt64 ≤ i ∧ i ≤ maxInt64
  | .count, i => 0 ≤ i ∧ i ≤ 18446744073709551615
  | .config, _ => True
  | .addr, _ => True

namespace Given

variable {g : Given}

theorem set_flag (h : Denotes text.toList i) (hi : Opt.flag.Takes i) (hg : g.flag = none) :
    g.set .flag text = .ok { g with flag := some (.ofNat i.toNat) } := by
  have hread : integerWithin? 0 255 text = some i :=
    (integerWithin?_of_denotes h 0 255).trans (if_pos hi)
  simp [set, has, read, hg, hread]

theorem set_deviceId (h : Denotes text.toList i) (hi : Opt.deviceId.Takes i)
    (hg : g.deviceId = none) : g.set .deviceId text = .ok { g with deviceId := some i } := by
  have hread : integerWithin? minInt64 maxInt64 text = some i :=
    (integerWithin?_of_denotes h minInt64 maxInt64).trans (if_pos hi)
  simp [set, has, read, hg, hread]

theorem set_count (h : Denotes text.toList i) (hplain : ¬ Hyphened text) (hi : Opt.count.Takes i)
    (hg : g.count = none) : g.set .count text = .ok { g with count := some i.toNat } := by
  have hread : natural? text = some i.toNat :=
    (natural?_of_denotes h hplain).trans (if_pos hi)
  simp [set, has, read, hg, hread]

/-- An integer out of range is not brought into it. -/
theorem set_of_not_takes (h : Denotes text.toList i) (hi : ¬ o.Takes i) (hg : g.has o = false) :
    g.set o text = .error .valueValidation := by
  cases o with
  | config => exact absurd trivial hi
  | addr => exact absurd trivial hi
  | flag =>
      have hread : integerWithin? 0 255 text = none :=
        (integerWithin?_of_denotes h 0 255).trans (if_neg hi)
      simp [set, hg, read, hread]
  | deviceId =>
      have hread : integerWithin? minInt64 maxInt64 text = none :=
        (integerWithin?_of_denotes h minInt64 maxInt64).trans (if_neg hi)
      simp [set, hg, read, hread]
  | count =>
      have hread : natural? text = none := by
        by_cases hplain : Hyphened text
        · exact if_pos hplain
        · exact (natural?_of_denotes h hplain).trans (if_neg hi)
      simp [set, hg, read, hread]

theorem exists_set_eq_error (h : Denotes text.toList i) (hi : ¬ o.Takes i) (g : Given) :
    ∃ e, g.set o text = .error e := by
  cases hg : g.has o with
  | true => exact ⟨.argumentConflict, if_pos hg⟩
  | false => exact ⟨.valueValidation, set_of_not_takes h hi hg⟩

end Given

/-! ### Where an integer may stand -/

theorem carries_of_denotes (h : Denotes text.toList i)
    (hplain : sp.apart = true → ¬ Hyphened text) : sp.Carries text := by
  cases sp with
  | long | short => exact hplain rfl
  | longEquals | shortEquals => trivial
  | attached =>
      unfold Spelling.Carries
      generalize text.toList = cs at h
      cases h with
      | plain hne hall =>
          obtain ⟨c, more, rfl⟩ := List.exists_cons_of_ne_nil hne
          refine ⟨c, more, rfl, ?_⟩
          rintro rfl
          exact absurd (hall '=' (by simp)) (by decide)
      | plus => exact ⟨_, _, rfl, by decide⟩
      | minus => exact ⟨_, _, rfl, by decide⟩

theorem isDigit_short (o : Opt) : o.short.isDigit = false := by cases o <;> decide

theorem Switch.isDigit_short (w : Switch) : w.short.isDigit = false := by cases w <;> decide

/-- A minus sign makes the integer an option that no subcommand knows. -/
theorem unknown_of_hyphened (h : Denotes text.toList i) (hhyphened : Hyphened text) :
    Unknown env s text := by
  obtain ⟨d, ds, hd, htext⟩ : ∃ d ds, d.isDigit = true ∧ text.toList = '-' :: d :: ds := by
    unfold Hyphened at hhyphened
    generalize text.toList = cs at h hhyphened
    cases h with
    | plain hne hall =>
        obtain ⟨c, more, rfl⟩ := List.exists_cons_of_ne_nil hne
        obtain rfl := Option.some_inj.mp hhyphened
        exact absurd (hall '-' (by simp)) (by decide)
    | plus => cases hhyphened
    | minus hne hall =>
        obtain ⟨c, more, rfl⟩ := List.exists_cons_of_ne_nil hne
        exact ⟨c, more, hall c (by simp), rfl⟩
  have hword : Word.ofArgument text = .short d (attached ds) := by
    apply Word.ofArgument_short htext
    rintro rfl
    cases hd
  have hoption : (Level.subcommand s).options.find? (·.short == d) = none := by
    apply List.find?_eq_none.mpr
    intro o _ heq
    rw [← beq_iff_eq.mp heq, isDigit_short] at hd
    cases hd
  have hswitch : (Level.subcommand s).switches.find? (·.short == d) = none := by
    apply List.find?_eq_none.mpr
    intro w _ heq
    rw [← beq_iff_eq.mp heq, Switch.isDigit_short] at hd
    cases hd
  intro c
  unfold Cursor.step
  rw [hword]
  dsimp only
  rw [hoption, hswitch]
  split_ifs <;> rfl

namespace Cursor

/-- An unknown argument is not the value of the option before it. -/
theorem given_words_of_unknown (hapart : sp.apart = true) (h : Unknown env s text) (c : Cursor)
    (back : List String) :
    given env s c (sp.words o text ++ back) = .error (.usage .unknownArgument) ∨
      ∃ e, c.progress.settle = .error e ∧
        given env s c (sp.words o text ++ back) = .error (.usage e) := by
  obtain ⟨-, arg, hwords, hnames⟩ | ⟨hjoined, -⟩ := sp.words_cases o text
  · rw [hwords, List.cons_append, given_cons]
    obtain ⟨p, _ | _⟩ := c
    · by_cases ho : o ∈ (Level.subcommand s).options
      · rw [step_of_names hnames ho, Progress.option_none]
        cases p.settle with
        | error e => exact .inr ⟨e, rfl, rfl⟩
        | ok g =>
            left
            change given env s ⟨⟨g, some ⟨o, none⟩⟩, false⟩ (text :: back) = _
            rw [given_cons, h]
            rfl
      · left
        rw [unknown_of_notMem hnames ho]
        rfl
    · exact .inl rfl
  · rw [hapart] at hjoined
    cases hjoined

theorem exists_given_words_eq_error (h : Denotes text.toList i) (hi : ¬ o.Takes i) (c : Cursor)
    (back : List String) :
    ∃ e, given env s c (sp.words o text ++ back) = .error (.usage e) := by
  by_cases hsign : sp.apart = true ∧ Hyphened text
  · obtain ⟨hapart, hhyphened⟩ := hsign
    obtain hgiven | ⟨e, -, hgiven⟩ :=
      given_words_of_unknown (o := o) hapart (unknown_of_hyphened h hhyphened) c back
    · exact ⟨_, hgiven⟩
    · exact ⟨e, hgiven⟩
  · have hcarries : sp.Carries text :=
      carries_of_denotes h fun hapart hhyphened => hsign ⟨hapart, hhyphened⟩
    exact given_words_of_set (Given.exists_set_eq_error h hi) hcarries c back

end Cursor

/-! ### Whole command lines -/

theorem parse_written {as : List Assignment} (h : ∀ a ∈ as, a.Fits s) :
    parse env (s.name :: written as) = (Given.setAll {} as).mapError .usage >>= fun g =>
      ((configPath env none).mapError .usage).map (⟨·, some (.of g s)⟩) := by
  have hgiven : Cursor.given env s {} (written as) = (Given.setAll {} as).mapError .usage :=
    Cursor.given_written h {}
  rw [parse_name, subcommandAction_eq, hgiven]
  cases Given.setAll {} as <;> rfl

theorem parse_signed {front : List String} {action : Action}
    (h : Denotes text.toList i) (hhyphened : Hyphened text) (hapart : sp.apart = true)
    (haccepted : subcommandAction env s front = .ok action) (o : Opt) (back : List String) :
    parse env (s.name :: (front ++ sp.words o text ++ back)) =
      .error (.usage .unknownArgument) := by
  obtain ⟨c, hfront, g, hsettle⟩ := exists_cursor_of_accepted haccepted
  have hgiven : Cursor.given env s c (sp.words o text ++ back) =
      .error (.usage .unknownArgument) := by
    obtain hgiven | ⟨e, herror, -⟩ :=
      Cursor.given_words_of_unknown (o := o) hapart (unknown_of_hyphened h hhyphened) c back
    · exact hgiven
    · rw [hsettle] at herror
      cases herror
  rw [parse_name, subcommandAction_eq, List.append_assoc, Cursor.given_append, hfront]
  change (Cursor.given env s c (sp.words o text ++ back)).map _ >>= _ = _
  rw [hgiven]
  rfl

theorem exists_parse_eq_error (h : Denotes text.toList i) (hi : ¬ o.Takes i)
    (front back : List String) :
    ∃ stop, parse env (s.name :: (front ++ sp.words o text ++ back)) = .error stop ∧
      ∀ action, subcommandAction env s front = .ok action → ∃ e, stop = .usage e := by
  rw [parse_name, subcommandAction_eq, List.append_assoc, Cursor.given_append]
  cases hfront : front.foldlM (Cursor.step env s) {} with
  | error stop =>
      refine ⟨stop, rfl, ?_⟩
      intro action haccepted
      obtain ⟨c, hc, -⟩ := exists_cursor_of_accepted haccepted
      rw [hfront] at hc
      cases hc
  | ok c =>
      obtain ⟨e, he⟩ : ∃ e, Cursor.given env s c (sp.words o text ++ back) = .error (.usage e) :=
        Cursor.exists_given_words_eq_error h hi c back
      refine ⟨.usage e, ?_, fun _ _ => ⟨e, rfl⟩⟩
      change (Cursor.given env s c (sp.words o text ++ back)).map _ >>= _ = _
      rw [he]
      rfl

/-- Two options may be written in either order. -/
theorem parse_written_pair {a b : Assignment} {as : List Assignment} {g₁ g₂ : Given}
    (hperm : as.Perm [a, b]) (ha : a.Fits s) (hb : b.Fits s)
    (hfirst : Given.set {} a.opt a.value = .ok g₁) (hsecond : g₁.set b.opt b.value = .ok g₂) :
    parse env (s.name :: written as) =
      ((configPath env none).mapError .usage).map (⟨·, some (.of g₂ s)⟩) := by
  have hfits : ∀ x ∈ as, x.Fits s := by
    intro x hx
    rcases List.mem_cons.mp (hperm.mem_iff.mp hx) with rfl | hx
    · exact ha
    · rwa [List.mem_singleton.mp hx]
  have hset : Given.setAll {} [a, b] = .ok g₂ := by
    rw [Given.setAll_cons, hfirst]
    change g₁.setAll [b] = _
    rw [Given.setAll_cons, hsecond]
    rfl
  rw [parse_written hfits, Given.setAll_perm hperm.symm hset]
  rfl

theorem parse_seed {d : Int} {n : Nat} {device count : Spelling} {as : List Assignment}
    (hd : Opt.deviceId.Takes d) (hn : Opt.count.Takes n) (hdevice : device.apart = true → 0 ≤ d)
    (hperm : as.Perm [⟨.deviceId, toString d, device⟩, ⟨.count, toString (n : Int), count⟩]) :
    parse env (Subcommand.seed.name :: written as) =
      ((configPath env none).mapError .usage).map (⟨·, some (.seed d n)⟩) := by
  have hdeviceKnown : Opt.deviceId ∈ (Level.subcommand .seed).options := by decide
  have hcountKnown : Opt.count ∈ (Level.subcommand .seed).options := by decide
  have hdevicePlain : device.apart = true → ¬ Hyphened (toString d) := by
    intro hapart
    rw [hyphened_toString_iff]
    exact Int.not_lt.mpr (hdevice hapart)
  have hcountPlain : ¬ Hyphened (toString (n : Int)) := by
    rw [hyphened_toString_iff]
    omega
  exact parse_written_pair hperm
    ⟨hdeviceKnown, carries_of_denotes (denotes_toString d) hdevicePlain⟩
    ⟨hcountKnown, carries_of_denotes (denotes_toString n) fun _ => hcountPlain⟩
    (Given.set_deviceId (denotes_toString d) hd rfl)
    (Given.set_count (denotes_toString n) hcountPlain hn rfl)

theorem parse_fetch {a : String} {f : UInt8} {addr flag : Spelling} {as : List Assignment}
    (ha : addr.Carries a)
    (hperm : as.Perm [⟨.addr, a, addr⟩, ⟨.flag, toString (f.toNat : Int), flag⟩]) :
    parse env (Subcommand.fetch.name :: written as) =
      ((configPath env none).mapError .usage).map (⟨·, some (.fetch a f)⟩) := by
  have haddrKnown : Opt.addr ∈ (Level.subcommand .fetch).options := by decide
  have hflagKnown : Opt.flag ∈ (Level.subcommand .fetch).options := by decide
  have hf : Opt.flag.Takes f.toNat := by
    have hlt := f.toNat_lt
    unfold Opt.Takes
    omega
  have hflagPlain : ¬ Hyphened (toString (f.toNat : Int)) := by
    rw [hyphened_toString_iff]
    omega
  have hsecond := Given.set_flag (g := { addr := some a }) (denotes_toString f.toNat) hf rfl
  rw [Int.toNat_natCast, UInt8.ofNat_toNat] at hsecond
  exact parse_written_pair hperm ⟨haddrKnown, ha⟩
    ⟨hflagKnown, carries_of_denotes (denotes_toString f.toNat) fun _ => hflagPlain⟩ rfl hsecond

theorem parse_out_of_range {as : List Assignment} {g : Given} (h : Denotes text.toList i)
    (hi : ¬ o.Takes i) (hcarries : sp.Carries text) (ho : o ∈ (Level.subcommand s).options)
    (has : ∀ a ∈ as, a.Fits s) (hset : Given.setAll {} as = .ok g) (hg : g.has o = false) :
    parse env (s.name :: written (as ++ [⟨o, text, sp⟩])) = .error (.usage .valueValidation) := by
  have hfits : ∀ a ∈ as ++ [⟨o, text, sp⟩], a.Fits s :=
    List.forall_mem_append.mpr ⟨has, List.forall_mem_singleton.mpr ⟨ho, hcarries⟩⟩
  have herror : Given.setAll {} (as ++ [⟨o, text, sp⟩]) = .error .valueValidation := by
    unfold Given.setAll at hset ⊢
    rw [List.foldlM_append, hset]
    change Given.setAll g [⟨o, text, sp⟩] = _
    rw [Given.setAll_cons, Given.set_of_not_takes h hi hg]
    rfl
  rw [parse_written hfits, herror]
  rfl

/-- What becomes of the values that a command line gives its options. -/
structure ValuesRead (env : Option String) : Prop where
  /-- A device id and a count are read back, in either order and in all spellings that a minus
  sign allows. -/
  seed : ∀ (d : Int) (n : Nat) (device count : Spelling) (as : List Assignment),
    minInt64 ≤ d → d ≤ maxInt64 → n < 2 ^ 64 → (device.apart = true → 0 ≤ d) →
      as.Perm [⟨.deviceId, toString d, device⟩, ⟨.count, toString n, count⟩] →
        parse env (Subcommand.seed.name :: written as) =
          ((configPath env none).mapError .usage).map (⟨·, some (.seed d n)⟩)
  /-- So are an address and a flag. -/
  fetch : ∀ (a : String) (f : UInt8) (addr flag : Spelling) (as : List Assignment),
    addr.Carries a → as.Perm [⟨.addr, a, addr⟩, ⟨.flag, toString f.toNat, flag⟩] →
      parse env (Subcommand.fetch.name :: written as) =
        ((configPath env none).mapError .usage).map (⟨·, some (.fetch a f)⟩)
  /-- With a minus sign and in an argument of its own, no integer is a value. -/
  signed : ∀ (s : Subcommand) (o : Opt) (i : Int) (text : String) (sp : Spelling)
    (front back : List String) (action : Action), Denotes text.toList i → Hyphened text →
      sp.apart = true → subcommandAction env s front = .ok action →
        parse env (s.name :: (front ++ sp.words o text ++ back)) =
          .error (.usage .unknownArgument)
  /-- An integer out of range is refused, whatever stands before and after it, and as wrong usage
  if what stands before it is accepted. -/
  refused : ∀ (s : Subcommand) (o : Opt) (i : Int) (text : String) (sp : Spelling)
    (front back : List String), Denotes text.toList i → ¬ o.Takes i →
      ∃ stop, parse env (s.name :: (front ++ sp.words o text ++ back)) = .error stop ∧
        ∀ action, subcommandAction env s front = .ok action → ∃ e, stop = .usage e
  /-- If all else is in order, it is refused for its value. -/
  outOfRange : ∀ (s : Subcommand) (o : Opt) (i : Int) (text : String) (sp : Spelling)
    (as : List Assignment) (g : Given), Denotes text.toList i → ¬ o.Takes i → sp.Carries text →
      o ∈ (Level.subcommand s).options → (∀ a ∈ as, a.Fits s) → Given.setAll {} as = .ok g →
        g.has o = false →
          parse env (s.name :: written (as ++ [⟨o, text, sp⟩])) =
            .error (.usage .valueValidation)

/-- **What is written is what is read**, or else the command line is refused. -/
theorem valuesRead (env : Option String) : ValuesRead env where
  seed := fun d n device count as hlow hhigh hn hdevice hperm =>
    parse_seed ⟨hlow, hhigh⟩ ⟨Int.natCast_nonneg n, by omega⟩ hdevice hperm
  fetch := fun a f addr flag as ha hperm => parse_fetch ha hperm
  signed := fun s o i text sp front back action h hhyphened hapart haccepted =>
    parse_signed h hhyphened hapart haccepted o back
  refused := fun s o i text sp front back h hi => exists_parse_eq_error h hi front back
  outOfRange := fun s o i text sp as g h hi hcarries ho has hset hg =>
    parse_out_of_range h hi hcarries ho has hset hg

example :
    parse none ["seed", "-n18446744073709551615", "--device-id=-9223372036854775808"] =
        .ok ⟨"config/farm-export.toml",
          some (.seed (-9223372036854775808) 18446744073709551615)⟩ ∧
      parse none ["fetch", "--flag", "256"] = .error (.usage .valueValidation) := by decide

/-- A negative device id is read in the same argument as its option only. -/
theorem parse_seed_of_negative_apart :
    (minInt64 ≤ -7 ∧ -7 ≤ maxInt64) ∧
      parse none ["seed", "--device-id", "-7", "--count", "3"] =
        .error (.usage .unknownArgument) ∧
      parse none ["seed", "--device-id=-7", "--count=3"] =
        .ok ⟨"config/farm-export.toml", some (.seed (-7) 3)⟩ := by
  decide

end CommandLine
end TelemetryExport
