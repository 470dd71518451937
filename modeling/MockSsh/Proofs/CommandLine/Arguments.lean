import Mathlib.Data.List.TakeDrop
import Mathlib.Data.List.TakeWhile
import MockSsh.CommandLine

/-!
What an argument list says. A setting is a flag with its value, and there are several ways to write one:
the value may stand in the same argument (`Flag.Holds`) or in the next (`Flag.Names`). `Spells` is the
reverse of reading: it leads from settings to the argument lists that spell them. Reading goes exactly
where `Spells` comes from (`Spells.read`, `spells_of_ok`); so arguments are taken if and only if they
spell settings that can be set side by side (`parse_eq_ok_iff`).
-/
namespace MockSsh.CommandLine

/-! ## How settings are written -/

/-- The argument names the flag; the value is the next one. -/
inductive Flag.Names (flag : Flag) (argument : String) : Prop
  | long (h : argument.toList = '-' :: '-' :: flag.long.toList)
  | short {letter : Char} (hletter : flag.short? = some letter) (h : argument.toList = ['-', letter])

/-- The argument names the flag and holds its value. -/
inductive Flag.Holds (flag : Flag) (value argument : String) : Prop
  | long (h : argument.toList = '-' :: '-' :: (flag.long.toList ++ '=' :: value.toList))
  | short {letter : Char} (hletter : flag.short? = some letter)
      (h : argument.toList = '-' :: letter :: '=' :: value.toList)
  | attached {letter c : Char} {more : List Char} (hletter : flag.short? = some letter)
      (hvalue : value.toList = c :: more) (hsign : c ≠ '=')
      (h : argument.toList = '-' :: letter :: c :: more)

/-- What the end of an argument list asks for, given what was set before it. Behind a wish for help or
for the version anything may stand. -/
inductive Closes : (Options → Request) → List String → Prop
  | nothing : Closes .serve []
  | separator : Closes .serve ["--"]
  | help (rest : List String) : Closes (fun _ => .help true) ("--help" :: rest)
  | shortHelp {argument : String} {more : List Char} (h : argument.toList = '-' :: 'h' :: more)
      (rest : List String) : Closes (fun _ => .help false) (argument :: rest)
  | version (rest : List String) : Closes (fun _ => .version) ("--version" :: rest)
  | shortVersion {argument : String} {more : List Char} (h : argument.toList = '-' :: 'V' :: more)
      (rest : List String) : Closes (fun _ => .version) (argument :: rest)

/-- The arguments spell the settings, one after the other, and then what is asked for. -/
inductive Spells (request : Options → Request) : List (Flag × String) → List String → Prop
  | closing {arguments : List String} (h : Closes request arguments) : Spells request [] arguments
  | together {flag : Flag} {value argument : String} {settings : List (Flag × String)}
      {rest : List String} (h : flag.Holds value argument) (hrest : Spells request settings rest) :
      Spells request ((flag, value) :: settings) (argument :: rest)
  | apart {flag : Flag} {value argument : String} {settings : List (Flag × String)}
      {rest : List String} (h : flag.Names argument) (hvalue : Word.of value = .value)
      (hrest : Spells request settings rest) :
      Spells request ((flag, value) :: settings) (argument :: value :: rest)

/-! ## One argument -/

variable {flag : Flag} {value argument : String} {rest : List String} {options : Options}
  {answer : Request}

theorem Flag.find?_long {name : List Char} :
    Flag.all.find? (·.long.toList == name) = some flag ↔ flag.long.toList = name := by
  constructor
  · intro h
    simpa using List.find?_some h
  · rintro rfl
    cases flag <;> decide

theorem Flag.find?_short {letter : Char} :
    Flag.all.find? (·.short? == some letter) = some flag ↔ flag.short? = some letter := by
  constructor
  · intro h
    simpa using List.find?_some h
  · intro h
    cases flag with
    | config | listen =>
      cases h
      decide
    | channelIds | unknownMessages | logLevel => cases h

/-- No name has an equals sign, and none is empty. -/
theorem Flag.long_toList (flag : Flag) : '=' ∉ flag.long.toList ∧ flag.long.toList ≠ [] := by
  cases flag <;> decide

/-- A letter stands for nothing else. -/
theorem Flag.letter_of_short? {letter : Char} (h : flag.short? = some letter) :
    letter ≠ '-' ∧ letter ≠ 'h' ∧ letter ≠ 'V' := by
  cases flag with
  | config | listen =>
    cases h
    decide
  | channelIds | unknownMessages | logLevel => cases h

theorem all_of_notMem {cs : List Char} (h : '=' ∉ cs) : ∀ c ∈ cs, (c != '=') = true := by
  intro c hc
  rw [bne_iff_ne]
  rintro rfl
  exact h hc

theorem longParts_of_notMem {cs : List Char} (h : '=' ∉ cs) : longParts cs = (cs, none) := by
  have hall := all_of_notMem h
  rw [longParts, List.span_eq_takeWhile_dropWhile, List.takeWhile_eq_self_iff.mpr hall,
    List.dropWhile_eq_nil_iff.mpr hall]

theorem longParts_append {name : List Char} (h : '=' ∉ name) (value : List Char) :
    longParts (name ++ '=' :: value) = (name, some value) := by
  have hall := all_of_notMem h
  rw [longParts, List.span_eq_takeWhile_dropWhile, List.takeWhile_append_of_pos hall,
    List.dropWhile_append_of_pos hall]
  simp

/-- The parts of a long argument make it up again. -/
theorem longParts_cases {cs name : List Char} {value : Option (List Char)}
    (h : longParts cs = (name, value)) :
    (cs = name ∧ value = none) ∨ ∃ text, cs = name ++ '=' :: text ∧ value = some text := by
  by_cases hsign : '=' ∈ cs
  · obtain ⟨before, text, rfl, hbefore⟩ := List.eq_append_cons_of_mem hsign
    rw [longParts_append hbefore] at h
    cases h
    exact .inr ⟨text, rfl, rfl⟩
  · rw [longParts_of_notMem hsign] at h
    cases h
    exact .inl ⟨rfl, rfl⟩

theorem Word.of_long {cs : List Char} (h : argument.toList = '-' :: '-' :: cs)
    (hcs : cs ≠ []) : Word.of argument = .long (longParts cs).1 (longParts cs).2 := by
  unfold Word.of
  rw [h]
  cases cs with
  | nil => exact absurd rfl hcs
  | cons c cs => rfl

theorem Word.of_short {letter : Char} {more : List Char}
    (h : argument.toList = '-' :: letter :: more) (hletter : letter ≠ '-') :
    Word.of argument = .short letter more := by
  unfold Word.of
  rw [h]
  split <;> simp_all

theorem attachedValue?_of_ne {c : Char} (h : c ≠ '=') (more : List Char) :
    attachedValue? (c :: more) = some (String.ofList (c :: more)) := by
  unfold attachedValue?
  split
  · next heq => cases heq
  · next heq => exact absurd (List.cons.inj heq).1 h
  · rfl

/-- A flag by its name: its value is behind an equals sign, or still to come. -/
theorem readArguments_of_long {cs : List Char} {held : Option (List Char)}
    (h : argument.toList = '-' :: '-' :: cs) (hparts : longParts cs = (flag.long.toList, held)) :
    readArguments options none (argument :: rest)
      = held.elim (readArguments options (some flag) rest) fun value =>
          options.set flag (String.ofList value) >>= (readArguments · none rest) := by
  have hcs : cs ≠ [] := by
    rintro rfl
    exact flag.long_toList.2 (congrArg Prod.fst hparts).symm
  have hfound : Flag.all.find? (·.long.toList == flag.long.toList) = some flag :=
    Flag.find?_long.mpr rfl
  rw [readArguments.eq_def]
  simp only [Word.of_long h hcs, hparts, hfound]
  cases held <;> rfl

/-- A flag by its letter: its value is right behind it, or still to come. -/
theorem readArguments_of_short {letter : Char} {more : List Char}
    (hletter : flag.short? = some letter) (h : argument.toList = '-' :: letter :: more) :
    readArguments options none (argument :: rest)
      = (attachedValue? more).elim (readArguments options (some flag) rest) fun value =>
          options.set flag value >>= (readArguments · none rest) := by
  obtain ⟨hdash, hhelp, hversion⟩ := Flag.letter_of_short? hletter
  rw [readArguments.eq_def]
  simp only [Word.of_short h hdash, if_neg hhelp, if_neg hversion, Flag.find?_short.mpr hletter]
  cases attachedValue? more <;> rfl

theorem readArguments_of_names (h : flag.Names argument) (options : Options) (rest : List String) :
    readArguments options none (argument :: rest) = readArguments options (some flag) rest := by
  cases h with
  | long h => exact readArguments_of_long h (longParts_of_notMem flag.long_toList.1)
  | short hletter h => exact readArguments_of_short hletter h

theorem readArguments_of_holds (h : flag.Holds value argument) (options : Options)
    (rest : List String) :
    readArguments options none (argument :: rest)
      = options.set flag value >>= (readArguments · none rest) := by
  rw [← String.ofList_toList (s := value)]
  cases h with
  | long h => exact readArguments_of_long h (longParts_append flag.long_toList.1 value.toList)
  | short hletter h => exact readArguments_of_short hletter h
  | attached hletter hvalue hsign h =>
    rw [readArguments_of_short hletter h, attachedValue?_of_ne hsign, hvalue]
    rfl

theorem readArguments_of_closes {request : Options → Request} {arguments : List String}
    (h : Closes request arguments) (options : Options) :
    readArguments options none arguments = .ok (request options) := by
  cases h with
  | nothing => rfl
  | separator => rfl
  | help rest => rfl
  | shortHelp h rest =>
    rw [readArguments.eq_def]
    simp only [Word.of_short h (by decide)]
    rfl
  | version rest => rfl
  | shortVersion h rest =>
    rw [readArguments.eq_def]
    simp only [Word.of_short h (by decide)]
    rfl

/-- A flag that waits for its value takes the next argument, if that can be one. -/
theorem readArguments_of_value (h : Word.of value = .value) (flag : Flag)
    (options : Options) (rest : List String) :
    readArguments options (some flag) (value :: rest)
      = options.set flag value >>= (readArguments · none rest) := by
  rw [readArguments.eq_def]
  simp only [h]

/-- A flag that waits for its value must get one. -/
theorem value_of_ok {arguments : List String}
    (h : readArguments options (some flag) arguments = .ok answer) :
    ∃ value rest, arguments = value :: rest ∧ Word.of value = .value := by
  cases arguments with
  | nil => cases h
  | cons argument rest =>
    rw [readArguments.eq_def] at h
    refine ⟨argument, rest, rfl, ?_⟩
    cases hword : Word.of argument with
    | value => rfl
    | long name value => simp [hword] at h
    | short letter more => simp [hword] at h
    | separator => simp [hword] at h

theorem Word.of_eq_long {name : List Char} {held : Option (List Char)}
    (h : Word.of argument = .long name held) :
    ∃ cs, argument.toList = '-' :: '-' :: cs ∧ longParts cs = (name, held) := by
  unfold Word.of at h
  split at h
  · cases h
  · next rest _ heq => exact ⟨rest, heq, by cases h; rfl⟩
  · cases h
  · cases h

theorem Word.of_eq_short {letter : Char} {more : List Char}
    (h : Word.of argument = .short letter more) : argument.toList = '-' :: letter :: more := by
  unfold Word.of at h
  split at h
  · cases h
  · cases h
  · next heq =>
    cases h
    exact heq
  · cases h

theorem Word.of_eq_separator (h : Word.of argument = .separator) : argument = "--" := by
  unfold Word.of at h
  split at h
  · next heq => exact String.toList_injective heq
  · cases h
  · cases h
  · cases h

/-- What the first argument may be, if the arguments are taken. -/
theorem first_of_ok (h : readArguments options none (argument :: rest) = .ok answer) :
    (∃ request, Closes request (argument :: rest)) ∨ (∃ flag : Flag, flag.Names argument) ∨
      ∃ (flag : Flag) (value : String), flag.Holds value argument := by
  rw [readArguments.eq_def] at h
  cases hword : Word.of argument with
  | value =>
    simp only [hword] at h
    cases h
  | separator =>
    simp only [hword] at h
    cases rest with
    | nil =>
      rw [Word.of_eq_separator hword]
      exact .inl ⟨_, .separator⟩
    | cons extra rest => cases h
  | short letter more =>
    have hargument := Word.of_eq_short hword
    simp only [hword] at h
    by_cases hhelp : letter = 'h'
    · subst hhelp
      exact .inl ⟨_, .shortHelp hargument rest⟩
    by_cases hversion : letter = 'V'
    · subst hversion
      exact .inl ⟨_, .shortVersion hargument rest⟩
    rw [if_neg hhelp, if_neg hversion] at h
    cases hfound : Flag.all.find? (·.short? == some letter) with
    | none =>
      simp only [hfound] at h
      cases h
    | some flag =>
      have hletter := Flag.find?_short.mp hfound
      cases more with
      | nil => exact .inr (.inl ⟨flag, .short hletter hargument⟩)
      | cons c more =>
        refine .inr (.inr ⟨flag, ?_⟩)
        by_cases hsign : c = '='
        · subst hsign
          rw [← String.toList_ofList (l := more)] at hargument
          exact ⟨_, .short hletter hargument⟩
        · exact ⟨String.ofList (c :: more), .attached hletter String.toList_ofList hsign hargument⟩
  | long name value =>
    obtain ⟨cs, hargument, hparts⟩ := Word.of_eq_long hword
    simp only [hword] at h
    cases hfound : Flag.all.find? (·.long.toList == name) with
    | some flag =>
      have hname := Flag.find?_long.mp hfound
      rcases longParts_cases hparts with ⟨rfl, rfl⟩ | ⟨text, rfl, rfl⟩
      · rw [← hname] at hargument
        exact .inr (.inl ⟨flag, .long hargument⟩)
      · rw [← hname, ← String.toList_ofList (l := text)] at hargument
        exact .inr (.inr ⟨flag, _, .long hargument⟩)
    | none =>
      simp only [hfound] at h
      rcases longParts_cases hparts with ⟨rfl, rfl⟩ | ⟨text, rfl, rfl⟩
      · split at h
        · next hknown =>
          left
          rcases Bool.or_eq_true_iff.mp hknown with hname | hname
          · have hhelp : argument = "--help" := String.toList_injective (by
              rw [hargument, eq_of_beq hname]
              rfl)
            rw [hhelp]
            exact ⟨_, .help rest⟩
          · have hversion : argument = "--version" := String.toList_injective (by
              rw [hargument, eq_of_beq hname]
              rfl)
            rw [hversion]
            exact ⟨_, .version rest⟩
        · cases h
      · split at h <;> cases h

/-! ## All the arguments -/

/-- Sets the flags in order. -/
def Options.setAll (options : Options) (settings : List (Flag × String)) :
    Except UsageFault Options :=
  settings.foldlM (fun options setting => options.set setting.1 setting.2) options

theorem bind_eq_ok_iff {α β : Type} {first : Except UsageFault α} {next : α → Except UsageFault β}
    {last : β} : first >>= next = .ok last ↔ ∃ after, first = .ok after ∧ next after = .ok last := by
  cases first with
  | error fault => exact iff_of_false (fun h => nomatch h) fun ⟨_, h, _⟩ => nomatch h
  | ok after => exact ⟨fun h => ⟨after, rfl, h⟩, fun ⟨_, h, hlast⟩ => by cases h; exact hlast⟩

theorem Options.setAll_cons {last : Options} {settings : List (Flag × String)} :
    options.setAll ((flag, value) :: settings) = .ok last ↔
      ∃ after, options.set flag value = .ok after ∧ after.setAll settings = .ok last := by
  rw [setAll, List.foldlM_cons, bind_eq_ok_iff]
  rfl

/-- Arguments that spell settings are read as these settings. -/
theorem Spells.read {request : Options → Request} {settings : List (Flag × String)}
    {arguments : List String} (h : Spells request settings arguments) {last : Options}
    (hset : options.setAll settings = .ok last) :
    readArguments options none arguments = .ok (request last) := by
  induction h generalizing options with
  | closing h =>
    cases hset
    exact readArguments_of_closes h _
  | together h _ ih =>
    obtain ⟨after, hfirst, hrest⟩ := Options.setAll_cons.mp hset
    rw [readArguments_of_holds h, hfirst]
    exact ih hrest
  | apart h hvalue _ ih =>
    obtain ⟨after, hfirst, hrest⟩ := Options.setAll_cons.mp hset
    rw [readArguments_of_names h, readArguments_of_value hvalue, hfirst]
    exact ih hrest

/-- Arguments that are read spell settings: the induction is on how many they are, because a setting
takes one of them or two. -/
theorem spells_of_ok {arguments : List String}
    (h : readArguments options none arguments = .ok answer) :
    ∃ request settings last, Spells request settings arguments ∧
      options.setAll settings = .ok last ∧ answer = request last := by
  induction hcount : arguments.length using Nat.strongRecOn generalizing options arguments with
  | ind count ih =>
    cases arguments with
    | nil =>
      cases h
      exact ⟨_, [], options, .closing .nothing, rfl, rfl⟩
    | cons argument rest =>
      rcases first_of_ok h with ⟨request, hcloses⟩ | ⟨flag, hnames⟩ | ⟨flag, value, hholds⟩
      · rw [readArguments_of_closes hcloses] at h
        cases h
        exact ⟨request, [], options, .closing hcloses, rfl, rfl⟩
      · rw [readArguments_of_names hnames] at h
        obtain ⟨value, later, rfl, hvalue⟩ := value_of_ok h
        rw [readArguments_of_value hvalue, bind_eq_ok_iff] at h
        obtain ⟨after, hset, hlater⟩ := h
        have hless : later.length < count := by
          rw [← hcount, List.length_cons, List.length_cons]
          omega
        obtain ⟨request, settings, last, hspells, hall, hanswer⟩ := ih later.length hless hlater rfl
        exact ⟨request, _, last, .apart hnames hvalue hspells,
          Options.setAll_cons.mpr ⟨after, hset, hall⟩, hanswer⟩
      · rw [readArguments_of_holds hholds, bind_eq_ok_iff] at h
        obtain ⟨after, hset, hlater⟩ := h
        have hless : rest.length < count := by
          rw [← hcount, List.length_cons]
          exact Nat.lt_succ_self rest.length
        obtain ⟨request, settings, last, hspells, hall, hanswer⟩ := ih rest.length hless hlater rfl
        exact ⟨request, _, last, .together hholds hspells,
          Options.setAll_cons.mpr ⟨after, hset, hall⟩, hanswer⟩

/-! ## What is set -/

/-- The values that a flag takes. -/
def Flag.takes : Flag → String → Bool
  | config, value => !value.isEmpty
  | channelIds, value => (Choice.ofFlag? ChannelPolicy.choices false value).isSome
  | unknownMessages, value => (Choice.ofFlag? UnsupportedPolicy.choices false value).isSome
  | listen, _ | logLevel, _ => true

/-- The flag was not set so far. -/
def Options.lacks (options : Options) : Flag → Bool
  | .config => options.config.isNone
  | .listen => options.listen.isNone
  | .channelIds => options.channelPolicy.isNone
  | .unknownMessages => options.unsupportedPolicy.isNone
  | .logLevel => options.logLevel.isNone

/-- The options with what the settings say of the flags that were not set so far. -/
def Options.fill (options : Options) (settings : List (Flag × String)) : Options where
  config := options.config.or (settings.lookup .config)
  listen := options.listen.or (settings.lookup .listen)
  channelPolicy := options.channelPolicy.or
    ((settings.lookup .channelIds).bind (Choice.ofFlag? ChannelPolicy.choices false))
  unsupportedPolicy := options.unsupportedPolicy.or
    ((settings.lookup .unknownMessages).bind (Choice.ofFlag? UnsupportedPolicy.choices false))
  logLevel := options.logLevel.or (settings.lookup .logLevel)

theorem lookup_cons_eq_ite (flag other : Flag) (value : String) (settings : List (Flag × String)) :
    List.lookup other ((flag, value) :: settings)
      = if other = flag then some value else settings.lookup other := by
  rw [List.lookup_cons]
  by_cases h : other = flag
  · simp [h]
  · simp [h, beq_false_of_ne h]

theorem fill_single (options : Options) (flag : Flag) (value : String) :
    options.fill [(flag, value)] =
      match flag with
      | .config => { options with config := options.config.or (some value) }
      | .listen => { options with listen := options.listen.or (some value) }
      | .channelIds => { options with
          channelPolicy := options.channelPolicy.or
            (Choice.ofFlag? ChannelPolicy.choices false value) }
      | .unknownMessages => { options with
          unsupportedPolicy := options.unsupportedPolicy.or
            (Choice.ofFlag? UnsupportedPolicy.choices false value) }
      | .logLevel => { options with logLevel := options.logLevel.or (some value) } := by
  cases flag <;> simp [Options.fill, lookup_cons_eq_ite]

theorem Options.set_eq_ok_iff {after : Options} :
    options.set flag value = .ok after ↔
      flag.takes value = true ∧ options.lacks flag = true ∧
        after = options.fill [(flag, value)] := by
  rw [fill_single]
  obtain ⟨config, listen, channels, unsupported, logLevel⟩ := options
  cases flag with
  | config =>
    by_cases hvalue : value = ""
    · simp [set, Flag.takes, hvalue]
    · cases config <;>
        simp [set, hvalue, bind_eq_ok_iff, once, Flag.takes, lacks, pure, Except.pure,
          eq_comm (a := after)]
  | listen =>
    cases listen <;>
      simp [set, bind_eq_ok_iff, once, Flag.takes, lacks, pure, Except.pure, eq_comm (a := after)]
  | channelIds =>
    cases hchoice : Choice.ofFlag? ChannelPolicy.choices false value <;> cases channels <;>
      simp [set, choice, hchoice, bind_eq_ok_iff, once, Flag.takes, lacks, pure, Except.pure,
        eq_comm (a := after)]
  | unknownMessages =>
    cases hchoice : Choice.ofFlag? UnsupportedPolicy.choices false value <;> cases unsupported <;>
      simp [set, choice, hchoice, bind_eq_ok_iff, once, Flag.takes, lacks, pure, Except.pure,
        eq_comm (a := after)]
  | logLevel =>
    cases logLevel <;>
      simp [set, bind_eq_ok_iff, once, Flag.takes, lacks, pure, Except.pure, eq_comm (a := after)]

theorem Options.fill_nil (options : Options) : options.fill [] = options := by
  simp [fill]

theorem Options.lacks_fill_single (options : Options)
    (h : flag.takes value = true) (other : Flag) :
    (options.fill [(flag, value)]).lacks other = true ↔
      options.lacks other = true ∧ other ≠ flag := by
  rw [fill_single]
  obtain ⟨config, listen, channels, unsupported, logLevel⟩ := options
  cases flag <;> cases other <;> simp_all [lacks, Flag.takes, Option.isSome_iff_ne_none]

/-- What is set first wins over what would be set later. -/
theorem Options.fill_fill_single (options : Options)
    (h : flag.takes value = true) (settings : List (Flag × String)) :
    (options.fill [(flag, value)]).fill settings = options.fill ((flag, value) :: settings) := by
  rw [fill_single]
  cases flag with
  | config | listen | logLevel => simp [fill, lookup_cons_eq_ite]
  | channelIds =>
    obtain ⟨policy, hpolicy⟩ := Option.isSome_iff_exists.mp h
    simp [fill, lookup_cons_eq_ite, hpolicy]
  | unknownMessages =>
    obtain ⟨policy, hpolicy⟩ := Option.isSome_iff_exists.mp h
    simp [fill, lookup_cons_eq_ite, hpolicy]

/-- Settings are set if no flag stands there twice or was set before, and each takes its value. -/
theorem Options.setAll_eq_ok_iff {last : Options} {settings : List (Flag × String)} :
    options.setAll settings = .ok last ↔
      (settings.map Prod.fst).Nodup ∧
        (∀ setting ∈ settings,
          setting.1.takes setting.2 = true ∧ options.lacks setting.1 = true) ∧
        last = options.fill settings := by
  induction settings generalizing options with
  | nil =>
    rw [fill_nil]
    simp [setAll, pure, Except.pure, eq_comm (a := last)]
  | cons setting settings ih =>
    obtain ⟨flag, value⟩ := setting
    rw [setAll_cons]
    simp only [set_eq_ok_iff, ih]
    constructor
    · rintro ⟨_, ⟨htakes, hlacks, rfl⟩, hnodup, hall, rfl⟩
      have hlater : flag ∉ settings.map Prod.fst := by
        intro hmem
        obtain ⟨later, hlater, heq⟩ := List.mem_map.mp hmem
        exact ((lacks_fill_single options htakes _).mp (hall later hlater).2).2 heq
      refine ⟨List.nodup_cons.mpr ⟨hlater, hnodup⟩, ?_, fill_fill_single options htakes settings⟩
      rw [List.forall_mem_cons]
      exact ⟨⟨htakes, hlacks⟩, fun later hlater => ⟨(hall later hlater).1,
        ((lacks_fill_single options htakes _).mp (hall later hlater).2).1⟩⟩
    · rintro ⟨hnodup, hall, rfl⟩
      obtain ⟨hlater, hnodup⟩ := List.nodup_cons.mp hnodup
      obtain ⟨⟨htakes, hlacks⟩, hall⟩ := List.forall_mem_cons.mp hall
      refine ⟨_, ⟨htakes, hlacks, rfl⟩, hnodup, fun later hmem => ⟨(hall later hmem).1, ?_⟩,
        (fill_fill_single options htakes settings).symm⟩
      refine (lacks_fill_single options htakes _).mpr ⟨(hall later hmem).2, fun heq => hlater ?_⟩
      exact heq ▸ List.mem_map_of_mem hmem

/-- What is set by the settings alone. -/
def Options.ofSettings (settings : List (Flag × String)) : Options :=
  Options.empty.fill settings

/-- **What arguments say.** Arguments are taken if and only if they spell settings, with no flag twice and
with values that the flags take, up to their end or to a wish for help or for the version; and what they
ask for then has, for each flag, the value that was spelled for it. -/
theorem parse_eq_ok_iff (arguments : List String) (answer : Request) :
    parse arguments = .ok answer ↔
      ∃ request settings, Spells request settings arguments ∧ (settings.map Prod.fst).Nodup ∧
        (∀ setting ∈ settings, setting.1.takes setting.2 = true) ∧
        answer = request (.ofSettings settings) := by
  have hlacks (flag : Flag) : Options.empty.lacks flag = true := by cases flag <;> rfl
  constructor
  · intro h
    obtain ⟨request, settings, last, hspells, hset, rfl⟩ := spells_of_ok h
    obtain ⟨hnodup, hall, rfl⟩ := Options.setAll_eq_ok_iff.mp hset
    exact ⟨request, settings, hspells, hnodup, fun setting hmem => (hall setting hmem).1, rfl⟩
  · rintro ⟨request, settings, hspells, hnodup, hall, rfl⟩
    exact hspells.read (Options.setAll_eq_ok_iff.mpr
      ⟨hnodup, fun setting hmem => ⟨hall setting hmem, hlacks setting.1⟩, rfl⟩)

example :
    parse ["-l=[::]:22", "--config", "mirage.toml", "--channel-ids=zero", "--"]
      = .ok (.serve ⟨some "mirage.toml", some "[::]:22", some .zero, none, none⟩) := by rfl

end MockSsh.CommandLine
