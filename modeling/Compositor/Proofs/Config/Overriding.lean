import Compositor.Launch.Options
import Compositor.Proofs.Config.Acceptance
import Compositor.Proofs.Config.Resolving

set_option autoImplicit false

/-!
# Options in place of settings

The command line may give the startup command, which then takes the place of the configured one.
All other settings are those that validation has put into their normal form. The command of the
command line is taken as it is, so it may be blank, while a blank command of a file counts as
missing.

## Main definitions

* `LaunchOptions.loadConfigBy` — loading with any reader of documents.
* `Config.Settled` — what validation makes sure of, the startup command apart.
* `Config.ProperCommand` — a startup command that is missing or not blank.
* `Config.LogPlaced` — a log file that has an absolute path, or none.

## Main results

* `Config.Valid.settled_normal`, `Config.Settled.valid` — normal forms are settled, and what is
  settled is valid.
* `Config.Settled.normal_eq_self_iff` — when a settled configuration is its own normal form.
* `Environment.exists_logPath_again` — the place of the log file is looked up again.
* `LaunchOptions.loaded_proper_iff` — what loading with options makes sure of.
-/

namespace Compositor

/-! ## The log file -/

namespace Path

/-- A relative path is not the same below a directory that has a name. -/
lemma join_ne_self {directory path : String} (hd : directory ≠ "")
    (hp : isAbsolute path = false) : join directory path ≠ path := by
  have happend : ∀ front : String, front ++ path = path → front = "" := by
    intro front h
    rw [← String.toList_inj, String.toList_append] at h
    simpa using h
  intro h
  rw [join, if_neg (by simp [hp])] at h
  split at h
  · exact hd (happend _ h)
  · exact absurd (happend _ h) (by simp)

end Path

namespace Environment

variable {environment : Environment}

/-- The directory of the program's own files has a name. -/
lemma ownDirectory?_ne_empty {purpose : BaseDirectory} {directory : String}
    (h : environment.ownDirectory? purpose = some directory) : directory ≠ "" := by
  obtain ⟨base, -, rfl⟩ := Option.map_eq_some_iff.1 h
  have hname : Path.isAbsolute "nimbus" = false := by decide +kernel
  rw [Path.join, if_neg (by simp [hname])]
  split <;> simp

/-- The program's own directory is absolute if the user's directory is. -/
lemma isAbsolute_ownDirectory? {purpose : BaseDirectory} {directory : String}
    (hbase : ∀ base ∈ environment.directory? purpose, Path.isAbsolute base = true)
    (h : environment.ownDirectory? purpose = some directory) :
    Path.isAbsolute directory = true := by
  obtain ⟨base, hb, rfl⟩ := Option.map_eq_some_iff.1 h
  exact Path.isAbsolute_join (hbase base hb) "nimbus"

/-- A log file has an absolute path, or it lies in the program's own directory. -/
lemma logPath_cases {path place : Option String} (h : environment.logPath path = .ok place) :
    (∀ text ∈ place, Path.isAbsolute text = true) ∨
      ∃ directory text, environment.ownDirectory? .data = some directory ∧
        place = some (Path.join directory text) := by
  unfold logPath at h
  split at h
  · obtain rfl := Except.ok.inj h
    exact .inl nofun
  · rename_i text
    split at h <;> rename_i htext
    · obtain rfl := Except.ok.inj h
      exact .inl fun _ hmem => Option.some.inj hmem ▸ htext
    · split at h <;> rename_i hdirectory
      · exact .inr ⟨_, text, hdirectory, (Except.ok.inj h).symm⟩
      · cases h

/-- **The place of the log file is looked up again** without an error, and it stays the same just if
it has an absolute path by then. -/
lemma exists_logPath_again {path place : Option String}
    (h : environment.logPath path = .ok place) :
    ∃ again, environment.logPath place = .ok again ∧
      (again = place ↔ ∀ text ∈ place, Path.isAbsolute text = true) := by
  have hstays : (∀ text ∈ place, Path.isAbsolute text = true) →
      environment.logPath place = .ok place := by
    intro habsolute
    cases place with
    | none => rfl
    | some text => exact if_pos (habsolute text rfl)
  by_cases habsolute : ∀ text ∈ place, Path.isAbsolute text = true
  · exact ⟨place, hstays habsolute, iff_of_true rfl habsolute⟩
  · obtain ⟨directory, text, hd, rfl⟩ := (logPath_cases h).resolve_left habsolute
    have hrelative : Path.isAbsolute (Path.join directory text) = false := by
      simpa using habsolute
    refine ⟨some (Path.join directory (Path.join directory text)), ?_,
      iff_of_false (fun he => ?_) habsolute⟩
    · rw [logPath, if_neg (by simp [hrelative]), hd]
    · exact Path.join_ne_self (ownDirectory?_ne_empty hd) hrelative (Option.some.inj he)

/-- With an absolute data directory the log file has an absolute path. -/
lemma isAbsolute_of_logPath {path place : Option String}
    (hbase : ∀ base ∈ environment.directory? .data, Path.isAbsolute base = true)
    (h : environment.logPath path = .ok place) :
    ∀ text ∈ place, Path.isAbsolute text = true := by
  obtain habsolute | ⟨directory, text, hd, rfl⟩ := logPath_cases h
  · exact habsolute
  · have hjoin := Path.isAbsolute_join (isAbsolute_ownDirectory? hbase hd) text
    exact fun _ hmem => Option.some.inj hmem ▸ hjoin

end Environment

namespace Config

/-! ## Settled configurations -/

/-- What validation makes sure of, the startup command apart. -/
structure Settled (config : Config) : Prop where
  /-- The level is known and in lowercase. -/
  level : config.logging.level ∈ LogLevel.names
  /-- The format is known and in lowercase. -/
  format : config.logging.format ∈ LogFormat.names
  /-- The modifier is known and in lowercase. -/
  modifier : ∃ flag, (config.bindings.modifier, flag) ∈ Modifiers.words
  /-- The key bindings can be resolved. -/
  bindings : ∃ table, config.bindings.resolve = .ok table
  /-- Keyboards repeat. -/
  repeatRate : 0 < config.keyboard.repeatRate
  /-- They do not repeat before the key is pressed. -/
  repeatDelay : 0 ≤ config.keyboard.repeatDelay
  /-- The cursor has a size. -/
  cursorSize : config.cursor.size ≠ 0
  /-- It has an image. -/
  cursorImage : Blank.isBlank config.cursor.defaultImage = false

/-- A startup command that is missing or not blank. -/
def ProperCommand (command : Option String) : Prop :=
  ∀ text ∈ command, Blank.isBlank text = false

instance (command : Option String) : Decidable (ProperCommand command) :=
  inferInstanceAs (Decidable (∀ text ∈ command, Blank.isBlank text = false))

/-- A log file that has an absolute path, or none. -/
def LogPlaced (config : Config) : Prop :=
  ∀ path ∈ config.logging.filePath, Path.isAbsolute path = true

instance (config : Config) : Decidable config.LogPlaced :=
  inferInstanceAs (Decidable (∀ path ∈ config.logging.filePath, Path.isAbsolute path = true))

/-- Lowercasing leaves the names of levels and formats as they are. -/
lemma text_of_mem_names {name : String} (h : name ∈ LogLevel.names ++ LogFormat.names) :
    Lowercase.text name = name := by
  have htable : ((LogLevel.names ++ LogFormat.names).all fun name =>
      name.toList.all Lowercase.isPlain) = true := by decide +kernel
  exact Lowercase.text_eq_self_of_plain
    (List.all_eq_true.1 (List.all_eq_true.1 htable name h))

/-- Leaving out a blank command changes nothing just if the command is proper. -/
lemma filter_eq_self_iff {command : Option String} :
    command.filter (fun text => !Blank.isBlank text) = command ↔ ProperCommand command := by
  cases command with
  | none => simp [ProperCommand]
  | some text => simp [ProperCommand, Option.filter]

/-- What is left of a command is not blank. -/
lemma properCommand_filter (command : Option String) :
    ProperCommand (command.filter fun text => !Blank.isBlank text) := by
  intro text h
  simpa using (Option.mem_filter_iff.1 h).2

/-- Normal forms of valid configurations are settled. -/
lemma Valid.settled_normal {config : Config} (v : config.Valid) (filePath : Option String) :
    (config.normal filePath).Settled where
  level := v.level
  format := v.format
  modifier := by
    obtain ⟨table, h⟩ := v.bindings
    obtain ⟨flag, _, _, names, -⟩ := BindingsConfig.resolve_eq_ok_iff.1 h
    exact ⟨flag, Modifiers.ofName?_eq_some_iff.1
      (Modifiers.ofName?_text_eq_some_iff.2 names.isNamed)⟩
  bindings := (v.normal filePath).bindings
  repeatRate := v.repeatRate
  repeatDelay := v.repeatDelay
  cursorSize := v.cursorSize
  cursorImage := v.cursorImage

namespace Settled

variable {config : Config}

/-- What is settled is valid. -/
lemma valid (s : config.Settled) : config.Valid where
  level := by
    rw [text_of_mem_names (List.mem_append_left _ s.level)]
    exact s.level
  format := by
    rw [text_of_mem_names (List.mem_append_right _ s.format)]
    exact s.format
  repeatRate := s.repeatRate
  repeatDelay := s.repeatDelay
  bindings := s.bindings
  cursorSize := s.cursorSize
  cursorImage := s.cursorImage

/-- A settled configuration is its own normal form if its startup command is proper and its log file
stays where it is. -/
lemma normal_eq_self_iff (s : config.Settled) (filePath : Option String) :
    config.normal filePath = config ↔
      ProperCommand config.startupCommand ∧ filePath = config.logging.filePath := by
  obtain ⟨flag, hflag⟩ := s.modifier
  have hmodifier : Lowercase.text config.bindings.modifier = config.bindings.modifier :=
    Lowercase.text_eq_self_of_plain (Modifiers.isPlain_of_mem_words _ hflag)
  rw [normal, text_of_mem_names (List.mem_append_left _ s.level),
    text_of_mem_names (List.mem_append_right _ s.format), BindingsConfig.normal, hmodifier,
    ← filter_eq_self_iff]
  obtain ⟨⟨level, place, format⟩, keyboard, bindings, cursor, command⟩ := config
  simp [and_comm]

/-- The startup command does not matter. -/
lemma withCommand (s : config.Settled) (command : Option String) :
    { config with startupCommand := command }.Settled :=
  { s with }

end Settled

/-! ## Loading -/

/-- The configuration in the user's own file, where `read` reads the document. -/
def loadStandardBy (read : String → Option Config) (host : Host) : Except ConfigError Config :=
  match standardPath host.environment with
  | .ok path => loadBy read host path
  | .error cause => .error cause

/-- What is loaded has been validated. -/
lemma exists_validate_of_loadBy {read : String → Option Config} {host : Host} {path : String}
    {config : Config} (h : loadBy read host path = .ok config) :
    ∃ parsed : Config, parsed.validate host.environment = .ok config := by
  unfold loadBy at h
  split at h
  · unfold ofTextBy at h
    split at h
    · exact ⟨_, h⟩
    · cases h
  · split at h
    · exact ⟨standard, h⟩
    · cases h

end Config

namespace LaunchOptions

open Config

/-- Loads the configuration, where `read` reads the document, and applies the options to it. -/
def loadConfigBy (read : String → Option Config) (options : LaunchOptions) (host : Host) :
    Except Failure Config :=
  let loaded := match options.config with
    | some path => loadBy read host path
    | none => loadStandardBy read host
  match loaded with
  | .ok config => .ok (options.apply config)
  | .error cause => .error (.config cause)

/-- The program loads with its own reader. -/
lemma loadConfig_eq_loadConfigBy (options : LaunchOptions) (host : Host) :
    options.loadConfig host = options.loadConfigBy readTable? host := by
  unfold loadConfig loadStandard
  rw [load_eq_loadBy]
  rfl

/-- The options are applied to what has been validated. -/
lemma exists_validate_of_loadConfigBy {read : String → Option Config} {options : LaunchOptions}
    {host : Host} {config : Config} (h : options.loadConfigBy read host = .ok config) :
    ∃ parsed loaded : Config, parsed.validate host.environment = .ok loaded ∧
      config = options.apply loaded := by
  unfold loadConfigBy at h
  dsimp only at h
  split at h
  · rename_i loaded hloaded
    have hvalidate : ∃ parsed : Config, parsed.validate host.environment = .ok loaded := by
      split at hloaded
      · exact exists_validate_of_loadBy hloaded
      · unfold loadStandardBy at hloaded
        split at hloaded
        · exact exists_validate_of_loadBy hloaded
        · cases hloaded
    obtain ⟨parsed, hp⟩ := hvalidate
    exact ⟨parsed, loaded, hp, (Except.ok.inj h).symm⟩
  · cases h

/-- The startup command is proper if the one of the options is. -/
lemma properCommand_apply_iff {options : LaunchOptions} {config : Config}
    (h : ProperCommand config.startupCommand) :
    ProperCommand (options.apply config).startupCommand ↔ ProperCommand options.startup := by
  unfold apply
  cases options.startup with
  | none => exact iff_of_true h nofun
  | some text => rfl

/-- **What loading with options makes sure of**, whatever reads the document: all that validation
does but for the startup command, which is proper if the one of the options is. Validating the
configuration again succeeds. It changes nothing just if that command is proper and the log file has
an absolute path, as it has below an absolute data directory.

**Proof sketch.** What is loaded is a normal form but for the startup command. So it is settled, and
a settled configuration is its own normal form just if its command is proper and its log file stays
where it is (`Config.Settled.normal_eq_self_iff`), which takes an absolute path
(`Environment.exists_logPath_again`). -/
theorem loaded_proper_iff (read : String → Option Config) (options : LaunchOptions) (host : Host) :
    options.loadConfig host = options.loadConfigBy readTable? host ∧
    ∀ config : Config, options.loadConfigBy read host = .ok config →
      config.Settled ∧
      (ProperCommand config.startupCommand ↔ ProperCommand options.startup) ∧
      (∃ again, config.validate host.environment = .ok again ∧
        (again = config ↔ ProperCommand options.startup ∧ config.LogPlaced)) ∧
      ((∀ base ∈ host.environment.directory? .data, Path.isAbsolute base = true) →
        config.LogPlaced) := by
  refine ⟨loadConfig_eq_loadConfigBy options host, fun config h => ?_⟩
  obtain ⟨parsed, loaded, hvalidate, rfl⟩ := exists_validate_of_loadConfigBy h
  obtain ⟨v, place, hplace, rfl⟩ := validate_eq_ok_iff.1 hvalidate
  -- the options replace nothing but the command, which a settled configuration may have any of
  have hsettled : (options.apply (parsed.normal place)).Settled :=
    (v.settled_normal place).withCommand _
  have hproper : ProperCommand (options.apply (parsed.normal place)).startupCommand ↔
      ProperCommand options.startup :=
    properCommand_apply_iff (properCommand_filter parsed.startupCommand)
  obtain ⟨again, hagain, hstays⟩ := Environment.exists_logPath_again hplace
  refine ⟨hsettled, hproper, ⟨_, validate_eq_ok_iff.2 ⟨hsettled.valid, again, hagain, rfl⟩, ?_⟩,
    fun hbase => Environment.isAbsolute_of_logPath hbase hplace⟩
  rw [hsettled.normal_eq_self_iff, hproper]
  exact and_congr_right fun _ => hstays

/-! ## A machine with one file -/

/-- A machine on which every path leads to the same document. -/
def hostOf (document : String) (environment : Environment) : Host :=
  { Host.willing with environment := environment, readText := fun _ => .ok document }

/-- What is loaded on such a machine is what the document gives, with the command of the options. -/
lemma loadConfig_hostOf {document : String} {environment : Environment} {config : Config}
    (h : ofText environment document = .ok config) (startup : Option String) :
    loadConfig ⟨startup, some "/nimbus.toml"⟩ (hostOf document environment) =
      .ok (apply ⟨startup, some "/nimbus.toml"⟩ config) := by
  have hload : load (hostOf document environment) "/nimbus.toml" = .ok config := h
  unfold loadConfig
  dsimp only
  rw [hload]

/-- A level in capitals and a relative log file come out settled, with the command of the
options. -/
theorem loaded_proper_iff_foot :
    let environment : Environment := ⟨fun _ => some "/home/user/.local/share"⟩
    let document := "logging = [\"WARN\", \"log\"]\n"
    let host := hostOf document environment
    let options : LaunchOptions := ⟨some "foot", some "/nimbus.toml"⟩
    let config : Config := { standard with
      logging := ⟨"warn", some "/home/user/.local/share/nimbus/log", "text"⟩
      startupCommand := some "foot" }
    options.loadConfigBy readTable? host = .ok config ∧ config.Settled ∧
      ProperCommand config.startupCommand ∧ config.LogPlaced ∧
      config.validate environment = .ok config := by
  intro environment document host options config
  have htext : ofText environment document = .ok { config with startupCommand := none } := by
    decide +kernel
  have hload : options.loadConfig host = .ok config := loadConfig_hostOf htext (some "foot")
  have hbase : ∀ base ∈ environment.directory? .data, Path.isAbsolute base = true := by
    intro base hb
    obtain rfl := Option.mem_some.1 hb
    decide +kernel
  have hproper : ProperCommand options.startup := by
    decide +kernel
  rw [loadConfig_eq_loadConfigBy] at hload
  obtain ⟨hsettled, hcommand, ⟨again, hagain, hsame⟩, hplaced⟩ :=
    (loaded_proper_iff readTable? options host).2 config hload
  have hlog := hplaced hbase
  obtain rfl := hsame.2 ⟨hproper, hlog⟩
  exact ⟨hload, hsettled, hcommand.2 hproper, hlog, hagain⟩

/-- A blank command of the options is kept, and validation would drop it. Apart from that, a log
file below a relative data directory is put there again by each validation. -/
theorem exists_loaded_improper :
    (∃ (options : LaunchOptions) (host : Host) (config : Config),
      options.loadConfig host = .ok config ∧ ¬ ProperCommand config.startupCommand ∧
        config.validate host.environment = .ok { config with startupCommand := none }) ∧
    ∃ (options : LaunchOptions) (host : Host) (config again : Config),
      options.startup = none ∧ options.loadConfig host = .ok config ∧ ¬ config.LogPlaced ∧
        config.validate host.environment = .ok again ∧ again ≠ config := by
  constructor
  · let environment : Environment := ⟨fun _ => some "/home/user/.local/share"⟩
    have htext : ofText environment "" = .ok standard := by decide +kernel
    exact ⟨⟨some " ", some "/nimbus.toml"⟩, hostOf "" environment,
      { standard with startupCommand := some " " }, loadConfig_hostOf htext (some " "),
      by decide +kernel, by decide +kernel⟩
  · let environment : Environment := ⟨fun _ => some "home/.local/share"⟩
    let document := "logging.file_path = \"log\"\n"
    let placed : String → Config := fun path =>
      { standard with logging := ⟨"info", some path, "text"⟩ }
    let place := "home/.local/share/nimbus/log"
    have htext : ofText environment document = .ok (placed place) := by decide +kernel
    exact ⟨⟨none, some "/nimbus.toml"⟩, hostOf document environment, placed place,
      placed ("home/.local/share/nimbus/" ++ place), rfl, loadConfig_hostOf htext none,
      by decide +kernel, by decide +kernel, by decide +kernel⟩

end LaunchOptions

end Compositor
