import Compositor.Config.Loading
import Compositor.Proofs.Text.Lowercase

set_option autoImplicit false

/-!
# Valid configurations and their normal forms

Validation is one pass over the settings that both checks them and rewrites some of them. Here the
two are taken apart: which configurations are valid is said without the pass, and so is what their
normal form is. A normal form is valid, and it is its own normal form.

## Main definitions

* `Config.Valid` — the settings are such as the compositor can work with.
* `Config.normal` — names in lowercase, the log file where it is, no blank startup command.

## Main results

* `BindingsConfig.resolve_normal` — the modifier's case does not matter to the binding table.
* `Config.validate_eq_ok_iff` — validation gives the normal form of valid configurations, provided
  that the place of the log file is known.
* `Config.Valid.normal`, `Config.normal_normal` — normal forms are valid, and stay as they are.
* `Config.validate_iff_valid` — with a data directory, validation accepts exactly the valid
  configurations, and changes nothing when it is done again.
-/

namespace Compositor

/-! ## Sections -/

/-- The names of the levels. -/
def LogLevel.names : List String := ["trace", "debug", "info", "warn", "error"]

/-- The names of the formats. -/
def LogFormat.names : List String := ["text", "json"]

/-- What is looked up by its name is found just for the names that there are. -/
lemma isSome_find?_iff_mem_map {α : Type} {items : List α} {nameOf : α → String} {name : String} :
    (items.find? fun item => nameOf item = name).isSome = true ↔ name ∈ items.map nameOf := by
  simp

namespace BindingsConfig

/-- The key bindings with the modifier's name in lowercase. -/
def normal (bindings : BindingsConfig) : BindingsConfig :=
  { bindings with modifier := Lowercase.text bindings.modifier }

/-- The modifier's case does not matter to the binding table, nor to what is said of it. -/
lemma resolve_normal (bindings : BindingsConfig) : bindings.normal.resolve = bindings.resolve := by
  have hflag : bindings.normal.modifierFlag = bindings.modifierFlag := by
    unfold modifierFlag normal
    rw [Lowercase.text_text]
  unfold resolve
  rw [hflag]
  rfl

/-- Putting a modifier's name into lowercase twice is putting it into lowercase once. -/
lemma normal_normal (bindings : BindingsConfig) : bindings.normal.normal = bindings.normal := by
  unfold normal
  rw [Lowercase.text_text]

/-- Key bindings that can be resolved are validated to their normal form. -/
lemma validate_eq_ok_iff {bindings result : BindingsConfig} :
    bindings.validate = .ok result ↔
      (∃ table, bindings.resolve = .ok table) ∧ result = bindings.normal := by
  have hresolve : resolve { bindings with modifier := Lowercase.text bindings.modifier } =
    bindings.resolve := resolve_normal bindings
  unfold validate
  dsimp only
  rw [hresolve]
  cases bindings.resolve with
  | ok table =>
    refine ⟨fun h => ⟨⟨table, rfl⟩, (Except.ok.inj h).symm⟩, fun h => ?_⟩
    rw [h.2]
    rfl
  | error cause => exact ⟨nofun, nofun⟩

end BindingsConfig

/-- Settings of the log with known names are validated if the log file has a place. -/
lemma LoggingConfig.validate_eq_ok_iff {environment : Environment}
    {logging result : LoggingConfig} :
    logging.validate environment = .ok result ↔
      (Lowercase.text logging.level ∈ LogLevel.names ∧
        Lowercase.text logging.format ∈ LogFormat.names) ∧
      ∃ filePath, environment.logPath logging.filePath = .ok filePath ∧
        result = ⟨Lowercase.text logging.level, filePath, Lowercase.text logging.format⟩ := by
  have hlevel : (LogLevel.ofName? (Lowercase.text logging.level)).isSome = true ↔
      Lowercase.text logging.level ∈ LogLevel.names := isSome_find?_iff_mem_map
  have hformat : (LogFormat.ofName? (Lowercase.text logging.format)).isSome = true ↔
      Lowercase.text logging.format ∈ LogFormat.names := isSome_find?_iff_mem_map
  rw [← hlevel, ← hformat]
  unfold validate
  dsimp only
  cases LogLevel.ofName? (Lowercase.text logging.level) with
  | none => exact ⟨nofun, nofun⟩
  | some level =>
    cases LogFormat.ofName? (Lowercase.text logging.format) with
    | none => exact ⟨nofun, nofun⟩
    | some format =>
      cases environment.logPath logging.filePath with
      | error cause => exact ⟨nofun, nofun⟩
      | ok filePath =>
        refine ⟨fun h => ⟨⟨rfl, rfl⟩, filePath, rfl, (Except.ok.inj h).symm⟩, ?_⟩
        rintro ⟨-, other, ho, rfl⟩
        rw [Except.ok.inj ho]
        rfl

/-- Keyboard settings are validated as they are. -/
lemma KeyboardConfig.validate_eq_ok_iff {keyboard result : KeyboardConfig} :
    keyboard.validate = .ok result ↔
      (0 < keyboard.repeatRate ∧ 0 ≤ keyboard.repeatDelay) ∧ result = keyboard := by
  have hrate : ¬ keyboard.repeatRate ≤ 0 ↔ 0 < keyboard.repeatRate := Int32.not_le
  have hdelay : ¬ keyboard.repeatDelay < 0 ↔ 0 ≤ keyboard.repeatDelay := Int32.not_lt
  unfold validate
  split <;> rename_i hr
  · exact ⟨nofun, fun h => absurd hr (hrate.2 h.1.1)⟩
  · split <;> rename_i hd
    · exact ⟨nofun, fun h => absurd hd (hdelay.2 h.1.2)⟩
    · exact ⟨fun h => ⟨⟨hrate.1 hr, hdelay.1 hd⟩, (Except.ok.inj h).symm⟩, fun h => by rw [h.2]⟩

/-- Cursor settings are validated as they are. -/
lemma CursorConfig.validate_eq_ok_iff {cursor result : CursorConfig} :
    cursor.validate = .ok result ↔
      (cursor.size ≠ 0 ∧ Blank.isBlank cursor.defaultImage = false) ∧ result = cursor := by
  unfold validate
  split <;> rename_i hs
  · exact ⟨nofun, fun h => absurd hs h.1.1⟩
  · split <;> rename_i hb
    · exact ⟨nofun, fun h => by simp [hb] at h⟩
    · exact ⟨fun h => ⟨⟨hs, Bool.eq_false_iff.2 hb⟩, (Except.ok.inj h).symm⟩, fun h => by rw [h.2]⟩

/-! ## The log file -/

/-- A path below an absolute one is absolute. -/
lemma Path.isAbsolute_join {base : String} (h : isAbsolute base = true) (path : String) :
    isAbsolute (join base path) = true := by
  have happend : ∀ rest : String, isAbsolute (base ++ rest) = true := by
    intro rest
    unfold isAbsolute at h ⊢
    rw [String.toList_append]
    cases hb : base.toList with
    | nil => simp [hb] at h
    | cons c cs => simpa [hb] using h
  unfold join
  split <;> rename_i hp
  · exact hp
  · split
    · exact happend path
    · rw [String.append_assoc]
      exact happend _

/-- A path below an absolute directory stays as it is below that directory. -/
lemma Path.join_join {directory : String} (h : isAbsolute directory = true) (path : String) :
    join directory (join directory path) = join directory path :=
  if_pos (isAbsolute_join h path)

/-- The log file lies below the directory of the program's own data. -/
lemma Environment.logPath_eq {environment : Environment} {directory : String}
    (h : environment.ownDirectory? .data = some directory) (filePath : Option String) :
    environment.logPath filePath = .ok (filePath.map (Path.join directory)) := by
  cases filePath with
  | none => rfl
  | some path =>
    rw [Option.map_some]
    unfold logPath
    dsimp only
    rw [h]
    split <;> rename_i hp
    · rw [Path.join, if_pos hp]
    · rfl

namespace Config

/-! ## The configuration -/

/-- The settings are such as the compositor can work with. -/
structure Valid (config : Config) : Prop where
  /-- The level is known, in any case. -/
  level : Lowercase.text config.logging.level ∈ LogLevel.names
  /-- The format is known, in any case. -/
  format : Lowercase.text config.logging.format ∈ LogFormat.names
  /-- Keyboards repeat. -/
  repeatRate : 0 < config.keyboard.repeatRate
  /-- They do not repeat before the key is pressed. -/
  repeatDelay : 0 ≤ config.keyboard.repeatDelay
  /-- The key bindings can be resolved. -/
  bindings : ∃ table, config.bindings.resolve = .ok table
  /-- The cursor has a size. -/
  cursorSize : config.cursor.size ≠ 0
  /-- It has an image. -/
  cursorImage : Blank.isBlank config.cursor.defaultImage = false

/-- The normal form of a configuration whose log file is at `filePath`: the names of level, format
and modifier are in lowercase, and there is no blank startup command. -/
def normal (config : Config) (filePath : Option String) : Config :=
  { config with
    logging := ⟨Lowercase.text config.logging.level, filePath,
      Lowercase.text config.logging.format⟩
    bindings := config.bindings.normal
    startupCommand := config.startupCommand.filter fun command => !Blank.isBlank command }

/-- A computation with a first part ends well if both parts do. -/
lemma bind_eq_ok_iff {ε α β : Type} {first : Except ε α} {rest : α → Except ε β} {result : β} :
    first >>= rest = .ok result ↔ ∃ value, first = .ok value ∧ rest value = .ok result := by
  cases first with
  | error cause => exact ⟨nofun, nofun⟩
  | ok value => exact ⟨fun h => ⟨value, rfl, h⟩, fun ⟨_, he, h⟩ => Except.ok.inj he ▸ h⟩

/-- **Validation gives the normal form of valid configurations**, if the log file has a place. -/
theorem validate_eq_ok_iff {environment : Environment} {config result : Config} :
    config.validate environment = .ok result ↔
      config.Valid ∧ ∃ filePath, environment.logPath config.logging.filePath = .ok filePath ∧
        result = config.normal filePath := by
  unfold validate
  simp only [bind_eq_ok_iff, LoggingConfig.validate_eq_ok_iff, KeyboardConfig.validate_eq_ok_iff,
    BindingsConfig.validate_eq_ok_iff, CursorConfig.validate_eq_ok_iff]
  constructor
  · rintro ⟨_, ⟨⟨hlevel, hformat⟩, filePath, hpath, rfl⟩, _, ⟨⟨hrate, hdelay⟩, rfl⟩, _,
      ⟨hbindings, rfl⟩, _, ⟨⟨hsize, himage⟩, rfl⟩, hresult⟩
    exact ⟨⟨hlevel, hformat, hrate, hdelay, hbindings, hsize, himage⟩, filePath, hpath,
      (Except.ok.inj hresult).symm⟩
  · rintro ⟨v, filePath, hpath, rfl⟩
    refine ⟨(config.normal filePath).logging, ⟨⟨v.level, v.format⟩, filePath, hpath, rfl⟩,
      config.keyboard, ⟨⟨v.repeatRate, v.repeatDelay⟩, rfl⟩,
      config.bindings.normal, ⟨v.bindings, rfl⟩,
      config.cursor, ⟨⟨v.cursorSize, v.cursorImage⟩, rfl⟩, rfl⟩

/-- The normal form of a valid configuration is valid. -/
lemma Valid.normal {config : Config} (v : config.Valid) (filePath : Option String) :
    (config.normal filePath).Valid where
  level := by
    rw [Config.normal, Lowercase.text_text]
    exact v.level
  format := by
    rw [Config.normal, Lowercase.text_text]
    exact v.format
  repeatRate := v.repeatRate
  repeatDelay := v.repeatDelay
  bindings := by
    rw [Config.normal, BindingsConfig.resolve_normal]
    exact v.bindings
  cursorSize := v.cursorSize
  cursorImage := v.cursorImage

/-- The normal form of a normal form differs from it in the place of the log file only. -/
lemma normal_normal (config : Config) (filePath other : Option String) :
    (config.normal filePath).normal other = config.normal other := by
  simp only [normal, Lowercase.text_text, BindingsConfig.normal_normal, Option.filter_filter,
    Bool.and_self]

/-- **With a data directory, validation accepts exactly the valid configurations**, gives their
normal form with the log file below the program's own data directory, and changes nothing when it
is done again. A log file with an absolute path stays where it is.

**Proof sketch.** With a data directory the log file has a place, so validation gives the normal
form of what is valid, and of nothing else (`validate_eq_ok_iff`). The normal form is valid again,
and its own normal form differs at most in the place of the log file (`normal_normal`), which has an
absolute path by then and stays. -/
theorem validate_iff_valid {environment : Environment} {base : String}
    (hb : environment.directory? .data = some base) (ha : Path.isAbsolute base = true)
    (config : Config) :
    ((∃ result, config.validate environment = .ok result) ↔ config.Valid) ∧
    ∀ result, config.validate environment = .ok result →
      result = config.normal
        (config.logging.filePath.map (Path.join (Path.join base "nimbus"))) ∧
      result.validate environment = .ok result := by
  set directory := Path.join base "nimbus"
  have hdirectory : environment.ownDirectory? .data = some directory := by
    rw [Environment.ownDirectory?, hb, Option.map_some]
  have hpath := Environment.logPath_eq hdirectory
  constructor
  · constructor
    · rintro ⟨result, h⟩
      exact (validate_eq_ok_iff.1 h).1
    · intro v
      exact ⟨_, validate_eq_ok_iff.2 ⟨v, _, hpath _, rfl⟩⟩
  · intro result h
    obtain ⟨v, filePath, hf, rfl⟩ := validate_eq_ok_iff.1 h
    obtain rfl : config.logging.filePath.map (Path.join directory) = filePath :=
      Except.ok.inj ((hpath _).symm.trans hf)
    refine ⟨rfl, validate_eq_ok_iff.2 ⟨v.normal _, _, hpath _, ?_⟩⟩
    -- the log file has an absolute path now
    have hjoin : Path.join directory ∘ Path.join directory = Path.join directory :=
      funext (Path.join_join (Path.isAbsolute_join ha "nimbus"))
    rw [normal_normal, Config.normal, Option.map_map, hjoin, Config.normal]

/-- Names in any case, a relative log file and a blank command are put into their normal form. -/
theorem validate_iff_valid_relative :
    let environment : Environment := ⟨fun _ => some "/data"⟩
    let config : Config := ⟨⟨"DEBUG", some "log/today", "Json"⟩, ⟨25, 600⟩,
      ⟨"Logo", "Escape", "q"⟩, ⟨none, 24, "default"⟩, some " "⟩
    let result : Config := ⟨⟨"debug", some "/data/nimbus/log/today", "json"⟩, ⟨25, 600⟩,
      ⟨"logo", "Escape", "q"⟩, ⟨none, 24, "default"⟩, none⟩
    environment.directory? .data = some "/data" ∧ Path.isAbsolute "/data" = true ∧ config.Valid ∧
      config.validate environment = .ok result ∧ result.validate environment = .ok result := by
  intro environment config result
  have hb : environment.directory? .data = some "/data" := rfl
  have ha : Path.isAbsolute "/data" = true := by decide +kernel
  have v : config.Valid := {
    level := by decide +kernel
    format := by decide +kernel
    repeatRate := by decide
    repeatDelay := by decide
    bindings := ⟨⟨.logo, [(.escape, .terminate), (⟨0x71⟩, .cycleFocus)]⟩, by decide +kernel⟩
    cursorSize := by decide
    cursorImage := by decide +kernel }
  obtain ⟨hiff, hnormal⟩ := validate_iff_valid hb ha config
  obtain ⟨found, hfound⟩ := hiff.2 v
  obtain ⟨he, hagain⟩ := hnormal found hfound
  obtain rfl : found = result := he.trans (by decide +kernel)
  exact ⟨hb, ha, v, hfound, hagain⟩

end Config

end Compositor
