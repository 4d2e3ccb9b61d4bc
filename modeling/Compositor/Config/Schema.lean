set_option autoImplicit false

/-!
# The configuration

The settings of the compositor, in sections, with the values that hold where a configuration file
says nothing.

## Main definitions

* `LoggingConfig`, `KeyboardConfig`, `BindingsConfig`, `CursorConfig` — the sections.
* `Config` — the whole configuration. Every section has its `standard` value.
-/

namespace Compositor

/-- Settings of the log. -/
structure LoggingConfig where
  /-- The name of the least severe level that is logged. -/
  level : String
  /-- The log file, if there is one. -/
  filePath : Option String
  /-- The name of the format of log lines. -/
  format : String
deriving DecidableEq

/-- The standard log: plain text from level `info` on, and no file. -/
def LoggingConfig.standard : LoggingConfig := ⟨"info", none, "text"⟩

/-- Repeat settings of keyboards. -/
structure KeyboardConfig where
  /-- Repeats per second. -/
  repeatRate : Int32
  /-- Milliseconds until the first repeat. -/
  repeatDelay : Int32
deriving DecidableEq

/-- The standard repeat settings. -/
def KeyboardConfig.standard : KeyboardConfig := ⟨25, 600⟩

/-- The key bindings, by names. -/
structure BindingsConfig where
  /-- The name of the accelerator modifier. -/
  modifier : String
  /-- The name of the keysym that ends the session. -/
  terminate : String
  /-- The name of the keysym that cycles the focus. -/
  cycleFocus : String
deriving DecidableEq

/-- The standard key bindings. -/
def BindingsConfig.standard : BindingsConfig := ⟨"alt", "Escape", "F1"⟩

/-- The appearance of the cursor. -/
structure CursorConfig where
  /-- The theme, or none for the toolkit's own choice. -/
  theme : Option String
  /-- The size in pixels. -/
  size : UInt32
  /-- The image that is shown where no window is. -/
  defaultImage : String
deriving DecidableEq

/-- The standard cursor. -/
def CursorConfig.standard : CursorConfig := ⟨none, 24, "default"⟩

/-- The settings of the compositor. -/
structure Config where
  /-- The log. -/
  logging : LoggingConfig
  /-- The keyboards. -/
  keyboard : KeyboardConfig
  /-- The key bindings. -/
  bindings : BindingsConfig
  /-- The cursor. -/
  cursor : CursorConfig
  /-- The command that is run once the display is ready. -/
  startupCommand : Option String
deriving DecidableEq

/-- The standard configuration. -/
def Config.standard : Config :=
  ⟨LoggingConfig.standard, KeyboardConfig.standard, BindingsConfig.standard,
    CursorConfig.standard, none⟩

end Compositor
