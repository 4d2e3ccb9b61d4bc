import Compositor.Config.Loading
import Compositor.Headless
import Compositor.Logging.Setup
import Compositor.Proofs.Config.Validity
import Compositor.Proofs.Server.Subscriptions

set_option autoImplicit false

/-!
# Accepted configurations work

Names in a configuration are read in several places: when it is validated, when the log is set up
and when the server resolves its key bindings. The later readers see the normal form of what the
first one saw. Here they are shown to agree, whatever the names are, and whatever reads the
documents.

## Main definitions

* `Config.parsed?`, `Config.ofTextBy`, `Config.loadBy` — loading with any reader of documents.
* `Config.Usable` — nothing that comes after the loading refuses the configuration.

## Main results

* `Server.exists_create` — a server can be built if the key bindings can be resolved.
* `Log.install_ne_level` — the log does not refuse a level that has a name.
* `Config.usable_of_accepted` — what was accepted is usable.
-/

namespace Compositor

/-! ## The server -/

namespace Server

variable {T : Type} [Toolkit T]

/-- Subscriptions to handles that admit them are not refused. -/
lemma exists_wireAll {server : Server T} {wirings : List Wiring}
    (h : ∀ wiring ∈ wirings, server.registry.check wiring.handle = .ok ()) :
    ∃ after, server.wireAll wirings = .ok after := by
  induction wirings generalizing server with
  | nil => exact ⟨server, rfl⟩
  | cons wiring rest ih =>
    have hc := h wiring (List.mem_cons_self ..)
    have hfirst := Wired.register wiring hc
    have hrest : ∀ other ∈ rest,
        (server.register wiring.handle wiring.signal wiring.callback).2.registry.check
          other.handle = .ok () := by
      intro other ho
      rw [hfirst.check_eq]
      exact h other (List.mem_cons_of_mem _ ho)
    obtain ⟨after, ha⟩ := ih hrest
    refine ⟨after, ?_⟩
    rw [wireAll]
    cases hr : server.register wiring.handle wiring.signal wiring.callback with
    | mk result wired =>
      rw [hr] at ha
      cases result with
      | ok id => exact ha
      | error refusal =>
        unfold register at hr
        rw [hc] at hr
        dsimp only at hr
        split at hr <;> cases hr

/-- A server can be built around any toolkit if the key bindings can be resolved, and it uses the
table that they resolve to. -/
theorem exists_create {config : Config} {bindings : KeyBindings}
    (h : config.bindings.resolve = .ok bindings) (toolkit : T) (display : Option String) :
    ∃ server, create toolkit config display = .ok server ∧ server.bindings = bindings := by
  set themed := (unwired toolkit config bindings display).perform
    (.loadCursorTheme config.cursor.theme config.cursor.size) with hthemed
  have hadmits : ∀ wiring ∈ globalWiring themed.toolkit,
      themed.registry.check wiring.handle = .ok () := by
    intro wiring _
    simp [hthemed, perform, note, unwired, Registry.check, Registry.isRetired, Registry.empty]
  obtain ⟨server, hs⟩ := exists_wireAll hadmits
  refine ⟨server, ?_, ?_⟩
  · rw [create, h]
    dsimp only
    rw [← hthemed, hs]
  · obtain ⟨_, _, _, rfl⟩ := (Wired.wireAll hs).onlyOutside
    rfl

end Server

/-! ## The log -/

/-- The log does not refuse a level that has a name. -/
theorem Log.install_ne_level {config : LoggingConfig}
    (h : Lowercase.text config.level ∈ LogLevel.names) (log : Log) (host : Host) (reload : Bool)
    (name : String) : (log.install host config reload).result ≠ .ok (.error (.level name)) := by
  have hsome : (LogLevel.ofName? (Lowercase.text config.level)).isSome = true :=
    isSome_find?_iff_mem_map.2 h
  have hreplace : ∀ (log : Log) (asked : Option String) (format : LogFormat)
      (writer : Option LogWriter),
      (log.replace asked format writer reload).result ≠ .ok (.error (.level name)) := by
    intro log asked format writer
    unfold replace
    dsimp only
    split <;> simp
  unfold install
  dsimp only
  rw [if_neg (by simp [Option.isSome_iff_ne_none.1 hsome])]
  split
  · exact hreplace _ _ _ _
  · split
    · simp
    · split
      · simp
      · exact hreplace _ _ _ _

namespace Config

/-! ## Loading -/

/-- The configuration that a document gives, where `read` reads those that are not blank. -/
def parsed? (read : String → Option Config) (document : String) : Option Config :=
  if Blank.isBlank document then some standard else read document

/-- The valid configuration that a document gives. -/
def ofTextBy (read : String → Option Config) (environment : Environment) (document : String) :
    Except ConfigError Config :=
  match parsed? read document with
  | some config => config.validate environment
  | none => .error .malformed

/-- The configuration in the file at a path. -/
def loadBy (read : String → Option Config) (host : Host) (path : String) :
    Except ConfigError Config :=
  match host.readText path with
  | .ok document => ofTextBy read host.environment document
  | .error cause =>
    if cause.kind = .notFound then standard.validate host.environment
    else .error (.unreadable path cause)

/-- The reader of the program. -/
def readTable? (document : String) : Option Config :=
  (Toml.Table.ofText? document).bind ofTable?

/-- The program loads with its own reader. -/
lemma ofText_eq_ofTextBy : ofText = ofTextBy readTable? := by
  funext environment document
  unfold ofText ofTextBy ofDocument? parsed? readTable?
  cases Toml.Table.ofText? document <;> rfl

/-- The program loads files with its own reader. -/
lemma load_eq_loadBy : load = loadBy readTable? := by
  funext host path
  unfold load
  rw [ofText_eq_ofTextBy]
  rfl

/-- Nothing that comes after the loading refuses a configuration, and the key bindings are those
that were `parsed` from the document. -/
structure Usable (parsed config : Config) : Prop where
  /-- A server can be built around any toolkit. Its binding table is that of the configuration, and
  that of the document. -/
  exists_server {T : Type} [Toolkit T] (toolkit : T) (display : Option String) :
    ∃ server, Server.create toolkit config display = .ok server ∧
      config.bindings.resolve = .ok server.bindings ∧
      parsed.bindings.resolve = .ok server.bindings
  /-- The log does not refuse the level. -/
  install_ne_level (log : Log) (host : Host) (reload : Bool) (name : String) :
    (log.install host config.logging reload).result ≠ .ok (.error (.level name))

/-- What validation gives is usable. -/
lemma usable_of_validate {environment : Environment} {parsed config : Config}
    (h : parsed.validate environment = .ok config) : Usable parsed config := by
  obtain ⟨v, filePath, -, rfl⟩ := validate_eq_ok_iff.1 h
  obtain ⟨bindings, hb⟩ := v.bindings
  have hnormal : (parsed.normal filePath).bindings.resolve = .ok bindings :=
    parsed.bindings.resolve_normal.trans hb
  constructor
  · intro T _ toolkit display
    obtain ⟨server, hs, rfl⟩ := Server.exists_create hnormal toolkit display
    exact ⟨server, hs, hnormal, hb⟩
  · exact Log.install_ne_level (v.normal filePath).level

/-- **An accepted configuration works**, whatever reads the documents: whether it was given as a
text or in a file, a server can be built around any toolkit, with the binding table of the
configuration, which is that of the document as it was before names were put into lowercase; and
the log takes the level. The program itself loads in this way.

**Proof sketch.** Every accepted configuration comes from the validation of one that was read, or of
the standard one where there is no file (`usable_of_validate`). A validated configuration is a
normal form, whose names are known and whose key bindings resolve as before. -/
theorem usable_of_accepted :
    (ofText = ofTextBy readTable? ∧ load = loadBy readTable?) ∧
    ∀ (read : String → Option Config) (config : Config),
      (∀ environment document, ofTextBy read environment document = .ok config →
        ∃ parsed, parsed? read document = some parsed ∧ Usable parsed config) ∧
      (∀ host path, loadBy read host path = .ok config →
        ∃ parsed, ((∃ document, host.readText path = .ok document ∧
            parsed? read document = some parsed) ∨
          (∃ cause, host.readText path = .error cause ∧ cause.kind = .notFound) ∧
            parsed = standard) ∧ Usable parsed config) := by
  refine ⟨⟨ofText_eq_ofTextBy, load_eq_loadBy⟩, fun read config => ?_⟩
  have htext : ∀ environment document, ofTextBy read environment document = .ok config →
      ∃ parsed, parsed? read document = some parsed ∧ Usable parsed config := by
    intro environment document h
    unfold ofTextBy at h
    split at h <;> rename_i hp
    · exact ⟨_, hp, usable_of_validate h⟩
    · cases h
  refine ⟨htext, fun host path h => ?_⟩
  unfold loadBy at h
  split at h <;> rename_i hr
  · obtain ⟨parsed, hp, hu⟩ := htext _ _ h
    exact ⟨parsed, .inl ⟨_, hr, hp⟩, hu⟩
  · split at h <;> rename_i hkind
    · exact ⟨standard, .inr ⟨⟨_, hr, hkind⟩, rfl⟩, usable_of_validate h⟩
    · cases h

/-- A document that writes the modifier and the level with capitals gives a server whose window
keys need that modifier. -/
theorem usable_of_accepted_capitals :
    let document := "bindings = [\"Logo\"]\nlogging.level = \"Warn\"\n"
    let parsed : Config := { standard with
      logging := ⟨"Warn", none, "text"⟩, bindings := ⟨"Logo", "Escape", "F1"⟩ }
    let config : Config := { standard with
      logging := ⟨"warn", none, "text"⟩, bindings := ⟨"logo", "Escape", "F1"⟩ }
    ofTextBy readTable? ⟨fun _ => none⟩ document = .ok config ∧
      parsed? readTable? document = some parsed ∧ Usable parsed config ∧
      ∃ server, Server.create Headless.standard config none = .ok server ∧
        server.bindings = ⟨.logo, [(.escape, .terminate), (.f1, .cycleFocus)]⟩ := by
  intro document parsed config
  have hread : parsed? readTable? document = some parsed := by decide +kernel
  have hok : ofTextBy readTable? ⟨fun _ => none⟩ document = .ok config := by
    unfold ofTextBy
    rw [hread]
    decide +kernel
  obtain ⟨found, hfound, hu⟩ := (usable_of_accepted.2 readTable? config).1 _ _ hok
  obtain rfl : found = parsed := Option.some.inj (hfound.symm.trans hread)
  obtain ⟨server, hs, hb, -⟩ := hu.exists_server Headless.standard none
  refine ⟨hok, hread, hu, server, hs, Except.ok.inj (hb.symm.trans ?_)⟩
  decide +kernel

end Config

end Compositor
