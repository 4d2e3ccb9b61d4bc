import Compositor.Logging.Setup
import Mathlib.Tactic.Common

set_option autoImplicit false

/-!
# The kept writer of the log

A process may set its log up more than once. The first sink that is offered stays, whatever comes
later. The writer that is kept is replaced by every call that gets as far as offering a sink, also
when the sink is not taken. Here it is said how the two go together after any calls: the writer of
the installed sink is kept until a later call gets that far.

## Main definitions

* `LogCall` — a call that sets the log up.
* `LogCall.replaces` — whether a call gets as far as offering the sink of a configuration.
* `Log.take`, `Log.run` — the log after a call and after calls.
* `Log.Numbered` — the writers in use have been handed out.

## Main results

* `Log.run_kept_iff` — when a writer is still kept after further calls.
* `Log.keeps_writer_iff` — when the writer of the installed sink is kept.
-/

namespace Compositor

/-- A call that sets the log up. -/
inductive LogCall where
  /-- It offers the sink for the time before the configuration is known. -/
  | minimal
  /-- It offers the sink that a configuration describes, on the machine as the call finds it. -/
  | configured (host : Host) (config : LoggingConfig) (reload : Bool)

namespace LogCall

/-- Whether a machine makes the directory of a log file, opens the file and starts the thread that
writes to it. -/
def opens (host : Host) (path : String) : Bool :=
  (host.makeDirectories (Log.directory path)).isOk && (Log.openWriter host path).isOk

/-- Whether a call gets as far as offering the sink of a configuration: the level has a name, and
the log file can be opened if there is one. -/
def replaces : LogCall → Bool
  | minimal => false
  | configured host config _ =>
    (LogLevel.ofName? (Lowercase.text config.level)).isSome && config.filePath.all (opens host)

/-- Whether a call names a log file. -/
def hasFile : LogCall → Bool
  | minimal => false
  | configured _ config _ => config.filePath.isSome

end LogCall

namespace Log

variable {log : Log} {call : LogCall} {calls : List LogCall} {sink : LogSink} {writer : LogWriter}

/-- The log after a call. -/
def take (log : Log) : LogCall → Log
  | .minimal => log.installMinimal
  | .configured host config reload => (log.install host config reload).log

/-- The log after calls, the first of them first. -/
def run (log : Log) (calls : List LogCall) : Log := calls.foldl take log

/-- The writer that a call makes for its log file. -/
def writer? (log : Log) (call : LogCall) : Option LogWriter :=
  if call.hasFile then some ⟨log.writers⟩ else none

/-! ## One call -/

/-- What a call for a configuration does: either it offers its sink and its own writer is kept, or
it changes nothing and says so. -/
lemma install_cases (log : Log) (host : Host) (config : LoggingConfig) (reload : Bool) :
    let call := LogCall.configured host config reload
    (call.replaces = true ∧
      (log.install host config reload).log =
        ⟨log.sink.or (some ⟨lineFormat config.format, log.writer? call⟩), log.writer? call,
          if config.filePath.isSome then log.writers + 1 else log.writers⟩ ∧
      (log.install host config reload).result =
        .ok (if log.sink.isSome && !reload then .error .alreadyInstalled else .ok ())) ∨
    (call.replaces = false ∧ (log.install host config reload).log = log ∧
      (log.install host config reload).result ≠ .ok (.ok ()) ∧
      (log.install host config reload).result ≠ .ok (.error .alreadyInstalled)) := by
  unfold install
  dsimp only
  split <;> rename_i hlevel
  · exact .inr ⟨by simp [LogCall.replaces, Option.isNone_iff_eq_none.1 hlevel], rfl, by simp,
      by simp⟩
  have hsome : (LogLevel.ofName? (Lowercase.text config.level)).isSome = true := by
    simpa [Option.isSome_iff_ne_none] using hlevel
  split <;> rename_i hpath
  · exact .inl ⟨by simp [LogCall.replaces, hsome, hpath],
      by simp [replace, offer, writer?, LogCall.hasFile, hpath], rfl⟩
  split <;> rename_i hmade
  · exact .inr ⟨by simp [LogCall.replaces, LogCall.opens, hpath, hmade, Except.isOk,
      Except.toBool], rfl, by simp, by simp⟩
  split <;> rename_i hopen
  · exact .inr ⟨by simp [LogCall.replaces, LogCall.opens, hpath, hopen, Except.isOk,
      Except.toBool], rfl, by simp, by simp⟩
  · exact .inl ⟨by simp [LogCall.replaces, LogCall.opens, hsome, hpath, hmade, hopen, Except.isOk,
      Except.toBool], by simp [replace, offer, writer?, LogCall.hasFile, hpath], rfl⟩

/-- What the result of a call tells about the writer that is kept: it has been replaced if the call
went well, and also if the call is refused because there is a sink already. -/
lemma replaces_iff_result (log : Log) (host : Host) (config : LoggingConfig) (reload : Bool) :
    (LogCall.configured host config reload).replaces = true ↔
      (log.install host config reload).result = .ok (.ok ()) ∨
        (log.install host config reload).result = .ok (.error .alreadyInstalled) := by
  obtain ⟨hr, -, hresult⟩ | ⟨hr, -, hok, hthere⟩ := install_cases log host config reload
  · rw [hresult]
    simp only [hr, true_iff]
    split
    · exact .inr rfl
    · exact .inl rfl
  · simp [hr, hok, hthere]

section Configured

variable {host : Host} {config : LoggingConfig} {reload : Bool}

/-- The log after a call that gets as far as offering its sink. -/
lemma take_of_replaces (log : Log) (h : (LogCall.configured host config reload).replaces = true) :
    log.take (.configured host config reload) =
      ⟨log.sink.or (some ⟨lineFormat config.format,
          log.writer? (.configured host config reload)⟩),
        log.writer? (.configured host config reload),
        if config.filePath.isSome then log.writers + 1 else log.writers⟩ := by
  obtain ⟨-, hlog, -⟩ | ⟨hr, -⟩ := install_cases log host config reload
  · exact hlog
  · exact absurd h (by simp [hr])

/-- A call that does not get that far leaves the log as it is. -/
lemma take_of_not_replaces (h : (LogCall.configured host config reload).replaces = false) :
    log.take (.configured host config reload) = log := by
  obtain ⟨hr, -⟩ | ⟨-, hlog, -⟩ := install_cases log host config reload
  · exact absurd h (by simp [hr])
  · exact hlog

end Configured

/-- A call changes the writer that is kept just if it gets as far as offering the sink of a
configuration. -/
lemma take_kept (log : Log) (call : LogCall) :
    (log.take call).kept = if call.replaces then log.writer? call else log.kept := by
  cases call with
  | minimal => rfl
  | configured host config reload =>
    cases hr : (LogCall.configured host config reload).replaces with
    | true => rw [take_of_replaces log hr, if_pos rfl]
    | false => simp [take_of_not_replaces hr]

/-- A sink that there is stays. -/
lemma take_sink (h : log.sink = some sink) : (log.take call).sink = some sink := by
  cases call with
  | minimal => simp [take, installMinimal, offer, h]
  | configured host config reload =>
    cases hr : (LogCall.configured host config reload).replaces with
    | true => simp [take_of_replaces log hr, h]
    | false => rw [take_of_not_replaces hr, h]

/-- Writers are counted. -/
lemma writers_le_take (log : Log) (call : LogCall) : log.writers ≤ (log.take call).writers := by
  cases call with
  | minimal => exact Nat.le_refl _
  | configured host config reload =>
    cases hr : (LogCall.configured host config reload).replaces with
    | true =>
      rw [take_of_replaces log hr]
      dsimp only
      split <;> omega
    | false => exact Nat.le_of_eq (by rw [take_of_not_replaces hr])

/-- The writer of a call that gets as far as offering a sink is handed out. -/
lemma lt_writers_take (hr : call.replaces = true) (hw : log.writer? call = some writer) :
    writer.number < (log.take call).writers := by
  unfold writer? at hw
  split at hw <;> rename_i hfile
  · obtain rfl := Option.some.inj hw
    cases call with
    | minimal => cases hr
    | configured host config reload =>
      rw [LogCall.hasFile] at hfile
      simp [take_of_replaces log hr, hfile]
  · cases hw

/-- The writer of a sink that a call installs is new, and it is kept. -/
lemma take_installed (hs : log.sink = none) (h : (log.take call).sink = some sink)
    (hw : sink.writer = some writer) :
    (log.take call).kept = some writer ∧ writer.number < (log.take call).writers := by
  cases call with
  | minimal =>
    obtain rfl : (⟨.text, none⟩ : LogSink) = sink := by
      simpa [take, installMinimal, offer, hs] using h
    cases hw
  | configured host config reload =>
    cases hr : (LogCall.configured host config reload).replaces with
    | true =>
      obtain rfl : (⟨lineFormat config.format, log.writer? (.configured host config reload)⟩ :
          LogSink) = sink := by
        simpa [take_of_replaces log hr, hs] using h
      exact ⟨by rw [take_of_replaces log hr, ← hw], lt_writers_take hr hw⟩
    | false =>
      rw [take_of_not_replaces hr, hs] at h
      cases h

/-- The writer that is kept has been handed out. -/
def Numbered (log : Log) : Prop :=
  ∀ writer, log.kept = some writer → writer.number < log.writers

/-- Writers in use stay numbered below those to come. -/
lemma Numbered.take (h : log.Numbered) (call : LogCall) : (log.take call).Numbered := by
  intro writer hw
  rw [take_kept] at hw
  split at hw <;> rename_i hr
  · exact lt_writers_take hr hw
  · exact Nat.lt_of_lt_of_le (h writer hw) (writers_le_take log call)

/-- A call leaves the writer that is kept just if it does not get as far as offering a sink, or has
no log file while no writer is kept anyway. -/
lemma take_kept_iff (h : log.Numbered) (call : LogCall) :
    (log.take call).kept = log.kept ↔
      call.replaces = false ∨ log.kept = none ∧ call.hasFile = false := by
  rw [take_kept]
  cases call.replaces with
  | false => simp
  | true =>
    unfold writer?
    cases call.hasFile with
    | false => simp [eq_comm]
    | true =>
      -- a writer that has been handed out is not the next one
      have hne : log.kept ≠ some ⟨log.writers⟩ := fun hk => Nat.lt_irrefl _ (h _ hk)
      simpa using hne.symm

/-! ## Calls in a row -/

/-- Writers in use stay numbered through any calls. -/
lemma Numbered.run (h : log.Numbered) (calls : List LogCall) : (log.run calls).Numbered := by
  induction calls generalizing log with
  | nil => exact h
  | cons call rest ih => exact ih (h.take call)

/-- A log that keeps no writer has none to number. -/
lemma numbered_silent : silent.Numbered := by
  intro writer h
  cases h

/-- A sink that there is stays for good. -/
lemma run_sink (h : log.sink = some sink) (calls : List LogCall) :
    (log.run calls).sink = some sink := by
  induction calls generalizing log with
  | nil => exact h
  | cons call rest ih => exact ih (take_sink h)

/-- One of the calls has installed the sink. -/
lemma exists_installed (hs : log.sink = none) (h : (log.run calls).sink = some sink) :
    ∃ before call rest, calls = before ++ call :: rest ∧ (log.run before).sink = none ∧
      ((log.run before).take call).sink = some sink := by
  induction calls generalizing log with
  | nil => cases hs.symm.trans h
  | cons call rest ih =>
    cases hc : (log.take call).sink with
    | none =>
      obtain ⟨before, other, later, rfl, hb, ho⟩ := ih hc h
      exact ⟨call :: before, other, later, rfl, hb, ho⟩
    | some found =>
      obtain rfl : found = sink := Option.some.inj ((run_sink hc rest).symm.trans h)
      exact ⟨[], call, rest, rfl, hs, hc⟩

/-- A writer that has been handed out is kept after further calls just if it was kept before them
and none of them gets as far as offering the sink of a configuration. -/
theorem run_kept_iff (h : writer.number < log.writers) (calls : List LogCall) :
    (log.run calls).kept = some writer ↔
      log.kept = some writer ∧ ∀ call ∈ calls, call.replaces = false := by
  induction calls generalizing log with
  | nil => simp [run]
  | cons call rest ih =>
    have hnext : writer.number < (log.take call).writers :=
      Nat.lt_of_lt_of_le h (writers_le_take log call)
    rw [run, List.foldl_cons, ← run, ih hnext, take_kept]
    cases hr : call.replaces with
    | false => simp [hr]
    | true =>
      -- what is kept now has a greater number
      have hne : log.writer? call ≠ some writer := by
        unfold writer?
        split
        · intro he
          cases he
          exact Nat.lt_irrefl _ h
        · simp
      simp [hr, hne]

/-- **When the writer of the installed sink is kept.** After any calls, on whatever machines, the
writer of the sink that was installed was kept when it was installed, and it is kept now just if no
call since then got as far as offering its own sink, which was not taken. A single call leaves the
writer that is kept just if it does not get that far, or if none is kept and it has no file. It gets
that far just if it goes well, or is refused because there is a sink already.

**Proof sketch.** The call that installed the sink kept its writer, see `take_installed`. Writers are
numbered as they are made, so that no later one is this one, see `run_kept_iff`. -/
theorem keeps_writer_iff (calls : List LogCall) :
    (∀ sink writer, (silent.run calls).sink = some sink → sink.writer = some writer →
      ∃ before call rest, calls = before ++ call :: rest ∧ (silent.run before).sink = none ∧
        ((silent.run before).take call).sink = some sink ∧
        ((silent.run before).take call).kept = some writer ∧
        ((silent.run calls).kept = some writer ↔ ∀ later ∈ rest, later.replaces = false)) ∧
    (∀ call, ((silent.run calls).take call).kept = (silent.run calls).kept ↔
      call.replaces = false ∨ (silent.run calls).kept = none ∧ call.hasFile = false) ∧
    ∀ host config reload, (LogCall.configured host config reload).replaces = true ↔
      ((silent.run calls).install host config reload).result = .ok (.ok ()) ∨
        ((silent.run calls).install host config reload).result =
          .ok (.error .alreadyInstalled) := by
  refine ⟨fun sink writer h hw => ?_, take_kept_iff (numbered_silent.run calls),
    replaces_iff_result _⟩
  obtain ⟨before, call, rest, rfl, hb, hc⟩ := exists_installed rfl h
  obtain ⟨hk, hn⟩ := take_installed hb hc hw
  refine ⟨before, call, rest, rfl, hb, hc, hk, ?_⟩
  have hsplit : silent.run (before ++ call :: rest) = ((silent.run before).take call).run rest := by
    simp [run]
  rw [hsplit, run_kept_iff hn rest]
  simp [hk]

/-- A log that writes to a file keeps its writer through a call whose level has no name, and through
one for a file that the machine does not open. -/
theorem keeps_writer_iff_refused :
    let full : SystemError := ⟨some 28, .other "StorageFull", "No space left on device"⟩
    let file := LogCall.configured .willing ⟨"info", some "/a.log", "text"⟩ false
    let unknown := LogCall.configured .willing ⟨"chatty", none, "text"⟩ true
    let refused := LogCall.configured { Host.willing with openLog := fun _ _ => .error full }
      ⟨"info", some "/b.log", "text"⟩ true
    (silent.run [file, unknown, refused]).sink = some ⟨.text, some ⟨0⟩⟩ ∧
      (silent.run [file, unknown, refused]).kept = some ⟨0⟩ := by
  intro full file unknown refused
  have hfile : (silent.run [file]).sink = some ⟨.text, some ⟨0⟩⟩ := by decide +kernel
  have hsink : (silent.run [file, unknown, refused]).sink = some ⟨.text, some ⟨0⟩⟩ :=
    run_sink hfile [unknown, refused]
  obtain ⟨before, call, rest, hcalls, hnone, -, -, hiff⟩ :=
    (keeps_writer_iff [file, unknown, refused]).1 _ _ hsink rfl
  refine ⟨hsink, hiff.2 ?_⟩
  cases before with
  | nil =>
    obtain ⟨-, rfl⟩ := List.cons.inj hcalls
    decide +kernel
  | cons first before =>
    -- the sink is there after the first call
    obtain ⟨rfl, -⟩ := List.cons.inj hcalls
    cases hnone.symm.trans (run_sink hfile before)

/-- Setting the log up again with another file, or with none, leaves the sink as it is and lets its
writer go. Where the sink has no file, a writer is kept that nothing is written to. -/
theorem exists_writer_dropped :
    ∃ first bare other : LogCall,
      (silent.run [first]).sink = some ⟨.text, some ⟨0⟩⟩ ∧
      (silent.run [first]).kept = some ⟨0⟩ ∧
      (silent.run [first, bare]).sink = some ⟨.text, some ⟨0⟩⟩ ∧
      (silent.run [first, bare]).kept = none ∧
      (silent.run [first, other]).sink = some ⟨.text, some ⟨0⟩⟩ ∧
      (silent.run [first, other]).kept = some ⟨1⟩ ∧
      (silent.run [.minimal]).kept = none ∧
      (silent.run [.minimal, other]).sink = some ⟨.text, none⟩ ∧
      (silent.run [.minimal, other]).kept = some ⟨0⟩ :=
  ⟨.configured .willing ⟨"info", some "/a.log", "text"⟩ false,
    .configured .willing ⟨"info", none, "text"⟩ true,
    .configured .willing ⟨"info", some "/b.log", "text"⟩ true, by decide +kernel⟩

end Log

end Compositor
