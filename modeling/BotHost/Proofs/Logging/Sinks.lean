/-
Where logging goes for settings that have been accepted.

Checking sees to it that a path is given for a file, and setting up needs the path to name one. A path that
does not, because nothing in it counts or because it leads upwards at its end, is what the fallback to the
standard output is left for: the lines go there, and a warning says so.
-/

import BotHost.Logging.Builder
import BotHost.Proofs.Settings.Checking
import BotHost.Proofs.Text.Paths

namespace BotHost

namespace LoggingBuilder

variable {settings : LoggingSettings} {path name : String}

theorem sink_of_stdout (output : settings.output = .stdout) :
    (ofSettings settings).sink = (.stdout, true) := by
  unfold sink ofSettings
  simp only [output]

theorem sink_of_stderr (output : settings.output = .stderr) :
    (ofSettings settings).sink = (.stderr, true) := by
  unfold sink ofSettings
  simp only [output]

/-- A file that is asked for by a path with a name is that file. -/
theorem sink_of_endsIn (output : settings.output = .file) (given : settings.filePath = some path)
    (named : Path.EndsIn path name) :
    (ofSettings settings).sink = (.file (Path.directory path) name, true) := by
  unfold sink ofSettings
  simp only [output, given, Path.fileName?_eq_some_iff.mpr named]

/-- A file that is asked for by a path without a name is given up. -/
theorem sink_of_nameless (output : settings.output = .file) (given : settings.filePath = some path)
    (nameless : ∀ name, ¬Path.EndsIn path name) : (ofSettings settings).sink = (.stdout, false) := by
  have none : Path.fileName? path = none :=
    Option.eq_none_iff_forall_ne_some.mpr fun name there =>
      nameless name (Path.fileName?_eq_some_iff.mp there)
  unfold sink ofSettings
  simp only [output, given, none]

/-- The fallback is reported exactly if a file is asked for by a path without a name, as long as a path is
given for a file. -/
theorem fileUnusable_iff (given : settings.output = .file → ∃ path, settings.filePath = some path)
    (environment : Option String) :
    ((ofSettings settings).build environment).fileUnusable = true ↔ settings.output = .file ∧
      ∃ path, settings.filePath = some path ∧ ∀ name, ¬Path.EndsIn path name := by
  have reports : ((ofSettings settings).build environment).fileUnusable =
      !(ofSettings settings).sink.2 := rfl
  rw [reports]
  cases output : settings.output with
  | stdout => simp [sink_of_stdout output]
  | stderr => simp [sink_of_stderr output]
  | file =>
    obtain ⟨path, there⟩ := given output
    by_cases named : ∃ name, Path.EndsIn path name
    · obtain ⟨name, named⟩ := named
      rw [sink_of_endsIn output there named]
      refine iff_of_false nofun ?_
      rintro ⟨-, _, same, nameless⟩
      obtain rfl := Option.some.inj (there.symm.trans same)
      exact nameless name named
    · have nameless := not_exists.mp named
      rw [sink_of_nameless output there nameless]
      exact iff_of_true rfl ⟨rfl, path, there, nameless⟩

end LoggingBuilder

namespace Settings

/-- The sink is the file at the path, put as its directory and its name. -/
structure LogsTo (sink : LogSink) (path name : String) : Prop where
  file : sink = .file (Path.directory path) name
  parts : Path.parts path = Path.parts (Path.directory path) ++ [name]
  root : Path.isAbsolute (Path.directory path) = Path.isAbsolute path
  same : ∀ from?, Path.resolve from? (Path.join (Path.directory path) name) = Path.resolve from? path

/-- Accepted settings have their lines go where they say, and a file is where its path leads if that names
one. If not, and only then, the fallback is taken, and it is reported. -/
theorem logs_as_configured {settings : Settings} (accepted : settings.validate = .ok ())
    (environment : Option String) :
    let builder := LoggingBuilder.ofSettings settings.logging
    (settings.logging.output = .stdout → builder.sink = (.stdout, true)) ∧
    (settings.logging.output = .stderr → builder.sink = (.stderr, true)) ∧
    (settings.logging.output = .file → ∃ path, settings.logging.filePath = some path ∧
      (∀ name, Path.EndsIn path name → LogsTo builder.sink.1 path name ∧ builder.sink.2 = true) ∧
      ((∀ name, ¬Path.EndsIn path name) → builder.sink = (.stdout, false))) ∧
    ((builder.build environment).fileUnusable = true ↔ settings.logging.output = .file ∧
      ∃ path, settings.logging.filePath = some path ∧ ∀ name, ¬Path.EndsIn path name) := by
  have given := (validate_eq_ok_iff.mp accepted).filePath
  refine ⟨LoggingBuilder.sink_of_stdout, LoggingBuilder.sink_of_stderr, fun output => ?_,
    LoggingBuilder.fileUnusable_iff given environment⟩
  obtain ⟨path, there⟩ := given output
  refine ⟨path, there, fun name named => ?_, LoggingBuilder.sink_of_nameless output there⟩
  rw [LoggingBuilder.sink_of_endsIn output there named]
  exact ⟨⟨rfl, Path.parts_of_endsIn named, Path.isAbsolute_directory path, Path.resolve_join named⟩, rfl⟩

/-- Settings that are all right but for where they may have lines go. -/
def loggingTo (path : String) : Settings where
  logging := { output := .file, filePath := some path }

theorem loggingTo_accepted (path : String) : (loggingTo path).validate = .ok () := by
  have bounds : (loggingTo "").validate = .ok () := by decide +kernel
  exact bounds

theorem logs_as_configured_relative : (loggingTo "logs//bot.log/.").validate = .ok () ∧
    LogsTo (LoggingBuilder.ofSettings (loggingTo "logs//bot.log/.").logging).sink.1
      "logs//bot.log/." "bot.log" := by
  have accepted := loggingTo_accepted "logs//bot.log/."
  obtain ⟨path, there, named, -⟩ := (logs_as_configured accepted none).2.2.1 rfl
  obtain rfl := Option.some.inj there
  have ends : Path.EndsIn "logs//bot.log/." "bot.log" :=
    Path.fileName?_eq_some_iff.mp (by decide +kernel)
  exact ⟨accepted, (named "bot.log" ends).1⟩

/-- A path that leads upwards is accepted, and the lines go to the standard output all the same. -/
theorem falls_back_of_accepted : (loggingTo "..").validate = .ok () ∧
    (loggingTo "..").logging.output = .file ∧ (loggingTo "..").logging.filePath = some ".." ∧
    (LoggingBuilder.ofSettings (loggingTo "..").logging).sink = (.stdout, false) ∧
    ((LoggingBuilder.ofSettings (loggingTo "..").logging).build none).warns = true :=
  ⟨loggingTo_accepted "..", rfl, rfl, by decide +kernel, by decide +kernel⟩

end Settings

end BotHost
