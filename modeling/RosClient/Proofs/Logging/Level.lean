import RosClient.Logging.Install
import RosClient.Proofs.Text.Number

namespace RosClient

namespace Environment

/-- Whether a variable is unset, cannot be read or is blank. -/
def IsSilent (environment : Environment) (key : Variable) : Prop :=
  ∀ text, environment.read key = some text → Text.IsBlank text

/-- Whether the log level is a text of blanks, and not the empty text. -/
def HasBlankLevel (environment : Environment) : Prop :=
  ∃ text, environment.read .logLevel = some text ∧ text ≠ "" ∧ Text.IsBlank text

variable {environment : Environment} {key : Variable}

theorem isSilent_of_unread (unread : environment.read key = none) : environment.IsSilent key :=
  fun _ read => nomatch unread.symm.trans read

theorem isSilent_iff_isBlank {text : String} (read : environment.read key = some text) :
    environment.IsSilent key ↔ Text.IsBlank text := by
  constructor
  · intro silent
    exact silent text read
  · intro blank other readToo
    cases read.symm.trans readToo
    exact blank

end Environment

open Environment
open RosClient.Configuration (fromEnvironment logLevelFrom)

namespace Logger

variable {environment : Environment}

theorem filterFrom_of_isSilent {key : Variable} (silent : environment.IsSilent key) :
    filterFrom environment key = none := by
  unfold filterFrom
  cases read : environment.read key with
  | none => rfl
  | some text => exact if_pos (Text.trim_eq_empty_iff.mpr (silent text read))

theorem filterFrom_of_filled {key : Variable} {text : String}
    (read : environment.read key = some text) (filled : ¬ Text.IsBlank text) :
    filterFrom environment key = some (Text.trim text) := by
  have kept : ¬ Text.trim text = "" := fun empty => filled (Text.trim_eq_empty_iff.mp empty)
  rw [filterFrom, read, Option.bind_some, if_neg kept]

theorem filterText_of_isSilent (silent : environment.IsSilent .rustLog)
    (silentToo : environment.IsSilent .logLevel) (fallback : String) :
    filterText environment fallback = fallback := by
  rw [filterText, filterFrom_of_isSilent silent, filterFrom_of_isSilent silentToo]
  rfl

theorem filterText_of_filled {text : String} (silent : environment.IsSilent .rustLog)
    (read : environment.read .logLevel = some text) (filled : ¬ Text.IsBlank text)
    (fallback : String) : filterText environment fallback = Text.trim text := by
  rw [filterText, filterFrom_of_isSilent silent, filterFrom_of_filled read filled]
  rfl

theorem logLevelFrom_of_nonempty {text : String} (read : environment.read .logLevel = some text)
    (nonempty : text ≠ "") : logLevelFrom environment = text := by
  simp only [logLevelFrom, read, nonempty, ↓reduceIte]

variable {backend : LogBackend}

theorem filter_write (logger : Logger backend) (target : String) (record : LogRecord) :
    (logger.write target record).filter = logger.filter := by
  unfold write
  split <;> rfl

theorem mem_written_write {logger : Logger backend} {target : String} {record : LogRecord}
    (enabled : backend.enabled logger.filter target record.level = true) :
    record ∈ (logger.write target record).written := by
  rw [write, if_pos enabled]
  exact List.mem_append_right _ (List.mem_singleton.mpr rfl)

theorem of_mem_written_write {logger : Logger backend} {target : String} {record other : LogRecord}
    (written : other ∈ (logger.write target record).written) :
    other = record ∨ other ∈ logger.written := by
  unfold write at written
  split at written
  · rcases List.mem_append.mp written with before | last
    · exact Or.inr before
    · exact Or.inl (List.mem_singleton.mp last)
  · exact Or.inr written

theorem filter_start (environment : Environment) :
    (start environment none : Logger backend).filter =
      backend.parse (filterText environment "info") := by
  unfold start install
  simp only
  split
  · rw [filter_write, filter_write]
  · rw [filter_write]

theorem configuration_of_mem_start {configuration : Configuration}
    (reported : .configured configuration ∈ (start environment none : Logger backend).written) :
    configuration = fromEnvironment environment := by
  unfold start install at reported
  simp only at reported
  have earlier {logger : Logger backend} (empty : logger.written = []) :
      .configured configuration ∉
        (logger.write statusTarget (.loggerInstalled (filterText environment "info"))).written := by
    intro written
    rcases of_mem_written_write written with same | before
    · cases same
    · rw [empty] at before
      cases before
  split at reported
  · rcases of_mem_written_write reported with same | before
    · exact LogRecord.configured.inj same
    · exact absurd before (earlier rfl)
  · exact absurd reported (earlier rfl)

theorem configured_mem_start (custom : (fromEnvironment environment).isCustom = true)
    (enabled : backend.enabled (backend.parse (filterText environment "info")) handleTarget .info =
      true) :
    .configured (fromEnvironment environment) ∈
      (start environment none : Logger backend).written := by
  unfold start install
  simp only [custom, ↓reduceIte]
  apply mem_written_write
  rw [filter_write]
  exact enabled

theorem trim_info : Text.trim "info" = "info" := by
  decide

theorem isCustom_of_logLevel {configuration : Configuration}
    (changed : configuration.logLevel ≠ "info") : configuration.isCustom = true := by
  simp [Configuration.isCustom, changed]

theorem start_of_hasBlankLevel
    (reports : backend.enabled (backend.parse "info") handleTarget .info = true)
    (silent : environment.IsSilent .rustLog) (blankLevel : environment.HasBlankLevel) :
    filterText environment "info" = "info" ∧
      Text.IsBlank (fromEnvironment environment).logLevel ∧
      .configured (fromEnvironment environment) ∈
        (start environment none : Logger backend).written := by
  obtain ⟨text, read, nonempty, blank⟩ := blankLevel
  have fallback := filterText_of_isSilent silent ((isSilent_iff_isBlank read).mpr blank) "info"
  have reported : (fromEnvironment environment).logLevel = text :=
    logLevelFrom_of_nonempty read nonempty
  refine ⟨fallback, reported.symm ▸ blank, configured_mem_start (isCustom_of_logLevel ?_) ?_⟩
  · rw [reported]
    rintro rfl
    exact absurd (blank 'i' (by decide)) (by decide)
  · rwa [fallback]

theorem filterText_of_not_hasBlankLevel (silent : environment.IsSilent .rustLog)
    (given : ¬ environment.HasBlankLevel) :
    filterText environment "info" = Text.trim (fromEnvironment environment).logLevel := by
  change _ = Text.trim (logLevelFrom environment)
  cases read : environment.read .logLevel with
  | none =>
    rw [filterText_of_isSilent silent (isSilent_of_unread read), logLevelFrom, read]
    exact trim_info.symm
  | some text =>
    by_cases empty : text = ""
    · have blank : Text.IsBlank text := empty ▸ Text.trim_eq_empty_iff.mp rfl
      have silentToo := (isSilent_iff_isBlank read).mpr blank
      rw [filterText_of_isSilent silent silentToo, logLevelFrom, read]
      simp only [empty, ↓reduceIte, trim_info]
    · have filled : ¬ Text.IsBlank text := fun blank => given ⟨text, read, empty, blank⟩
      rw [filterText_of_filled silent read filled, logLevelFrom_of_nonempty read empty]

/-- Where the other variable names no filter, the two readings of the level agree exactly if the
level is not a text of blanks, and then the filter in force is the level that is reported, if one
is. Of a text of blanks the fallback is in force, and what is reported is blank, by any library for
logging whose filter `info` lets records at that level through. -/
theorem reported_level_is_in_force_unless_blank (backend : LogBackend)
    (reports : backend.enabled (backend.parse "info") handleTarget .info = true)
    (environment : Environment) (silent : environment.IsSilent .rustLog) :
    (filterText environment "info" = Text.trim (fromEnvironment environment).logLevel ↔
      ¬ environment.HasBlankLevel) ∧
    (¬ environment.HasBlankLevel → ∀ configuration,
      .configured configuration ∈ (start environment none : Logger backend).written →
        (start environment none : Logger backend).filter =
          backend.parse (Text.trim configuration.logLevel)) ∧
    (environment.HasBlankLevel →
      (start environment none : Logger backend).filter = backend.parse "info" ∧
        ∃ configuration,
          .configured configuration ∈ (start environment none : Logger backend).written ∧
          Text.IsBlank configuration.logLevel) := by
  refine ⟨⟨fun agreed blankLevel => ?_, filterText_of_not_hasBlankLevel silent⟩,
    fun given configuration reported => ?_, fun blankLevel => ?_⟩
  · obtain ⟨fallback, blank, _⟩ := start_of_hasBlankLevel reports silent blankLevel
    rw [fallback, Text.trim_eq_empty_iff.mpr blank] at agreed
    exact absurd agreed (by decide)
  · rw [filter_start, filterText_of_not_hasBlankLevel silent given,
      configuration_of_mem_start reported]
  · obtain ⟨fallback, blank, reported⟩ := start_of_hasBlankLevel reports silent blankLevel
    rw [filter_start, fallback]
    exact ⟨rfl, _, reported, blank⟩

/-- A library for logging that reads the name of one level, which goes for every target and lets
through what is at most as verbose. -/
def plainLevels : LogBackend where
  Filter := List Level
  parse
    | "error" => [.error]
    | "warn" => [.error, .warn]
    | "info" => [.error, .warn, .info]
    | "debug" => [.error, .warn, .info, .debug]
    | "trace" => [.error, .warn, .info, .debug, .trace]
    | _ => []
  enabled filter _ level := filter.contains level

/-- A level with blanks at its ends, beside a blank filter. -/
def paddedLevel : Environment :=
  (Environment.empty.write .rustLog (some [0x20, 0x09])).write .logLevel
    (some [0x20, 0x77, 0x61, 0x72, 0x6E, 0x0A])

theorem reported_level_is_in_force_unless_blank_padded :
    paddedLevel.IsSilent .rustLog ∧ filterText paddedLevel "info" = "warn" ∧
      Text.trim (fromEnvironment paddedLevel).logLevel = "warn" ∧
      plainLevels.enabled (plainLevels.parse "info") handleTarget .info = true := by
  have silent : paddedLevel.IsSilent .rustLog := by
    have read : paddedLevel.read .rustLog = some " \t" := by decide
    exact (isSilent_iff_isBlank read).mpr (Text.trim_eq_empty_iff.mp (by decide))
  have given : ¬ paddedLevel.HasBlankLevel := by
    rintro ⟨text, read, _, blank⟩
    have padded : paddedLevel.read .logLevel = some " warn\n" := by decide
    cases padded.symm.trans read
    exact absurd (blank 'w' (by decide)) (by decide)
  have reports : plainLevels.enabled (plainLevels.parse "info") handleTarget .info = true := by
    decide
  have agreed :=
    (reported_level_is_in_force_unless_blank plainLevels reports paddedLevel silent).1.mpr given
  have trimmed : Text.trim (fromEnvironment paddedLevel).logLevel = "warn" := by
    decide
  exact ⟨silent, agreed.trans trimmed, trimmed, reports⟩

/-- A single blank as the level, and something else to report. -/
def blankLevel : Environment :=
  (Environment.empty.write .logLevel (some [0x20])).write .useSimTime (some [0x31])

/-- The blank is reported while the fallback is in force, so that the two readings do not agree. -/
theorem blank_level_is_reported :
    blankLevel.IsSilent .rustLog ∧
      filterText blankLevel "info" = "info" ∧
      Text.trim (fromEnvironment blankLevel).logLevel = "" ∧
      (start blankLevel none : Logger plainLevels).written.map LogRecord.message =
        ["[rclbridge] Environment config: domain_id=None, log_level= , use_sim_time=true"] :=
  ⟨isSilent_of_unread (by decide), by decide, by decide, by decide⟩

end Logger

end RosClient
