import Mathlib.Algebra.Group.Nat.Defs
import ConferenceFocus.Settings.Configuration
import ConferenceFocus.Proofs.DecimalNumerals

/-!
# Which configurations are accepted

Five variables have to be well-formed where they are present.  They are checked in a fixed
order, and the first that is malformed is reported.  What a well-formed value says is found in
the configuration, whatever the other variables hold.
-/

namespace ConferenceFocus.Settings

/-- The settings whose values are checked. -/
inductive Setting where
  | replyTimeout
  | channelLastN
  | adaptiveLastN
  | adaptiveSimulcast
  | jsonLogs
  deriving DecidableEq, Repr

/-- What a well-formed value says. -/
inductive Reading where
  | time (span : Duration)
  | number (count : Nat)
  | flag (on : Bool)
  deriving DecidableEq, Repr

namespace Setting

/-- The order in which the settings are read. -/
def all : List Setting :=
  [replyTimeout, channelLastN, adaptiveLastN, adaptiveSimulcast, jsonLogs]

theorem mem_all (setting : Setting) : setting ∈ all := by
  cases setting <;> decide

def variableName : Setting → String
  | replyTimeout => "FOCUS_BRIDGE_REPLY_TIMEOUT_MS"
  | channelLastN => "FOCUS_CHANNEL_LAST_N"
  | adaptiveLastN => "FOCUS_ADAPTIVE_LAST_N"
  | adaptiveSimulcast => "FOCUS_ADAPTIVE_SIMULCAST"
  | jsonLogs => "FOCUS_JSON_LOGS"

/-- The value of the setting is well-formed, and this is what it says. -/
def Says : Setting → String → Reading → Prop
  | replyTimeout, value, .time span =>
      ∃ milliseconds, Denotes value milliseconds ∧ 0 < milliseconds ∧ milliseconds < 2 ^ 64 ∧
        span = .ofMilliseconds milliseconds
  | channelLastN, value, .number count => Denotes value count ∧ count < 2 ^ 32
  | adaptiveLastN, value, .flag on
  | adaptiveSimulcast, value, .flag on
  | jsonLogs, value, .flag on => value = if on then "true" else "false"
  | _, _, _ => False

def WellFormed (setting : Setting) (value : String) : Prop :=
  ∃ reading, setting.Says value reading

/-- The error that reports a malformed value of the setting. -/
def Reports : Setting → String → ConfigurationError → Prop
  | replyTimeout, value, error =>
      (Denotes value 0 → error = .zero replyTimeout.variableName) ∧
        (¬ Denotes value 0 → error = .malformed replyTimeout.variableName value)
  | jsonLogs, value, error => error = .logging (.notAFlag value)
  | setting, value, error => error = .malformed setting.variableName value

/-- The setting is absent or has a well-formed value. -/
def Passes (environment : Variables) (setting : Setting) : Prop :=
  ∀ value, environment setting.variableName = some value → setting.WellFormed value

/-- The setting has a malformed value, and none that is read before it has. -/
def FirstMalformed (environment : Variables) (setting : Setting) (value : String) : Prop :=
  ∃ earlier later, all = earlier ++ setting :: later ∧
    (∀ passed ∈ earlier, passed.Passes environment) ∧
    environment setting.variableName = some value ∧ ¬ setting.WellFormed value

end Setting

/-- What a configuration holds for a setting. -/
def Configuration.reading? (configuration : Configuration) : Setting → Option Reading
  | .replyTimeout => some (.time configuration.replyTimeout)
  | .channelLastN => configuration.channelLastN.map .number
  | .adaptiveLastN => some (.flag configuration.adaptiveLastN)
  | .adaptiveSimulcast => some (.flag configuration.adaptiveSimulcast)
  | .jsonLogs => some (.flag configuration.logging.json)

/-- What conferences are given for a setting; how to log is none of their business. -/
def givenReading? (given : Colibri.Settings) : Setting → Option Reading
  | .replyTimeout => some (.time given.replyTimeout)
  | .channelLastN => given.channelLastN.map .number
  | .adaptiveLastN => some (.flag given.adaptiveLastN)
  | .adaptiveSimulcast => some (.flag given.adaptiveSimulcast)
  | .jsonLogs => none

theorem givenReading?_colibri {setting : Setting} (configuration : Configuration)
    (given : setting ≠ .jsonLogs) :
    givenReading? configuration.colibri setting = configuration.reading? setting := by
  cases setting with
  | jsonLogs => exact absurd rfl given
  | _ => rfl

/-- The text of the error has the name of the variable in it. -/
def ConfigurationError.Mentions (error : ConfigurationError) (variableName : String) : Prop :=
  ∃ before after, error.message = before ++ variableName ++ after

theorem mentions_malformed (name value : String) :
    (ConfigurationError.malformed name value).Mentions name := by
  refine ⟨"Invalid configuration value: ", "=" ++ value, ?_⟩
  unfold ConfigurationError.message
  simp [toString, String.append_assoc]

theorem mentions_zero (name : String) : (ConfigurationError.zero name).Mentions name := by
  refine ⟨"Invalid configuration value: ", " must be greater than zero", ?_⟩
  unfold ConfigurationError.message
  simp [toString]

theorem mentions_notAFlag (value : String) :
    (ConfigurationError.logging (.notAFlag value)).Mentions Setting.jsonLogs.variableName := by
  have split : "Configuration error: FOCUS_JSON_LOGS must be a boolean, got " =
      "Configuration error: " ++ Setting.jsonLogs.variableName ++ " must be a boolean, got " := by
    decide
  refine ⟨"Invalid configuration value: " ++ "Configuration error: ",
    " must be a boolean, got " ++ value, ?_⟩
  unfold ConfigurationError.message LoggingError.message
  simp only [split, String.append_assoc]

theorem Setting.Reports.mentions {setting : Setting} {value : String}
    {error : ConfigurationError} (reports : setting.Reports value error) :
    error.Mentions setting.variableName := by
  cases setting with
  | replyTimeout =>
      by_cases zero : Denotes value 0
      · rw [reports.1 zero]
        exact mentions_zero _
      · rw [reports.2 zero]
        exact mentions_malformed _ value
  | jsonLogs =>
      rw [show error = .logging (.notAFlag value) from reports]
      exact mentions_notAFlag value
  | channelLastN | adaptiveLastN | adaptiveSimulcast =>
      rw [show error = .malformed _ value from reports]
      exact mentions_malformed _ value

theorem flag?_eq_some_iff {text : String} {on : Bool} :
    flag? text = some on ↔ text = if on then "true" else "false" := by
  unfold flag?
  split
  · cases on <;> decide
  · cases on <;> decide
  · next notTrue notFalse =>
      cases on with
      | false => exact ⟨nofun, fun written => absurd written notFalse⟩
      | true => exact ⟨nofun, fun written => absurd written notTrue⟩

namespace Setting

/-- What a value of the setting says, if it is well-formed. -/
def read? : Setting → String → Option Reading
  | replyTimeout, value =>
      ((number? UInt64.size value).filter (· ≠ 0)).map fun milliseconds =>
        .time (.ofMilliseconds milliseconds)
  | channelLastN, value => (number? UInt32.size value).map .number
  | adaptiveLastN, value
  | adaptiveSimulcast, value
  | jsonLogs, value => (flag? value).map .flag

theorem read?_eq_some_iff {setting : Setting} {value : String} {reading : Reading} :
    setting.read? value = some reading ↔ setting.Says value reading := by
  cases setting with
  | replyTimeout =>
      cases reading with
      | time span =>
          rw [read?, Option.map_eq_some_iff, Says]
          refine exists_congr fun milliseconds => ?_
          have size : UInt64.size = 2 ^ 64 := rfl
          rw [Option.filter_eq_some_iff, number?_eq_some_iff, decide_eq_true_iff,
            Reading.time.injEq, size, Nat.pos_iff_ne_zero]
          constructor
          · rintro ⟨⟨⟨denotes, below⟩, positive⟩, same⟩
            exact ⟨denotes, positive, below, same.symm⟩
          · rintro ⟨denotes, positive, below, same⟩
            exact ⟨⟨⟨denotes, below⟩, positive⟩, same.symm⟩
      | number count => simp [read?, Says]
      | flag on => simp [read?, Says]
  | channelLastN =>
      have size : UInt32.size = 2 ^ 32 := rfl
      cases reading <;> simp [read?, Says, number?_eq_some_iff, size]
  | adaptiveLastN | adaptiveSimulcast | jsonLogs =>
      cases reading <;> simp [read?, Says, flag?_eq_some_iff]

theorem wellFormed_iff {setting : Setting} {value : String} :
    setting.WellFormed value ↔ (setting.read? value).isSome := by
  simp only [WellFormed, Option.isSome_iff_exists, read?_eq_some_iff]

/-- The complaint about a malformed value of the setting. -/
def complaint : Setting → String → ConfigurationError
  | replyTimeout, value =>
      if number? UInt64.size value = some 0 then .zero replyTimeout.variableName
      else .malformed replyTimeout.variableName value
  | jsonLogs, value => .logging (.notAFlag value)
  | setting, value => .malformed setting.variableName value

theorem reports_iff {setting : Setting} {value : String} {error : ConfigurationError} :
    setting.Reports value error ↔ error = setting.complaint value := by
  cases setting with
  | replyTimeout =>
      have zero : Denotes value 0 ↔ number? UInt64.size value = some 0 := by
        rw [number?_eq_some_iff]
        exact ⟨fun denotes => ⟨denotes, by decide⟩, fun holds => holds.1⟩
      rw [Reports, complaint, zero]
      split
      · next parsed =>
          exact ⟨fun holds => holds.1 parsed, fun same => ⟨fun _ => same, absurd parsed⟩⟩
      · next unparsed =>
          exact ⟨fun holds => holds.2 unparsed,
            fun same => ⟨fun parsed => absurd parsed unparsed, fun _ => same⟩⟩
  | channelLastN | adaptiveLastN | adaptiveSimulcast | jsonLogs => rfl

end Setting

/-- The complaint about a value, unless it could be read. -/
def unread? {α : Type} (read : Option α) (complaint : ConfigurationError) :
    Option ConfigurationError :=
  read.elim (some complaint) fun _ => none

theorem unread?_map {α β : Type} (read : Option α) (f : α → β) (complaint : ConfigurationError) :
    unread? (read.map f) complaint = unread? read complaint := by
  cases read <;> rfl

namespace Variables

/-- What checking a setting complains of. -/
def fault? (environment : Variables) (setting : Setting) : Option ConfigurationError :=
  (environment setting.variableName).bind fun value =>
    unread? (setting.read? value) (setting.complaint value)

theorem fault?_eq_some_iff {environment : Variables} {setting : Setting}
    {error : ConfigurationError} : environment.fault? setting = some error ↔
      ∃ value, environment setting.variableName = some value ∧
        ¬ setting.WellFormed value ∧ setting.Reports value error := by
  rw [fault?, Option.bind_eq_some_iff]
  refine exists_congr fun value => and_congr_right fun _ => ?_
  rw [Setting.wellFormed_iff, Setting.reports_iff]
  cases setting.read? value <;> simp [unread?, eq_comm]

theorem fault?_eq_none_iff {environment : Variables} {setting : Setting} :
    environment.fault? setting = none ↔ setting.Passes environment := by
  rw [fault?, Option.bind_eq_none_iff]
  refine forall_congr' fun value => imp_congr_right fun _ => ?_
  rw [Setting.wellFormed_iff]
  cases setting.read? value <;> simp [unread?]

end Variables

theorem optional?_eq {α : Type} (environment : Variables) (name : String)
    (read : String → Option α) : optional? environment name read =
      ((environment name).bind fun value =>
        unread? (read value) (.malformed name value)).elim
          (.ok ((environment name).bind read)) .error := by
  unfold optional?
  cases environment name with
  | none => rfl
  | some value => cases parsed : read value <;> simp [unread?, parsed]

theorem optional?_setting {α : Type} (environment : Variables) (setting : Setting)
    (read : String → Option α) (said : α → Reading)
    (reads : ∀ value, setting.read? value = (read value).map said)
    (complains : ∀ value, setting.complaint value = .malformed setting.variableName value) :
    optional? environment setting.variableName read = (environment.fault? setting).elim
      (.ok ((environment setting.variableName).bind read)) .error := by
  simp only [optional?_eq, Variables.fault?, reads, complains, unread?_map]

theorem elim_bind {α β : Type} (fault : Option ConfigurationError) (value : α)
    (next : α → Except ConfigurationError β) :
    (fault.elim (.ok value) .error >>= next) = fault.elim (next value) .error := by
  cases fault <;> rfl

theorem replyTimeout_eq (environment : Variables) : replyTimeout environment =
    (environment.fault? .replyTimeout).elim
      (.ok (((environment Setting.replyTimeout.variableName).bind (number? UInt64.size)).getD
        defaultReplyTimeout)) .error := by
  rw [replyTimeout, optional?_eq, elim_bind, Variables.fault?, Setting.variableName]
  cases environment "FOCUS_BRIDGE_REPLY_TIMEOUT_MS" with
  | none => rfl
  | some value =>
      cases parsed : number? UInt64.size value with
      | none => simp [unread?, Setting.read?, Setting.complaint, Setting.variableName, parsed]
      | some milliseconds =>
          by_cases zero : milliseconds = 0 <;>
            simp [unread?, Setting.read?, Setting.complaint, Setting.variableName, parsed, zero,
              Option.filter_some]

theorem loggingOfVariables_eq (environment : Variables) :
    (Logging.ofVariables environment).mapError ConfigurationError.logging =
      (environment.fault? .jsonLogs).elim
        (.ok { level := (environment "FOCUS_LOG_LEVEL").getD "info",
               json := ((environment Setting.jsonLogs.variableName).bind flag?).getD false })
        .error := by
  rw [Logging.ofVariables, Variables.fault?, Setting.variableName]
  cases environment "FOCUS_JSON_LOGS" with
  | none => rfl
  | some value =>
      simp only [Setting.read?, unread?_map, Setting.complaint, Option.bind_some]
      cases flag? value <;> rfl

/-- The configuration that the variables make up when there is nothing to complain of. -/
def Configuration.settled (environment : Variables) (hostname : Option String) (tag : String) :
    Configuration where
  focusId := (environment "FOCUS_ID").getD (generatedFocusId hostname tag)
  replyTimeout := .ofMilliseconds
    (((environment Setting.replyTimeout.variableName).bind (number? UInt64.size)).getD
      defaultReplyTimeout)
  preferredBridge := ((environment "FOCUS_PREFERRED_BRIDGE").filter (· ≠ "")).map (⟨·⟩)
  channelLastN := (environment Setting.channelLastN.variableName).bind (number? UInt32.size)
  adaptiveLastN := ((environment Setting.adaptiveLastN.variableName).bind flag?).getD false
  adaptiveSimulcast :=
    ((environment Setting.adaptiveSimulcast.variableName).bind flag?).getD false
  logging :=
    { level := (environment "FOCUS_LOG_LEVEL").getD "info",
      json := ((environment Setting.jsonLogs.variableName).bind flag?).getD false }

theorem elim_findSome?_cons {α β γ : Type} (first : α) (rest : List α) (f : α → Option β)
    (none : γ) (some : β → γ) : ((first :: rest).findSome? f).elim none some =
      (f first).elim ((rest.findSome? f).elim none some) some := by
  rw [List.findSome?_cons]
  cases f first <;> rfl

theorem ofVariables_eq (environment : Variables) (hostname : Option String) (tag : String) :
    Configuration.ofVariables environment hostname tag =
      (Setting.all.findSome? environment.fault?).elim
        (.ok (Configuration.settled environment hostname tag)) .error := by
  have channelLastN := optional?_setting environment .channelLastN (number? UInt32.size) .number
    (fun _ => rfl) fun _ => rfl
  have adaptiveLastN := optional?_setting environment .adaptiveLastN flag? .flag
    (fun _ => rfl) fun _ => rfl
  have adaptiveSimulcast := optional?_setting environment .adaptiveSimulcast flag? .flag
    (fun _ => rfl) fun _ => rfl
  simp only [Setting.variableName] at channelLastN adaptiveLastN adaptiveSimulcast
  rw [Configuration.ofVariables, replyTimeout_eq, channelLastN, adaptiveLastN,
    adaptiveSimulcast, loggingOfVariables_eq]
  simp only [elim_bind, Setting.all, elim_findSome?_cons, List.findSome?_nil, Option.elim_none]
  rfl

theorem ofVariables_eq_ok_iff {environment : Variables} {hostname : Option String} {tag : String}
    {configuration : Configuration} :
    Configuration.ofVariables environment hostname tag = .ok configuration ↔
      (∀ setting : Setting, setting.Passes environment) ∧
        configuration = .settled environment hostname tag := by
  rw [ofVariables_eq]
  have silent : Setting.all.findSome? environment.fault? = none ↔
      ∀ setting : Setting, setting.Passes environment := by
    rw [List.findSome?_eq_none_iff]
    exact ⟨fun none setting => Variables.fault?_eq_none_iff.mp (none setting setting.mem_all),
      fun passes setting _ => Variables.fault?_eq_none_iff.mpr (passes setting)⟩
  rw [← silent]
  cases Setting.all.findSome? environment.fault? with
  | none => simp [eq_comm]
  | some error => simp

theorem ofVariables_eq_error_iff {environment : Variables} {hostname : Option String}
    {tag : String} {error : ConfigurationError} :
    Configuration.ofVariables environment hostname tag = .error error ↔
      ∃ setting value, Setting.FirstMalformed environment setting value ∧
        setting.Reports value error := by
  have failed : Configuration.ofVariables environment hostname tag = .error error ↔
      Setting.all.findSome? environment.fault? = some error := by
    rw [ofVariables_eq]
    cases Setting.all.findSome? environment.fault? <;> simp
  simp only [failed, List.findSome?_eq_some_iff, Variables.fault?_eq_some_iff,
    Variables.fault?_eq_none_iff]
  constructor
  · rintro ⟨earlier, setting, later, order, ⟨value, given, malformed, reports⟩, passes⟩
    exact ⟨setting, value, ⟨earlier, later, order, passes, given, malformed⟩, reports⟩
  · rintro ⟨setting, value, ⟨earlier, later, order, passes, given, malformed⟩, reports⟩
    exact ⟨earlier, setting, later, order, ⟨value, given, malformed, reports⟩, passes⟩

theorem reading?_settled {environment : Variables} {setting : Setting} {value : String}
    {reading : Reading} (hostname : Option String) (tag : String)
    (given : environment setting.variableName = some value)
    (said : setting.Says value reading) :
    (Configuration.settled environment hostname tag).reading? setting = some reading := by
  have read := Setting.read?_eq_some_iff.mpr said
  cases setting with
  | replyTimeout =>
      obtain ⟨milliseconds, kept, rfl⟩ := Option.map_eq_some_iff.mp read
      have parsed := (Option.filter_eq_some_iff.mp kept).1
      simp [Configuration.settled, Configuration.reading?, given, parsed]
  | channelLastN =>
      obtain ⟨count, parsed, rfl⟩ := Option.map_eq_some_iff.mp read
      simp [Configuration.settled, Configuration.reading?, given, parsed]
  | adaptiveLastN | adaptiveSimulcast | jsonLogs =>
      obtain ⟨on, parsed, rfl⟩ := Option.map_eq_some_iff.mp read
      simp [Configuration.settled, Configuration.reading?, given, parsed]

theorem reading?_settled_congr {environment other : Variables} {setting : Setting}
    (hostname otherHostname : Option String) (tag otherTag : String)
    (agree : environment setting.variableName = other setting.variableName) :
    (Configuration.settled environment hostname tag).reading? setting =
      (Configuration.settled other otherHostname otherTag).reading? setting := by
  cases setting <;> simp only [Configuration.settled, Configuration.reading?, agree]

theorem said_by_decimal_replyTimeout_iff {signed : Bool} {zeros milliseconds : Nat}
    {reading : Reading} : Setting.replyTimeout.Says (decimal signed zeros milliseconds) reading ↔
      0 < milliseconds ∧ milliseconds < 2 ^ 64 ∧
        reading = .time (.ofMilliseconds milliseconds) := by
  cases reading with
  | time span => simp [Setting.Says, denotes_decimal_iff]
  | number count => simp [Setting.Says]
  | flag on => simp [Setting.Says]

theorem said_by_decimal_channelLastN_iff {signed : Bool} {zeros count : Nat} {reading : Reading} :
    Setting.channelLastN.Says (decimal signed zeros count) reading ↔
      count < 2 ^ 32 ∧ reading = .number count := by
  cases reading with
  | time span => simp [Setting.Says]
  | number other =>
      simp only [Setting.Says, denotes_decimal_iff, Reading.number.injEq]
      exact ⟨fun ⟨same, below⟩ => ⟨same ▸ below, same⟩, fun ⟨below, same⟩ => ⟨same, same ▸ below⟩⟩
  | flag on => simp [Setting.Says]

/-- A configuration is read exactly if every checked variable that is present is well-formed.
What such a variable says, and nothing else, decides what the configuration holds and hands on.
Otherwise the error names the first malformed variable in the order of reading.  Well-formed
numbers include all numbers in range that are written in decimal, whatever the sign and the
zeros before them, and none beyond. -/
theorem Configuration.reads_exactly_well_formed (environment : Variables)
    (hostname : Option String) (tag : String) :
    ((∃ configuration, Configuration.ofVariables environment hostname tag = .ok configuration) ↔
      ∀ setting : Setting, setting.Passes environment) ∧
    (∀ configuration, Configuration.ofVariables environment hostname tag = .ok configuration →
      (∀ (setting : Setting) (value : String) (reading : Reading),
        environment setting.variableName = some value → setting.Says value reading →
          configuration.reading? setting = some reading ∧
          (setting ≠ .jsonLogs →
            givenReading? configuration.colibri setting = some reading)) ∧
      (∀ (other : Variables) (otherHostname : Option String) (otherTag : String)
        (otherConfiguration : Configuration),
        Configuration.ofVariables other otherHostname otherTag = .ok otherConfiguration →
        ∀ setting : Setting, environment setting.variableName = other setting.variableName →
          configuration.reading? setting = otherConfiguration.reading? setting)) ∧
    (∀ error, Configuration.ofVariables environment hostname tag = .error error ↔
      ∃ setting value, Setting.FirstMalformed environment setting value ∧
        setting.Reports value error ∧ error.Mentions setting.variableName) ∧
    (∀ (signed : Bool) (zeros number : Nat) (reading : Reading),
      (Setting.replyTimeout.Says (decimal signed zeros number) reading ↔
        0 < number ∧ number < 2 ^ 64 ∧ reading = .time (.ofMilliseconds number)) ∧
      (Setting.channelLastN.Says (decimal signed zeros number) reading ↔
        number < 2 ^ 32 ∧ reading = .number number)) := by
  refine ⟨?_, ?_, ?_, ?_⟩
  · simp only [ofVariables_eq_ok_iff, exists_and_left, exists_eq, and_true]
  · intro configuration read
    obtain ⟨-, rfl⟩ := ofVariables_eq_ok_iff.mp read
    constructor
    · intro setting value reading given said
      have held := reading?_settled hostname tag given said
      exact ⟨held, fun handed => (givenReading?_colibri _ handed).trans held⟩
    · intro other otherHostname otherTag otherConfiguration otherRead setting agree
      obtain ⟨-, rfl⟩ := ofVariables_eq_ok_iff.mp otherRead
      exact reading?_settled_congr hostname otherHostname tag otherTag agree
  · intro error
    rw [ofVariables_eq_error_iff]
    constructor
    · rintro ⟨setting, value, first, reports⟩
      exact ⟨setting, value, first, reports, reports.mentions⟩
    · rintro ⟨setting, value, first, reports, -⟩
      exact ⟨setting, value, first, reports⟩
  · intro signed zeros number reading
    exact ⟨said_by_decimal_replyTimeout_iff, said_by_decimal_channelLastN_iff⟩

/-- The greatest numbers there are, one of them signed and both behind zeros, and a number past
the limit with a word that is no flag after it. -/
theorem Configuration.reads_exactly_well_formed_of_limits :
    let greatest : Variables := fun name => [
      ("FOCUS_BRIDGE_REPLY_TIMEOUT_MS", decimal true 3 (2 ^ 64 - 1)),
      ("FOCUS_CHANNEL_LAST_N", decimal false 1 (2 ^ 32 - 1)),
      ("FOCUS_JSON_LOGS", "true")].lookup name
    let beyond : Variables := fun name => [
      ("FOCUS_BRIDGE_REPLY_TIMEOUT_MS", decimal false 0 1),
      ("FOCUS_CHANNEL_LAST_N", decimal false 0 (2 ^ 32)), ("FOCUS_JSON_LOGS", "yes")].lookup name
    (∃ configuration, Configuration.ofVariables greatest none "" = .ok configuration ∧
      configuration.reading? .replyTimeout = some (.time (.ofMilliseconds (2 ^ 64 - 1))) ∧
      givenReading? configuration.colibri .channelLastN = some (.number (2 ^ 32 - 1))) ∧
    Configuration.ofVariables beyond none "" =
      .error (.malformed "FOCUS_CHANNEL_LAST_N" (decimal false 0 (2 ^ 32))) := by
  intro greatest beyond
  obtain ⟨accepted, held, -, written⟩ := reads_exactly_well_formed greatest none ""
  obtain ⟨-, -, refused, -⟩ := reads_exactly_well_formed beyond none ""
  constructor
  · have timeout : Setting.replyTimeout.Says (decimal true 3 (2 ^ 64 - 1))
        (.time (.ofMilliseconds (2 ^ 64 - 1))) :=
      (written true 3 _ _).1.mpr ⟨by decide, by decide, rfl⟩
    have lastN : Setting.channelLastN.Says (decimal false 1 (2 ^ 32 - 1))
        (.number (2 ^ 32 - 1)) :=
      (written false 1 _ _).2.mpr ⟨by decide, rfl⟩
    have passes (setting : Setting) : setting.Passes greatest := by
      intro value given
      cases setting with
      | replyTimeout =>
          obtain rfl : decimal true 3 (2 ^ 64 - 1) = value := Option.some.inj given
          exact ⟨_, timeout⟩
      | channelLastN =>
          obtain rfl : decimal false 1 (2 ^ 32 - 1) = value := Option.some.inj given
          exact ⟨_, lastN⟩
      | adaptiveLastN | adaptiveSimulcast => exact absurd (given : none = some value) nofun
      | jsonLogs =>
          obtain rfl : "true" = value := Option.some.inj given
          exact ⟨.flag true, rfl⟩
    obtain ⟨configuration, read⟩ := accepted.mpr passes
    have said := (held configuration read).1
    exact ⟨configuration, read, (said .replyTimeout _ _ rfl timeout).1,
      (said .channelLastN _ _ rfl lastN).2 (by decide)⟩
  · refine (refused _).mpr ⟨.channelLastN, _, ⟨[.replyTimeout], _, rfl, ?_, rfl, ?_⟩, rfl,
      mentions_malformed _ _⟩
    · intro passed mem value given
      obtain rfl := List.mem_singleton.mp mem
      obtain rfl : decimal false 0 1 = value := Option.some.inj given
      exact ⟨_, (written false 0 1 _).1.mpr ⟨by decide, by decide, rfl⟩⟩
    · rintro ⟨reading, said⟩
      exact absurd ((written false 0 (2 ^ 32) reading).2.mp said).1 (by decide)

end ConferenceFocus.Settings
