import ConferenceFocus.Colibri.Request
import ConferenceFocus.Settings.Numeral

/-!
# Configuration from variables

The focus is configured by named variables.  One that is absent falls back to
a default; one that is present but malformed is refused, so that a slip of the
pen never changes how bridges are used.  Where several are malformed, the
first in the order of reading is reported.
-/

namespace ConferenceFocus.Settings

/-- The variables that are set, with their values. -/
abbrev Variables := String → Option String

structure Logging where
  level : String := "info"
  json : Bool := false
  deriving DecidableEq, Repr

inductive LoggingError where
  /-- The JSON variable holds something else than a truth value. -/
  | notAFlag (value : String)
  deriving DecidableEq, Repr

namespace LoggingError

def message : LoggingError → String
  | notAFlag value =>
      "Configuration error: FOCUS_JSON_LOGS must be a boolean, got " ++ value

end LoggingError

namespace Logging

/-- The level is taken as it stands; whether to log JSON has to be a flag. -/
def ofVariables (environment : Variables) : Except LoggingError Logging :=
  let level := (environment "FOCUS_LOG_LEVEL").getD "info"
  match environment "FOCUS_JSON_LOGS" with
  | none => .ok { level }
  | some value =>
      match flag? value with
      | some json => .ok { level, json }
      | none => .error (.notAFlag value)

end Logging

inductive ConfigurationError where
  | malformed (name value : String)
  | zero (name : String)
  | logging (cause : LoggingError)
  deriving DecidableEq, Repr

namespace ConfigurationError

def message : ConfigurationError → String
  | malformed name value => s!"Invalid configuration value: {name}={value}"
  | zero name => s!"Invalid configuration value: {name} must be greater than zero"
  | logging cause => "Invalid configuration value: " ++ cause.message

end ConfigurationError

structure Configuration where
  focusId : String
  /-- How long awaited requests wait for the bridge. -/
  replyTimeout : Duration
  preferredBridge : Option BridgeAddress := none
  channelLastN : Option Nat := none
  adaptiveLastN : Bool := false
  adaptiveSimulcast : Bool := false
  logging : Logging := {}
  deriving DecidableEq, Repr

def optional? {α : Type} (environment : Variables) (name : String) (read : String → Option α) :
    Except ConfigurationError (Option α) :=
  match environment name with
  | none => .ok none
  | some value =>
      match read value with
      | some parsed => .ok (some parsed)
      | none => .error (.malformed name value)

def defaultReplyTimeout : Nat := 15000

/-- The timeout in milliseconds, which cannot be zero. -/
def replyTimeout (environment : Variables) : Except ConfigurationError Nat := do
  let name := "FOCUS_BRIDGE_REPLY_TIMEOUT_MS"
  let milliseconds := (← optional? environment name (number? UInt64.size)).getD defaultReplyTimeout
  if milliseconds = 0 then .error (.zero name) else .ok milliseconds

/-- The name a focus gives itself, from its host and a tag of its own. -/
def generatedFocusId (hostname : Option String) (tag : String) : String :=
  let host := hostname.getD "unknown"
  s!"focus-{host}-{tag}"

namespace Configuration

/-- Reads the configuration.  The host's name and the tag serve to make up an
identifier where none is given. -/
def ofVariables (environment : Variables) (hostname : Option String) (tag : String) :
    Except ConfigurationError Configuration := do
  let milliseconds ← Settings.replyTimeout environment
  let channelLastN ← optional? environment "FOCUS_CHANNEL_LAST_N" (number? UInt32.size)
  let adaptiveLastN ← optional? environment "FOCUS_ADAPTIVE_LAST_N" flag?
  let adaptiveSimulcast ← optional? environment "FOCUS_ADAPTIVE_SIMULCAST" flag?
  let logging ← (Logging.ofVariables environment).mapError .logging
  return {
    focusId := (environment "FOCUS_ID").getD (generatedFocusId hostname tag)
    replyTimeout := .ofMilliseconds milliseconds
    preferredBridge := ((environment "FOCUS_PREFERRED_BRIDGE").filter (· ≠ "")).map (⟨·⟩)
    channelLastN
    adaptiveLastN := adaptiveLastN.getD false
    adaptiveSimulcast := adaptiveSimulcast.getD false
    logging }

/-- What every conference of this focus asks of its bridge. -/
def colibri (configuration : Configuration) : Colibri.Settings :=
  { replyTimeout := configuration.replyTimeout,
    channelLastN := configuration.channelLastN,
    adaptiveLastN := configuration.adaptiveLastN,
    adaptiveSimulcast := configuration.adaptiveSimulcast }

end Configuration

end ConferenceFocus.Settings
