import PeripheralLink.Target
import PeripheralLink.Timing.Interval
import PeripheralLink.Log
/-!
Settings from the environment.  A number that cannot be read falls back to its default with a
warning, and timing limits are kept within fixed bounds.
-/

namespace PeripheralLink

/-- Names and texts of the variables that are set. -/
abbrev Environment := List (String × String)

/-- A report on a variable that cannot be used. -/
inductive SettingNotice
  | invalidNumber (name raw : String) (fallback : Value)
  | invalidRate (rate : Float)

def SettingNotice.entry : SettingNotice → LogEntry
  | invalidNumber name raw fallback =>
    ⟨.warning, .settings,
      "Invalid " ++ name ++ "=" ++ Text.quote raw.toList ++ ", using default " ++ fallback.shown⟩
  | invalidRate rate =>
    ⟨.warning, .settings, "Invalid VMU_TICK_HZ=" ++ Number.plain.write rate ++ ", using 60"⟩

structure Settings where
  enabled : Bool
  target : Target
  connectTimeout : Float
  ioTimeout : Float
  lineLimit : Int
  logLevel : String
  logFile : Option String
  notifyUrl : Option String
  tickRate : Float

namespace Settings

/-- A text that is set and not empty. -/
def nonEmpty (env : Environment) (name : String) : Option String :=
  (env.lookup name).filter fun raw => !raw.isEmpty

/-- A number read by `read?`, or the fallback; unset and empty are no cause for a report. -/
def number {α : Type} (read? : String → Option α) (value : α → Value) (env : Environment)
    (name : String) (fallback : α) : α × List SettingNotice :=
  match nonEmpty env name with
  | none => (fallback, [])
  | some raw =>
    match read? raw with
    | some x => (x, [])
    | none => (fallback, [.invalidNumber name raw (value fallback)])

def float : Environment → String → Float → Float × List SettingNotice :=
  number Number.readFloat? .float

def int : Environment → String → Int → Int × List SettingNotice :=
  number Number.readInt? .int

/-- The defaults where no variable is set. -/
def standard : Settings where
  enabled := false
  target := .standard
  connectTimeout := 3.0
  ioTimeout := 0.005
  lineLimit := 4096
  logLevel := "INFO"
  logFile := none
  notifyUrl := none
  tickRate := 60.0

/-- Milliseconds as seconds, at least one thousandth; none where the number of milliseconds lies
beyond all doubles. -/
def ioSeconds (milliseconds : Int) : Option Float :=
  (Number.ofInt? milliseconds).map fun ms =>
    let seconds := ms / 1000.0
    if (0.001 : Float) < seconds then seconds else 0.001

/-- The settings of an environment with the reports on it; none where the I/O timeout lies beyond
all doubles. -/
def load (env : Environment) : Option (Settings × List SettingNotice) := do
  let (port, portNotices) := int env "VMU_NETWORK_PORT" 37393
  let (connect, connectNotices) := float env "VMU_CONNECT_TIMEOUT" standard.connectTimeout
  let (io, ioNotices) := int env "VMU_IO_TIMEOUT_MS" 5
  let ioTimeout ← ioSeconds io
  let (limit, limitNotices) := int env "VMU_MAX_LINE_LENGTH" standard.lineLimit
  let (rate, rateNotices) := float env "VMU_TICK_HZ" standard.tickRate
  let positive := !(rate ≤ 0.0)
  return ({
      enabled := (env.lookup "VMU_NETWORK_ENABLED").any fun raw =>
        raw.toList.map Char.toLower == "true".toList
      target := ⟨((env.lookup "VMU_NETWORK_HOST").map Value.text).getD Target.standard.host, .int port⟩
      connectTimeout := clamp connect 2.0 5.0
      ioTimeout
      lineLimit := clamp limit 1024 4096
      logLevel := (env.lookup "LOG_LEVEL").getD standard.logLevel
      logFile := nonEmpty env "LOG_FILE"
      notifyUrl := nonEmpty env "VMU_NOTIFY_SOCKETIO_URL"
      tickRate := if positive then rate else standard.tickRate },
    portNotices ++ connectNotices ++ ioNotices ++ limitNotices ++ rateNotices ++
      if positive then [] else [.invalidRate rate])

end Settings

end PeripheralLink
