import PeripheralLink.Log
import PeripheralLink.Log.Layout
import PeripheralLink.Log.System
import PeripheralLink.Log.Threshold
import PeripheralLink.Fault
/-!
Where reports are written: the console, and a file beside it.  Setting the log up replaces what was
set up before; lines are added to a file that is there already.  The loggers of two libraries have a
threshold of their own, which is low only where the general one is.
-/

namespace PeripheralLink

/-- The layout of the lines of a role, which may have slots of its own. -/
def lineLayout (role : String) : Option (List LinePart) :=
  readLayout ("%(asctime)s - [" ++ role ++ "] %(name)s - %(levelname)s - %(message)s").toList

structure Origin where
  directory : String
  module : String
  function : String
  line : Int

def Origin.outside : Origin := ⟨"/", "program", "<module>", 1⟩

def Origin.setUp (line : Int) : Origin := ⟨"/vmu_link/", "logging_config", "setup_logging", line⟩

def Origin.file (o : Origin) : String := o.module ++ ".py"

/-- What is to be written. -/
structure LogRecord where
  logger : String
  level : Value
  message : String
  origin : Origin := .outside

/-- The seconds at which records count as made, since the clock of dates began. -/
def startOfClock : Float := 946684800.0

/-- The number of the thread that makes records. -/
def mainThread : Int := Nat.pow 2 47

/-- The fields of a record that is logged at a time.  Those that differ from run to run have a value of
their kind. -/
def LogRecord.field? (r : LogRecord) (time : String) : String → Option FieldValue
  | "asctime" => some (.text time)
  | "name" => some (.text (if r.logger.isEmpty then "root" else r.logger))
  | "levelname" => some (.text (thresholdName r.level))
  | "levelno" => r.level.whole?.map .whole
  | "message" => some (.text r.message)
  | "msg" => some (.text r.message)
  | "args" => some (.thing "()")
  | "exc_info" => some (.thing "None")
  | "exc_text" => some (.thing "None")
  | "stack_info" => some (.thing "None")
  | "pathname" => some (.text (r.origin.directory ++ r.origin.file))
  | "filename" => some (.text r.origin.file)
  | "module" => some (.text r.origin.module)
  | "funcName" => some (.text r.origin.function)
  | "lineno" => some (.whole r.origin.line)
  | "created" => some (.number startOfClock)
  | "msecs" => some (.number 0.0)
  | "relativeCreated" => some (.number 0.0)
  | "thread" => some (.whole mainThread)
  | "process" => some (.whole (1 : Int))
  | "threadName" => some (.text "MainThread")
  | "processName" => some (.text "MainProcess")
  | _ => none

def LogEntry.logRecord (e : LogEntry) : LogRecord :=
  { logger := e.channel.name, level := .int e.level.severity, message := e.text }

structure LogSetup where
  role : String
  threshold : Value
  file : Option Path.Place
  unwritten : Bool := false

/-- The log: its set-up, what was printed so far, and the files. -/
structure LogOutput where
  stamp : String
  directory : String
  setup : Option LogSetup := none
  printed : Array String := #[]
  files : List (String × Array String) := []
  /-- Files outside the directory that were made, by the names that lead there. -/
  made : List (List String) := []
  system : Path.FileSystem := .usual

namespace LogOutput

def severity (o : LogOutput) : Int := ((o.setup.bind fun s => s.threshold.int?)).getD 30

def libraries : List String := ["socketio", "engineio"]

/-- A logger belongs to a library: it has its name, or a name below it. -/
def isLibrary (logger : String) : Bool :=
  libraries.any fun name =>
    logger == name || (name.toList ++ ['.']).isPrefixOf logger.toList

/-- The threshold of the libraries; before the log is set up they have none. -/
def librarySeverity (o : LogOutput) : Int :=
  if o.setup.isNone then 0 else if o.severity ≤ 10 then 10 else 30

/-- A record reaches the outputs.  Nothing at zero or below ever does. -/
def admits (o : LogOutput) (r : LogRecord) : Bool :=
  match r.level.int? with
  | none => false
  | some level =>
    0 < level && o.severity ≤ level && (!isLibrary r.logger || o.librarySeverity ≤ level)

def print (o : LogOutput) (text : String) : LogOutput := { o with printed := o.printed.push text }

/-- Adds a text to a file. -/
def append (o : LogOutput) (file text : String) : LogOutput :=
  { o with files := o.files.map fun (name, texts) =>
      (name, if name == file then texts.push text else texts) }

/-- The line of a record, if the layout of the role can be read and the record has what it asks for. -/
def line? (o : LogOutput) (s : LogSetup) (r : LogRecord) : Option String :=
  (lineLayout s.role).bind (writeParts? (r.field? o.stamp))

def write (o : LogOutput) (r : LogRecord) : LogOutput :=
  match o.setup with
  | none => o
  | some s =>
    if o.admits r then
      match o.line? s r with
      | none => o
      | some line =>
        let o := o.print (line ++ "\n")
        match s.file with
        | some (.here file) => o.append file (line ++ "\n")
        | some .full => { o with setup := some { s with unwritten := true } }
        | _ => o
    else o

/-- Logs a message at a level by way of the logger of a name; without a name it is the one above all
others. -/
def log (o : LogOutput) (logger level : Value) (message : String) : Except Fault LogOutput :=
  match logger.truth, logger.text? with
  | true, none => .error .loggerNotText
  | _, name =>
    match level.int? with
    | none => .error .levelNotWhole
    | some _ => .ok (o.write { logger := name.getD "", level, message })

/-- The file that a path leads to, or why there can be none. -/
def locate (o : LogOutput) (path : String) : Except String Path.Place :=
  (Path.find o.system o.directory (fun name => (o.files.lookup name).isSome) o.made path).mapError fun e =>
    if e.namesPath then
      e.message ++ ": " ++ Text.quote (Path.absolute o.directory path).toList
    else e.message

/-- The path of a file beside the console, if one is given. -/
def filePath? (o : LogOutput) (path : Value) : Except Fault (Option String) :=
  if !path.truth then .ok none
  else
    match path with
    | .text p =>
      if (Path.absolute o.directory p).contains '\x00' then .error .pathHoldsNull else .ok (some p)
    | v => .error (.pathNotText v.kind)

/-- Ends what the log was set up for.  That fails if lines for a file found no room. -/
def close (o : LogOutput) : Except Fault LogOutput :=
  if o.setup.any LogSetup.unwritten then .error (.system FileError.noRoom.message)
  else .ok { o with setup := none }

/-- Sets the log up for a role, with a file beside the console if a path is given.  Without the file the
log goes to the console alone. -/
def start (o : LogOutput) (role : String) (level : Value) (path : Option String) : LogOutput :=
  let level := threshold level
  let located := path.map o.locate
  let file := located.bind Except.toOption
  let o := { o with
    setup := some { role, threshold := level, file }
    files := match file with
      | some (.here name) =>
        if (o.files.lookup name).isSome then o.files else o.files ++ [(name, #[])]
      | _ => o.files
    made := match file with
      | some (.elsewhere names) => names :: o.made
      | _ => o.made }
  let report (o : LogOutput) (line level : Int) (message : String) : LogOutput :=
    o.write { logger := "root", level := .int level, message, origin := .setUp line }
  let o := match path, located with
    | some p, some (.ok _) => report o 82 20 ("Logging to file: " ++ p)
    | some p, some (.error reason) => report o 80 40 ("Failed to create log file " ++ p ++ ": " ++ reason)
    | _, _ => o
  report o 84 20 ("Logging configured: role=" ++ role ++ ", level=" ++ thresholdName level)

/-- Sets the log up anew; what it was set up for before ends once the path is known to be one. -/
def setUp (o : LogOutput) (role : String) (level path : Value) : Except Fault LogOutput := do
  let path ← o.filePath? path
  return (← o.close).start role level path

def writeAll (o : LogOutput) (entries : List LogEntry) : LogOutput :=
  entries.foldl (fun o e => o.write e.logRecord) o

end LogOutput

/-- The characters that end a line. -/
def endsLine (c : Char) : Bool :=
  let n := c.toNat
  (0x0A ≤ n && n ≤ 0x0D) || (0x1C ≤ n && n ≤ 0x1E) || n == 0x85 || n == 0x2028 || n == 0x2029

/-- The lines of a text that begins within the line `current`, whose characters stand in reverse. -/
def linesFrom (current : List Char) : List Char → List String
  | [] => if current.isEmpty then [] else [String.ofList current.reverse]
  | '\r' :: '\n' :: rest => String.ofList current.reverse :: linesFrom [] rest
  | c :: rest =>
    if endsLine c then String.ofList current.reverse :: linesFrom [] rest
    else linesFrom (c :: current) rest

/-- The lines of texts printed one after the other. -/
def linesOf (texts : Array String) : List String := linesFrom [] (String.join texts.toList).toList

end PeripheralLink
