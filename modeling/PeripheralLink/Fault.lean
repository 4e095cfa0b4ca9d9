import PeripheralLink.Message.Line
/-!
Failures that end a call: those that the outside world raises, the one kind of line error that cannot
be reported, and the use of a value where only one of another kind will do.
-/

namespace PeripheralLink

/-- A failure, with the text it came with. -/
inductive Fault
  | system (text : String)
  | breakdown (text : String)
  | missing
  | refused (text : String)
  | backend (text : String)
  /-- The error of a line could not be worded. -/
  | line (reason : FrameError)
  | notCountable (kind : String)
  | notComparable (kind : String)
  | beyondDoubles
  | levelNotWhole
  | loggerNotText
  | pathNotText (kind : String)
  | pathHoldsNull
  | noSuchSocket
  | unknownOption (name : String)
deriving DecidableEq

def Fault.text : Fault → String
  | system text => text
  | breakdown text => text
  | missing => ""
  | refused text => text
  | backend text => text
  | line reason => reason.message
  | notCountable kind => "'" ++ kind ++ "' object cannot be interpreted as an integer"
  | notComparable kind => "'>' not supported between instances of '" ++ kind ++ "' and 'int'"
  | beyondDoubles => "int too large to convert to float"
  | levelNotWhole => "level must be an integer"
  | loggerNotText => "A logger name must be a string"
  | pathNotText kind => "expected str, bytes or os.PathLike object, not " ++ kind
  | pathHoldsNull => "embedded null byte"
  | noSuchSocket => "list index out of range"
  | unknownOption name => "module 'socket' has no attribute '" ++ name ++ "'"

def Fault.isSystem : Fault → Bool
  | system _ => true
  | _ => false

end PeripheralLink
