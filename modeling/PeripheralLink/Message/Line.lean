import PeripheralLink.Message.Basic
import PeripheralLink.Text.Blank
/-!
The line that carries a message: two hexadecimal digits for each header field and each byte in use,
with single blanks between them and a line end after them.  `Message.line` writes it and
`Codec.parse` reads it; reading is lenient about case, about the blanks, and about whatever follows
the declared bytes.
-/

namespace PeripheralLink

/-- The two bytes that end a line. -/
def lineEnd : List UInt8 := [13, 10]

/-- Header fields at the start of a line. -/
def headerTokens : Nat := 4

/-- The longest line accepted by default. -/
def defaultLineLimit : Int := 4096

/-- The place of a byte in a line. -/
inductive LineField
  | header (field : HeaderField)
  | data (index : Nat)
deriving DecidableEq

def LineField.name : LineField → String
  | header field => field.name
  | data index => "data[" ++ Number.integer index ++ "]"

inductive FrameError
  | lineTooLong (length : Nat) (limit : Whole)
  | notAscii (byte : UInt8) (position : Nat)
  | headerIncomplete (tokens : Nat)
  | notHexByte (field : LineField) (token : List Char)
  | notHexCount (token : List Char)
  /-- A line declares more words than the buffer holds. -/
  | countTooLarge (count : Nat)
  /-- A message declares more bytes than the buffer holds. -/
  | dataTooLarge (size : Int)
  | truncated (needed available : Nat)
  /-- The declared size has too many digits to be reported. -/
  | sizeUnwritable
deriving DecidableEq

namespace FrameError

def message : FrameError → String
  | lineTooLong length limit =>
    Number.worded [limit.value] ("Line length " ++ Number.integer length ++ " exceeds " ++ limit.shown)
  | notAscii byte position =>
    "Non-ASCII line: 'ascii' codec can't decode byte 0x" ++ String.ofList (Text.hexByteLower byte) ++
      " in position " ++ Number.integer position ++ ": ordinal not in range(128)"
  | headerIncomplete tokens =>
    "Header needs " ++ Number.integer headerTokens ++ " tokens, got " ++ Number.integer tokens
  | notHexByte field token => field.name ++ ": invalid hex byte " ++ Text.quote token
  | notHexCount token => HeaderField.wordCount.name ++ ": invalid hex " ++ Text.quote token
  | countTooLarge count =>
    "Word count " ++ Number.integer count ++ " implies " ++ Number.integer (count * wordSize) ++
      " bytes, max " ++ Number.integer capacity
  | dataTooLarge size =>
    "Data size " ++ Number.integer size ++ " exceeds max " ++ Number.integer capacity
  | truncated needed available =>
    "Expected " ++ Number.integer needed ++ " data tokens, got " ++ Number.integer available
  | sizeUnwritable => Number.refusal

/-- An error of the line itself; the other kind is a failure to word one. -/
def isMalformed : FrameError → Bool
  | sizeUnwritable => false
  | _ => true

/-- The integers that the error shows can be written.  A bound that cannot, which is none that a line keeps to,
makes wording the error fail just as a size does. -/
def isWordable : FrameError → Bool
  | lineTooLong _ limit => Number.isWritable limit.value
  | sizeUnwritable => false
  | _ => true

/-- The error that reports a size, unless the size has too many digits to be reported. -/
def reporting (size : Int) (e : FrameError) : FrameError :=
  if Number.isWritable size then e else sizeUnwritable

end FrameError

def Message.tokens (m : Message) : List (List Char) :=
  [Text.hexField m.command, Text.hexField m.destination, Text.hexField m.origin,
    Text.hexField m.wordCount] ++ m.data.map Text.hexByte

/-- The line of a message, its line end included.  A message that declares more than the buffer
holds has none. -/
def Message.line (m : Message) : Except FrameError (List Char) :=
  if (capacity : Int) < m.dataSize then .error (.reporting m.dataSize (.dataTooLarge m.dataSize))
  else .ok (List.intercalate [' '] m.tokens ++ ['\r', '\n'])

def asciiBytes (cs : List Char) : List UInt8 := cs.map fun c => UInt8.ofNat c.toNat

def Message.lineBytes (m : Message) : Except FrameError (List UInt8) := m.line.map asciiBytes

/-- A line to be read: text, or bytes that must be ASCII. -/
inductive Line
  | text (cs : List Char)
  | bytes (bs : List UInt8)

def Line.length : Line → Nat
  | text cs => cs.length
  | bytes bs => bs.length

/-- Bytes as characters, with the position of the first byte outside ASCII. -/
def asciiChars (position : Nat) : List UInt8 → Except FrameError (List Char)
  | [] => .ok []
  | b :: rest =>
    if b.toNat < 0x80 then (asciiChars (position + 1) rest).map (Char.ofNat b.toNat :: ·)
    else .error (.notAscii b position)

def Line.chars : Line → Except FrameError (List Char)
  | text cs => .ok cs
  | bytes bs => asciiChars 0 bs

def readByte (field : LineField) (token : List Char) : Except FrameError UInt8 :=
  match Text.hexByte? token with
  | some b => .ok b
  | none => .error (.notHexByte field token)

/-- The bytes that the data tokens from place `index` on stand for. -/
def readData (index : Nat) : List (List Char) → Except FrameError (List UInt8)
  | [] => .ok []
  | token :: rest =>
    match readByte (.data index) token with
    | .error e => .error e
    | .ok b => (readData (index + 1) rest).map (b :: ·)

/-- The word count that a token declares.  An excess over the buffer is reported before a wrong
number of digits. -/
def readCount (token : List Char) : Except FrameError UInt8 :=
  match Text.hexNumber? token with
  | none => .error (.notHexCount token)
  | some count =>
    if capacity < count * wordSize then
      .error (.reporting (count * wordSize : Nat) (.countTooLarge count))
    else readByte (.header .wordCount) token

/-- The message that the tokens of a line stand for. -/
def readTokens (tokens : List (List Char)) : Except FrameError Message :=
  match tokens with
  | command :: destination :: origin :: count :: rest => do
    let command ← readByte (.header .command) command
    let destination ← readByte (.header .destination) destination
    let origin ← readByte (.header .origin) origin
    let count ← readCount count
    let size := count.toNat * wordSize
    if rest.length < size then throw (.truncated size rest.length)
    let data ← readData 0 (rest.take size)
    return {
      command := command.toNat, destination := destination.toNat, origin := origin.toNat
      wordCount := count.toNat
      payload := Payload.ofList data
    }
  | _ => .error (.headerIncomplete tokens.length)

structure Codec where
  lineLimit : Whole := defaultLineLimit

def Codec.parse (codec : Codec) (line : Line) : Except FrameError Message := do
  if codec.lineLimit.value < line.length then throw (.lineTooLong line.length codec.lineLimit)
  readTokens (Text.words (← line.chars))

/-- What reading a line comes to. -/
inductive Decoded
  | message (m : Message)
  | dropped (reason : FrameError)
  /-- The reason could not be worded. -/
  | failed (reason : FrameError)

/-- Reads a line and drops a malformed one. -/
def Codec.decode (codec : Codec) (line : Line) : Decoded :=
  match codec.parse line with
  | .ok m => .message m
  | .error e => if e.isMalformed then .dropped e else .failed e

example : ({ command := 7, origin := 2 } : Message).line.toOption =
    some "07 00 02 00\r\n".toList := by
  decide +kernel

end PeripheralLink
