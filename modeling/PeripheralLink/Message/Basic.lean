import PeripheralLink.Value
/-!
The peripheral message: four header fields and a payload buffer of fixed capacity, of which the
first `wordCount` words are in use.  Header fields are whole numbers of any size, because a field
may be assigned without a check; `Message.make` is the checked way in.
-/

namespace PeripheralLink

def capacity : Nat := 1024

/-- Bytes of a payload word. -/
def wordSize : Nat := 4

/-- The most words a message may declare. -/
def maxWords : Nat := 255

inductive HeaderField
  | command
  | destination
  | origin
  | wordCount
deriving DecidableEq

def HeaderField.name : HeaderField → String
  | command => "command"
  | destination => "dest_address"
  | origin => "origin_address"
  | wordCount => "word_count"

inductive MessageError
  | notByte (field : HeaderField) (value : Value)
  | payloadTooLong (length : Nat)
  | dataTooLong (length : Nat)
  | wordOutside (index count : Whole)
  | wordBeyondBuffer (index : Int)
  | wordUnaddressable
  | notPayloadByte
  | offsetOutside
  | offsetUnaddressable

/-- Offsets below this bound, and from its negative up, can be addressed. -/
def addressBound : Int := Nat.pow 2 63

def MessageError.message : MessageError → String
  | notByte field value =>
    Number.worded value.int?.toList (field.name ++ " must be a byte (0-255), got " ++ value.shown)
  | payloadTooLong length =>
    "payload " ++ Number.integer length ++ " exceeds capacity " ++ Number.integer capacity
  | dataTooLong length =>
    "data " ++ Number.integer length ++ " exceeds " ++ Number.integer (maxWords * wordSize) ++ " bytes"
  | wordOutside index count =>
    Number.worded [index.value, count.value]
      ("word " ++ index.shown ++ " outside word_count " ++ count.shown)
  | wordBeyondBuffer index =>
    "unpack_from requires a buffer of at least " ++ Number.integer (index * wordSize + wordSize) ++
      " bytes for unpacking " ++ Number.integer wordSize ++ " bytes at offset " ++
      Number.integer (index * wordSize) ++ " (actual buffer size is " ++ Number.integer capacity ++ ")"
  | wordUnaddressable => "Python int too large to convert to C ssize_t"
  | notPayloadByte => "byte must be in range(0, 256)"
  | offsetOutside => "bytearray index out of range"
  | offsetUnaddressable => "cannot fit 'int' into an index-sized integer"

/-- The integers that the refusal shows can be written; otherwise wording it fails. -/
def MessageError.isWordable : MessageError → Bool
  | notByte _ value => value.int?.toList.all Number.isWritable
  | wordOutside index count => Number.isWritable index.value && Number.isWritable count.value
  | _ => true

abbrev Payload := Vector UInt8 capacity

/-- A buffer that begins with the given bytes and holds zeros after them. -/
def Payload.ofList (bytes : List UInt8) : Payload :=
  let source := bytes.toArray
  Vector.ofFn fun i => source.getD i 0

/-- The buffer with `bytes` written at its start and zeros from there up to `stop`. -/
def Payload.overwrite (p : Payload) (bytes : List UInt8) (stop : Nat) : Payload :=
  let source := bytes.toArray
  Vector.ofFn fun i =>
    if i.val < source.size then source.getD i 0 else if i.val < stop then 0 else p[i]

/-- The byte of a word at its place, the least significant first. -/
def wordByte (word place : Nat) : UInt8 := UInt8.ofNat (word / Nat.pow 256 place)

/-- The buffer with a word written at its place. -/
def Payload.writeWord (p : Payload) (word index : Nat) : Payload :=
  Vector.ofFn fun i => if i.val / wordSize = index then wordByte word (i.val % wordSize) else p[i]

/-- The word at its place, the least significant byte first. -/
def Payload.readWord (p : Payload) (index : Nat) (h : index * wordSize + wordSize ≤ capacity) : Nat :=
  have hw : wordSize = 4 := rfl
  p[index * wordSize].toNat + 256 * p[index * wordSize + 1].toNat +
    65536 * p[index * wordSize + 2].toNat + 16777216 * p[index * wordSize + 3].toNat

/-- A bound of a slice: a negative one counts from the end, and both stay within the bytes. -/
def sliceBound (length : Nat) (bound : Int) : Nat :=
  if bound < 0 then (length + bound).toNat else min bound.toNat length

/-- The bytes from one bound to another. -/
def slice (bytes : List UInt8) (start stop : Int) : List UInt8 :=
  let first := sliceBound bytes.length start
  (bytes.take (sliceBound bytes.length stop)).drop first

structure Message where
  command : Int := 0
  destination : Int := 0
  origin : Int := 0
  wordCount : Int := 0
  /-- The word count was entered as a truth value, which only its shown form tells. -/
  countIsTruth : Bool := false
  payload : Payload := Vector.replicate capacity 0

namespace Message

/-- The integer of a value that is a byte. -/
def checkByte (field : HeaderField) (value : Value) : Except MessageError Int :=
  match value.int? with
  | some n => if 0 ≤ n ∧ n ≤ 255 then .ok n else .error (.notByte field value)
  | none => .error (.notByte field value)

/-- The message with the given header and a payload that fits the buffer. -/
def make (command destination origin wordCount : Value) (payload : List UInt8) :
    Except MessageError Message := do
  let command ← checkByte .command command
  let destination ← checkByte .destination destination
  let origin ← checkByte .origin origin
  let count ← checkByte .wordCount wordCount
  if capacity < payload.length then throw (.payloadTooLong payload.length)
  return {
    command, destination, origin
    wordCount := count
    countIsTruth := match wordCount with | .bool _ => true | _ => false
    payload := Payload.ofList payload
  }

/-- Bytes that the word count declares. -/
def dataSize (m : Message) : Int := m.wordCount * wordSize

/-- Payload bytes in use.  A negative size cuts that many bytes from the end of the buffer. -/
def data (m : Message) : List UInt8 := m.payload.toList.take (sliceBound capacity m.dataSize)

def setData (m : Message) (data : List UInt8) : Except MessageError Message :=
  if maxWords * wordSize < data.length then .error (.dataTooLong data.length)
  else
    let count := (data.length + wordSize - 1) / wordSize
    .ok { m with
      wordCount := count
      countIsTruth := false
      payload := m.payload.overwrite data (count * wordSize) }

/-- The message with a word written, its count raised to include it.  An index outside the words a
message may declare changes nothing. -/
def setWord (m : Message) (value index : Int) : Message :=
  if index < 0 ∨ maxWords ≤ index then m
  else
    let written := { m with payload := m.payload.writeWord (value % Nat.pow 2 32).toNat index.toNat }
    if m.wordCount ≤ index then { written with wordCount := index + 1, countIsTruth := false }
    else written

/-- The word count as it was entered. -/
def count (m : Message) : Whole := ⟨m.wordCount, m.countIsTruth⟩

/-- The word at an index in use. -/
def getWord (m : Message) (index : Whole) : Except MessageError Nat :=
  let place := index.value
  if place < 0 ∨ m.wordCount ≤ place then .error (.wordOutside index m.count)
  else if addressBound ≤ place * wordSize then .error .wordUnaddressable
  else if h : place.toNat * wordSize + wordSize ≤ capacity then .ok (m.payload.readWord place.toNat h)
  else .error (.wordBeyondBuffer place)

/-- The message with one header field assigned without a check. -/
def assign (m : Message) (field : HeaderField) (value : Whole) : Message :=
  match field with
  | .command => { m with command := value.value }
  | .destination => { m with destination := value.value }
  | .origin => { m with origin := value.value }
  | .wordCount => { m with wordCount := value.value, countIsTruth := value.isTruth }

/-- The message with one payload byte assigned; a negative offset counts from the end. -/
def poke (m : Message) (offset value : Int) : Except MessageError Message :=
  if offset < -addressBound ∨ addressBound ≤ offset then .error .offsetUnaddressable
  else if value < 0 ∨ 255 < value then .error .notPayloadByte
  else
    let place := if offset < 0 then offset + capacity else offset
    if h : 0 ≤ place ∧ place.toNat < capacity then
      .ok { m with payload := m.payload.set place.toNat (UInt8.ofNat value.toNat) h.2 }
    else .error .offsetOutside

def peek (m : Message) (offset count : Int) : List UInt8 :=
  slice m.payload.toList offset (offset + count)

/-- A message of the same header with a buffer of its own, refused where a field is no byte. -/
def copy (m : Message) : Except MessageError Message :=
  make (.int m.command) (.int m.destination) (.int m.origin) m.count.entered m.payload.toList

/-- Equality of messages: the header and the bytes in use. -/
def same (a b : Message) : Bool :=
  a.command == b.command && a.destination == b.destination && a.origin == b.origin &&
    a.wordCount == b.wordCount && a.data == b.data

def shown (m : Message) : String :=
  let hex (n : Int) := "0x" ++ String.ofList (Text.hexField n)
  "PeripheralMessage(command=" ++ hex m.command ++ ", dest=" ++ hex m.destination ++ ", origin=" ++
    hex m.origin ++ ", words=" ++ m.count.shown ++ ", data=" ++ Text.hexText m.data ++ ")"

end Message

end PeripheralLink
