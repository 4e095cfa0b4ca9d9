import PeripheralLink.Message.Basic
/-!
What the companion answers: a device request gets the device's description, and every other message
an empty acknowledgement.  The answer goes back to where the message came from.
-/

namespace PeripheralLink

def deviceRequest : Int := 0x01

def deviceInfo : Int := 0x05

def acknowledgement : Int := 0x07

/-- The description of a memory card with display and clock: its functions, and the definition of
each of three. -/
def deviceDescription : List Int := [0x0E000000, 0x7E7E3F40, 0x00051000, 0x000F4100]

/-- The message with words written one after the other from an index on. -/
def Message.setWords (m : Message) (index : Int) : List Int → Message
  | [] => m
  | word :: rest => (m.setWord word index).setWords (index + 1) rest

/-- The answer to a message; an address that is no byte cannot be answered. -/
def Message.reply (m : Message) : Except MessageError Message := do
  let describes := m.command = deviceRequest
  let answer ← Message.make (.int (if describes then deviceInfo else acknowledgement)) (.int m.origin)
    (.int m.destination) (.int 0) []
  return if describes then answer.setWords 0 deviceDescription else answer

end PeripheralLink
