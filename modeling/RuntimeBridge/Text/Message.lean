/-
# Messages across the boundary

A message of an error crosses the boundary as octets that end with a zero.  A NUL inside the message
would cut it short, so a blank stands in its place.  The reader takes the octets before the first
zero and repairs what is not UTF-8.
-/
import RuntimeBridge.Text.Utf8
namespace RuntimeBridge

/-- A text with a blank in place of each NUL. -/
def blankNuls (s : String) : String :=
  String.ofList (s.toList.map fun c => if c == '\x00' then ' ' else c)

namespace Message

/-- The octets of a message, without the zero at the end. -/
def octets (s : String) : List UInt8 :=
  (Utf8.encode s).map fun b => if b == 0 then 0x20 else b

/-- The text in front of the first zero; no text behind the null pointer. -/
def take (message : Option (List UInt8)) : Option String :=
  message.map fun bytes => Utf8.decodeLossy (bytes.takeWhile (· != 0))

end Message

end RuntimeBridge
