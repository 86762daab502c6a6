import ReloadProbe.Wire.Property

/-!
Writing at the end of a buffer. A writer gives its result and the buffer as it leaves it, also when it
fails: what it wrote before a fault is then still there. The writers of fields look at a length before
they write it, and properties are gathered in a buffer of their own.
-/
namespace ReloadProbe.Wire

def Write := Bytes → Except WireError Unit × Bytes

namespace Write

def fail (e : WireError) : Write := fun buffer => (.error e, buffer)

def octets (bs : Bytes) : Write := fun buffer => (.ok (), buffer ++ bs)

def andThen (first second : Write) : Write := fun buffer =>
  match first buffer with
  | (.ok (), after) => second after
  | (.error e, after) => (.error e, after)

def digits (n : Nat) : Write :=
  if n < 128 then octets [UInt8.ofNat n]
  else (octets [UInt8.ofNat (n % 128 + 128)]).andThen (digits (n / 128))

def varInt (n : Nat) : Write :=
  if n ≤ VarInt.limit then digits n else fail (.remainingLengthTooLarge n)

def binary (data : Bytes) : Write :=
  if data.length ≤ 65535 then
    (octets (Bytes.ofUInt16 (UInt16.ofNat data.length))).andThen (octets data)
  else fail (.stringTooLong data.length)

def text (s : String) : Write := binary (Utf8.encode s)

end Write

namespace Property

def putValue : Property → Write
  | payloadFormatIndicator v | maximumQoS v => .octets [v]
  | retainAvailable v => .octets [if v then 1 else 0]
  | serverKeepAlive v | receiveMaximum v | topicAliasMaximum v | topicAlias v =>
    .octets (Bytes.ofUInt16 v)
  | messageExpiryInterval v | sessionExpiryInterval v | maximumPacketSize v =>
    .octets (Bytes.ofUInt32 v)
  | contentType s | assignedClientIdentifier s | reasonString s => .text s
  | userProperty key value => (Write.text key).andThen (.text value)

/-- The identifier is there before it is known whether the value can be written. -/
def put (p : Property) : Write := (Write.octets [p.id]).andThen p.putValue

def putAll : List Property → Write
  | [] => .octets []
  | p :: ps => p.put.andThen (putAll ps)

/-- Properties with their length. None is left in the buffer if one of them cannot be written. -/
def putBlock (ps : List Property) : Write := fun buffer =>
  match putAll ps [] with
  | (.ok (), block) => (Write.varInt block.length).andThen (.octets block) buffer
  | (.error e, _) => (.error e, buffer)

end Property
end ReloadProbe.Wire
