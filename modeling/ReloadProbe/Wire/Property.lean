import ReloadProbe.Wire.Read

/-!
Properties of version 5: an identifier and a value whose form it fixes. A block is the length of all
its properties and then the properties, in the order in which they were given; none is sorted or
dropped.
-/
namespace ReloadProbe.Wire

def binaryField (bs : Bytes) : Except WireError Bytes :=
  if bs.length ≤ 65535 then .ok (Bytes.ofUInt16 (UInt16.ofNat bs.length) ++ bs)
  else .error (.stringTooLong bs.length)

def textField (s : String) : Except WireError Bytes := binaryField (Utf8.encode s)

inductive Property where
  | payloadFormatIndicator (value : UInt8)
  | messageExpiryInterval (seconds : UInt32)
  | contentType (name : String)
  | sessionExpiryInterval (seconds : UInt32)
  | assignedClientIdentifier (id : String)
  | serverKeepAlive (seconds : UInt16)
  | reasonString (reason : String)
  | receiveMaximum (count : UInt16)
  | topicAliasMaximum (count : UInt16)
  | topicAlias (number : UInt16)
  | maximumQoS (level : UInt8)
  | retainAvailable (available : Bool)
  | userProperty (key value : String)
  | maximumPacketSize (size : UInt32)
  deriving DecidableEq

namespace Property

def id : Property → UInt8
  | payloadFormatIndicator _ => 0x01
  | messageExpiryInterval _ => 0x02
  | contentType _ => 0x03
  | sessionExpiryInterval _ => 0x11
  | assignedClientIdentifier _ => 0x12
  | serverKeepAlive _ => 0x13
  | reasonString _ => 0x1F
  | receiveMaximum _ => 0x21
  | topicAliasMaximum _ => 0x22
  | topicAlias _ => 0x23
  | maximumQoS _ => 0x24
  | retainAvailable _ => 0x25
  | userProperty _ _ => 0x26
  | maximumPacketSize _ => 0x27

def name : Property → String
  | payloadFormatIndicator _ => "PayloadFormatIndicator"
  | messageExpiryInterval _ => "MessageExpiryInterval"
  | contentType _ => "ContentType"
  | sessionExpiryInterval _ => "SessionExpiryInterval"
  | assignedClientIdentifier _ => "AssignedClientIdentifier"
  | serverKeepAlive _ => "ServerKeepAlive"
  | reasonString _ => "ReasonString"
  | receiveMaximum _ => "ReceiveMaximum"
  | topicAliasMaximum _ => "TopicAliasMaximum"
  | topicAlias _ => "TopicAlias"
  | maximumQoS _ => "MaximumQoS"
  | retainAvailable _ => "RetainAvailable"
  | userProperty _ _ => "UserProperty"
  | maximumPacketSize _ => "MaximumPacketSize"

def encodeValue : Property → Except WireError Bytes
  | payloadFormatIndicator v | maximumQoS v => .ok [v]
  | retainAvailable v => .ok [if v then 1 else 0]
  | serverKeepAlive v | receiveMaximum v | topicAliasMaximum v | topicAlias v =>
    .ok (Bytes.ofUInt16 v)
  | messageExpiryInterval v | sessionExpiryInterval v | maximumPacketSize v =>
    .ok (Bytes.ofUInt32 v)
  | contentType s | assignedClientIdentifier s | reasonString s => textField s
  | userProperty key value => do return (← textField key) ++ (← textField value)

def encode (p : Property) : Except WireError Bytes := do
  return p.id :: (← p.encodeValue)

def encodeBlock (ps : List Property) : Except WireError Bytes := do
  let block := (← ps.mapM encode).flatten
  return (← VarInt.encode block.length) ++ block

/-- The value that follows an identifier. Any octet but zero makes `retainAvailable` true. -/
def readValue (id : UInt8) : Read Property :=
  match id.toNat with
  | 0x01 => payloadFormatIndicator <$> Read.octet
  | 0x02 => messageExpiryInterval <$> Read.uint32
  | 0x03 => contentType <$> Read.text
  | 0x11 => sessionExpiryInterval <$> Read.uint32
  | 0x12 => assignedClientIdentifier <$> Read.text
  | 0x13 => serverKeepAlive <$> Read.uint16
  | 0x1F => reasonString <$> Read.text
  | 0x21 => receiveMaximum <$> Read.uint16
  | 0x22 => topicAliasMaximum <$> Read.uint16
  | 0x23 => topicAlias <$> Read.uint16
  | 0x24 => maximumQoS <$> Read.octet
  | 0x25 => (fun v => retainAvailable (v != 0)) <$> Read.octet
  | 0x26 => do
    let key ← Read.text
    let value ← Read.text
    return userProperty key value
  | 0x27 => maximumPacketSize <$> Read.uint32
  | _ => Read.fail (.unknownProperty id)

theorem advances_readValue (id : UInt8) : Read.Advances (readValue id) := by
  unfold readValue
  split
  case h_13 =>
    exact Read.advances_text.bind fun _ => Read.advances_text.bind fun _ => Read.advances_pure _
  case h_15 => exact Read.advances_fail _
  all_goals
    simp only [Read.Advances.map, Read.advances_octet, Read.advances_uint16,
      Read.advances_uint32, Read.advances_text]

/-- The properties that fill `block` exactly. -/
def decodeAll : (block : Bytes) → Except WireError (List Property)
  | [] => .ok []
  | id :: rest =>
    match _h : readValue id rest with
    | (.ok p, left) =>
      match decodeAll left with
      | .ok ps => .ok (p :: ps)
      | .error e => .error e
    | (.error e, _) => .error e
termination_by block => block.length
decreasing_by
  have := (advances_readValue id rest).length_le
  simp_all only [List.length_cons]; omega

/-- A block with its length. A fault inside the block is found after all of it was consumed. -/
def readBlock : Read (List Property) := do
  let block ← Read.take (← Read.varInt)
  match decodeAll block with
  | .ok ps => return ps
  | .error e => Read.fail e

end Property
end ReloadProbe.Wire
