import ReloadProbe.Wire.Frame
import ReloadProbe.Wire.Property
import ReloadProbe.Wire.Version

/-! CONNECT, without a will, a user name or a password. -/
namespace ReloadProbe.Wire

structure Connect where
  clientId : String
  version : Version
  keepAlive : UInt16 := 60
  cleanStart : Bool := true
  /-- Left out of the packet before version 5. -/
  properties : List Property := []

namespace Connect

def body (c : Connect) : Except WireError Bytes := do
  let name ← textField c.version.protocolName
  let flags : UInt8 := if c.cleanStart then 0x02 else 0
  let block ← if c.version.hasProperties then Property.encodeBlock c.properties else pure []
  let clientId ← textField c.clientId
  return name ++ [c.version.level, flags] ++ Bytes.ofUInt16 c.keepAlive ++ block ++ clientId

def encode (c : Connect) : Except WireError Bytes := do
  Frame.wrap 0x10 (← c.body)

end Connect
end ReloadProbe.Wire
