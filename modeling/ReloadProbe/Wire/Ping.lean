import ReloadProbe.Bytes

/-! The two packets that ask whether the other side is alive and answer that it is. -/
namespace ReloadProbe.Wire

def pingReq : Bytes := [0xC0, 0x00]

def pingResp : Bytes := [0xD0, 0x00]

end ReloadProbe.Wire
