import KanchoNet.Lib.CStrings

/-!
The packets of the chat example, laid out as the structs are in memory: a header of four
bytes, then the fields. A reader follows a pointer to where the field would be.
-/
namespace KanchoNet.ChatProtocol
open CStrings

inductive PacketType where
  | login
  | loginResponse
  | message
  | messageBroadcast
  | logout
  deriving DecidableEq

def PacketType.value : PacketType → UInt16
  | .login => 1
  | .loginResponse => 2
  | .message => 3
  | .messageBroadcast => 4
  | .logout => 5

def PacketType.ofValue (value : UInt16) : Option PacketType :=
  if value = 1 then some .login
  else if value = 2 then some .loginResponse
  else if value = 3 then some .message
  else if value = 4 then some .messageBroadcast
  else if value = 5 then some .logout
  else none

theorem ofValue_value (type : PacketType) : PacketType.ofValue type.value = some type := by
  cases type <;> rfl

/-- The type may be a number that no PacketType has. -/
structure PacketHeader where
  size : UInt16
  type : UInt16

namespace PacketHeader

def bytes (h : PacketHeader) : List UInt8 := uint16Bytes h.size ++ uint16Bytes h.type

theorem bytes_length (h : PacketHeader) : h.bytes.length = 4 := rfl

def read (memory : List UInt8) : Option PacketHeader :=
  (readUInt16 memory).bind fun size => (readUInt16 (memory.drop 2)).map fun type => ⟨size, type⟩

theorem read_bytes (h : PacketHeader) (rest : List UInt8) : read (h.bytes ++ rest) = some h := by
  unfold read
  rw [bytes, List.append_assoc, readUInt16_bytes]
  change (readUInt16 (uint16Bytes h.type ++ rest)).map _ = some h
  rw [readUInt16_bytes]
  rfl

theorem read_isSome {memory : List UInt8} (enough : 4 ≤ memory.length) :
    ∃ header, read memory = some header := by
  match memory, enough with
  | _ :: _ :: _ :: _ :: _, _ => exact ⟨_, rfl⟩

end PacketHeader

structure LoginPacket where
  header : PacketHeader
  username : CharArray 32

def LoginPacket.bytes (p : LoginPacket) : List UInt8 := p.header.bytes ++ p.username.bytes

structure LoginResponsePacket where
  header : PacketHeader
  success : Bool
  message : CharArray 64

/-- The struct ends with a byte of padding, which nothing sets. -/
def LoginResponsePacket.bytes (p : LoginResponsePacket) (padding : UInt8) : List UInt8 :=
  p.header.bytes ++ (if p.success then 1 else 0) :: p.message.bytes ++ [padding]

structure MessagePacket where
  header : PacketHeader
  message : CharArray 256

def MessagePacket.bytes (p : MessagePacket) : List UInt8 := p.header.bytes ++ p.message.bytes

structure MessageBroadcastPacket where
  header : PacketHeader
  username : CharArray 32
  message : CharArray 256

def MessageBroadcastPacket.bytes (p : MessageBroadcastPacket) : List UInt8 :=
  p.header.bytes ++ p.username.bytes ++ p.message.bytes

structure LogoutPacket where
  header : PacketHeader

def LogoutPacket.bytes (p : LogoutPacket) : List UInt8 := p.header.bytes

def sizeofLoginResponse : UInt16 := 70
def sizeofMessageBroadcast : UInt16 := 292

inductive Heard where
  | loginResponse (success : Bool) (message : List UInt8)
  | message (username message : List UInt8)
  deriving DecidableEq

/-- A client reads a packet of the server the way the server reads one of a client. -/
def decode (memory : List UInt8) : Option Heard :=
  (PacketHeader.read memory).bind fun header =>
    match PacketType.ofValue header.type with
    | some .loginResponse => (memory[4]?).bind fun success =>
      (readString (memory.drop 5)).map fun message => .loginResponse (success ≠ 0) message
    | some .messageBroadcast => (readString (memory.drop 4)).bind fun username =>
      (readString (memory.drop 36)).map fun message => .message username message
    | _ => none

theorem decode_loginResponse {p : LoginResponsePacket} {text : List UInt8}
    (type : p.header.type = PacketType.loginResponse.value) (read : p.message.text = some text)
    (padding : UInt8) : decode (p.bytes padding) = some (.loginResponse p.success text) := by
  have string : readString (p.message.bytes ++ [padding]) = some text := readString_append read _
  unfold decode LoginResponsePacket.bytes
  rw [List.append_assoc, PacketHeader.read_bytes, Option.bind_some, type, ofValue_value]
  change (some _).bind (fun success => (readString (p.message.bytes ++ [padding])).map _) = _
  rw [string]
  cases p.success <;> rfl

theorem decode_messageBroadcast {p : MessageBroadcastPacket} {name text : List UInt8}
    (type : p.header.type = PacketType.messageBroadcast.value)
    (named : p.username.text = some name) (read : p.message.text = some text) :
    decode p.bytes = some (.message name text) := by
  have username : (p.bytes.drop 4) = p.username.bytes ++ p.message.bytes := by
    rw [MessageBroadcastPacket.bytes, List.append_assoc]
    rfl
  have message : p.bytes.drop 36 = p.message.bytes := by
    have later : p.bytes.drop 36 = (p.bytes.drop 4).drop 32 := by rw [List.drop_drop]
    rw [later, username, List.drop_left' p.username.full]
  unfold decode
  rw [username, message, readString_append named]
  rw [MessageBroadcastPacket.bytes, List.append_assoc, PacketHeader.read_bytes, Option.bind_some,
    type, ofValue_value]
  change (readString p.message.bytes).map _ = _
  rw [show readString p.message.bytes = some text from read]
  rfl

end KanchoNet.ChatProtocol
