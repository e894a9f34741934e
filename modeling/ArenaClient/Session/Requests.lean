import ArenaClient.Network.Messages
import ArenaClient.Session.GameInstance

/-! The requests that carry text, from their argument checks to the send buffer.
A character may take up to three bytes on the wire, so whether a frame is whole
depends on the bound that the checks put on the text. -/
namespace ArenaClient
open Protobuf Protocol

/-- The engine's text functions. UTF-8 takes at most three bytes for a UTF-16
code unit, whatever stands for a lone surrogate. -/
structure TextEngine where
  isWhitespace : UInt16 → Bool
  isAlnum : UInt16 → Bool
  toUtf8 : FString → List UInt8
  length_toUtf8 : ∀ text, (toUtf8 text).length ≤ 3 * text.length

variable (engine : TextEngine)

/-- `FString::TrimStartAndEnd`. -/
def TextEngine.trimStartAndEnd (text : FString) : FString :=
  ((text.dropWhile engine.isWhitespace).reverse.dropWhile engine.isWhitespace).reverse

def isAsciiLetter (ch : UInt16) : Bool := (0x61 ≤ ch && ch ≤ 0x7A) || (0x41 ≤ ch && ch ≤ 0x5A)

def isDigit (ch : UInt16) : Bool := 0x30 ≤ ch && ch ≤ 0x39

namespace US1GameInstance

/-! ### Checks -/

/-- The checks of `RequestRegister` and the packet they let through. -/
def registerPacket (loginId password nickname : FString) : Option CRegister :=
  let trimmedLoginId := engine.trimStartAndEnd loginId
  let trimmedNickname := engine.trimStartAndEnd nickname
  if trimmedLoginId.length < 4 ∨ 64 < trimmedLoginId.length then none
  else if trimmedNickname.length < 2 ∨ 16 < trimmedNickname.length then none
  else if password.length < 8 ∨ 128 < password.length then none
  else if trimmedLoginId.any fun ch => !isAsciiLetter ch && !isDigit ch then none
  else some
    { loginId := engine.toUtf8 trimmedLoginId
      password := engine.toUtf8 password
      nickname := engine.toUtf8 trimmedNickname }

/-- The checks of `RequestLogin`, each with the text it broadcasts. -/
def loginPacket (loginId password : FString) : Except String CLogin :=
  let trimmedLoginId := engine.trimStartAndEnd loginId
  if trimmedLoginId.length < 4 ∨ 64 < trimmedLoginId.length then
    .error "아이디는 4자 이상 64자 이하로 입력해주세요."
  else if password.length < 8 ∨ 128 < password.length then
    .error "비밀번호는 8자 이상 128자 이하로 입력해주세요."
  else if trimmedLoginId.any fun ch => !engine.isAlnum ch then
    .error "아이디는 영문자와 숫자만 사용할 수 있습니다."
  else .ok { loginId := engine.toUtf8 trimmedLoginId, password := engine.toUtf8 password }

/-- The checks of `RequestCreateRoom`: no upper bound on the name. -/
def createRoomPacket (roomName : FString) (maxPlayerCount : Int32) : Option CCreateRoom :=
  let trimmedName := engine.trimStartAndEnd roomName
  if trimmedName.isEmpty ∨ maxPlayerCount ≤ 0 then none
  else some { roomName := engine.toUtf8 trimmedName, maxPlayerCount := maxPlayerCount.toUInt32 }

/-- The check of `RequestChat`: no upper bound on the message. -/
def chatPacket (message : FString) : Option CChat :=
  let trimmedMessage := engine.trimStartAndEnd message
  if trimmedMessage.isEmpty then none else some { msg := engine.toUtf8 trimmedMessage }

/-! ### Requests -/

variable (gameInstance : US1GameInstance)

def requestRegister (loginId password nickname : FString) : Option (Bool × US1GameInstance) :=
  gameInstance.request ClientPacket.register.id (registerPacket engine loginId password nickname)

/-- Unlike the others, `RequestLogin` says what is wrong. -/
def requestLogin (loginId password : FString) : Option (Bool × US1GameInstance) :=
  if gameInstance.Connected then
    match loginPacket engine loginId password with
    | .error message =>
      some (false, { gameInstance with onLoginFailed := gameInstance.onLoginFailed ++ [message] })
    | .ok pkt => (gameInstance.send pkt ClientPacket.login.id).map (true, ·)
  else some (false, gameInstance)

def requestCreateRoom (roomName : FString) (maxPlayerCount : Int32) : Option (Bool × US1GameInstance) :=
  gameInstance.request ClientPacket.createRoom.id (createRoomPacket engine roomName maxPlayerCount)

def requestChat (message : FString) : Option (Bool × US1GameInstance) :=
  gameInstance.request ClientPacket.chat.id (chatPacket engine message)

end US1GameInstance

/-! ### The requests together -/

inductive TextRequest where
  | register (loginId password nickname : FString)
  | login (loginId password : FString)
  | createRoom (roomName : FString) (maxPlayerCount : Int32)
  | chat (message : FString)
  deriving DecidableEq, Repr

inductive TextMessage where
  | register (pkt : CRegister)
  | login (pkt : CLogin)
  | createRoom (pkt : CCreateRoom)
  | chat (pkt : CChat)
  deriving DecidableEq, Repr

def TextMessage.id : TextMessage → UInt16
  | .register _ => ClientPacket.register.id
  | .login _ => ClientPacket.login.id
  | .createRoom _ => ClientPacket.createRoom.id
  | .chat _ => ClientPacket.chat.id

instance : ProtoMessage TextMessage where
  byteSizeLong
    | .register pkt => byteSizeLong pkt
    | .login pkt => byteSizeLong pkt
    | .createRoom pkt => byteSizeLong pkt
    | .chat pkt => byteSizeLong pkt
  serialize
    | .register pkt => serialize pkt
    | .login pkt => serialize pkt
    | .createRoom pkt => serialize pkt
    | .chat pkt => serialize pkt
  length_serialize pkt := by cases pkt <;> exact length_serialize _

namespace TextRequest

def perform (gameInstance : US1GameInstance) : TextRequest → Option (Bool × US1GameInstance)
  | .register loginId password nickname => gameInstance.requestRegister engine loginId password nickname
  | .login loginId password => gameInstance.requestLogin engine loginId password
  | .createRoom roomName maxPlayerCount => gameInstance.requestCreateRoom engine roomName maxPlayerCount
  | .chat message => gameInstance.requestChat engine message

/-- The message a request builds when its arguments pass the checks. -/
def packet : TextRequest → Option TextMessage
  | .register loginId password nickname =>
    (US1GameInstance.registerPacket engine loginId password nickname).map .register
  | .login loginId password => (US1GameInstance.loginPacket engine loginId password).toOption.map .login
  | .createRoom roomName maxPlayerCount =>
    (US1GameInstance.createRoomPacket engine roomName maxPlayerCount).map .createRoom
  | .chat message => (US1GameInstance.chatPacket engine message).map .chat

/-- What the checks of the two unbounded requests leave out: room for the text
in a frame, next to its tag, its length and the other field. -/
def Fits : TextRequest → Prop
  | .register _ _ _ => True
  | .login _ _ => True
  | .createRoom roomName maxPlayerCount =>
    (engine.toUtf8 (engine.trimStartAndEnd roomName)).length +
      varintSize maxPlayerCount.toUInt32.toNat ≤ 65526
  | .chat message => (engine.toUtf8 (engine.trimStartAndEnd message)).length ≤ 65527

instance : (request : TextRequest) → Decidable (request.Fits engine)
  | .register _ _ _ => .isTrue trivial
  | .login _ _ => .isTrue trivial
  | .createRoom _ _ => inferInstanceAs (Decidable (_ ≤ _))
  | .chat _ => inferInstanceAs (Decidable (_ ≤ _))

end TextRequest
end ArenaClient
