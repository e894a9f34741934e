import ArenaClient.Session.Requests

/-! How large the message of an accepted request can get, and when its frame
goes out whole. -/
namespace ArenaClient
open Protobuf Protocol

/-! ### Sizes -/

theorem varintSize_le_three {n : Nat} (bound : n < 2 ^ 21) : varintSize n ≤ 3 :=
  (varintSize_mono (Nat.le_pred_of_lt bound)).trans (by decide)

theorem varintSize_le_two {n : Nat} (bound : n < 2 ^ 14) : varintSize n ≤ 2 :=
  (varintSize_mono (Nat.le_pred_of_lt bound)).trans (by decide)

theorem three_le_varintSize {n : Nat} (bound : 2 ^ 14 ≤ n) : 3 ≤ varintSize n :=
  (by decide : 3 ≤ varintSize (2 ^ 14)).trans (varintSize_mono bound)

theorem varintSize_uint32 (n : UInt32) : varintSize n.toNat ≤ 5 :=
  (varintSize_mono (Nat.le_pred_of_lt n.toNat_lt)).trans (by decide)

/-- A short string field: at most two bytes of length. -/
theorem stringFieldSize_le (text : List UInt8) (bound : text.length < 2 ^ 14) :
    stringFieldSize text ≤ text.length + 3 := by
  have size := varintSize_le_two bound
  unfold stringFieldSize
  split <;> omega

/-- With `extra` bytes of other fields, a string field fits exactly when the
text leaves room for a tag and three bytes of length. -/
theorem stringFieldSize_fits_iff (text : List UInt8) (extra : Nat) (small : extra ≤ 7) :
    stringFieldSize text + extra ≤ maxDataSize ↔ text.length + extra ≤ 65527 := by
  unfold maxDataSize
  rcases Nat.lt_or_ge text.length (2 ^ 14) with short | long
  · have size := stringFieldSize_le text short
    omega
  · have nonempty : text.isEmpty = false := by
      cases text <;> simp at long ⊢
    have lower := three_le_varintSize long
    simp only [stringFieldSize, nonempty, Bool.false_eq_true, if_false]
    rcases Nat.lt_or_ge text.length (2 ^ 21) with medium | huge
    · have upper := varintSize_le_three medium
      omega
    · omega

theorem toUInt32_ne_zero {n : Int32} (positive : ¬ n ≤ 0) : n.toUInt32.toNat ≠ 0 := by
  intro zero
  have same : n.toUInt32 = 0 := UInt32.toNat_inj.mp zero
  have none : n = 0 := by rw [← Int32.toInt32_toUInt32 n, same]; rfl
  exact positive (none ▸ Int32.le_refl 0)

/-! ### The message of an accepted request -/

variable {engine : TextEngine} {gameInstance : US1GameInstance}

theorem registerPacket_fits
    (accepted : US1GameInstance.registerPacket engine loginId password nickname = some pkt) :
    byteSizeLong pkt ≤ maxDataSize := by
  simp only [US1GameInstance.registerPacket] at accepted
  split at accepted <;> try contradiction
  split at accepted <;> try contradiction
  split at accepted <;> try contradiction
  split at accepted <;> try contradiction
  obtain rfl := Option.some.inj accepted
  have login := engine.length_toUtf8 (engine.trimStartAndEnd loginId)
  have secret := engine.length_toUtf8 password
  have name := engine.length_toUtf8 (engine.trimStartAndEnd nickname)
  have first := stringFieldSize_le (engine.toUtf8 (engine.trimStartAndEnd loginId)) (by omega)
  have second := stringFieldSize_le (engine.toUtf8 password) (by omega)
  have third := stringFieldSize_le (engine.toUtf8 (engine.trimStartAndEnd nickname)) (by omega)
  simp only [byteSizeLong, maxDataSize]
  omega

theorem loginPacket_fits (accepted : US1GameInstance.loginPacket engine loginId password = .ok pkt) :
    byteSizeLong pkt ≤ maxDataSize := by
  simp only [US1GameInstance.loginPacket] at accepted
  split at accepted <;> try contradiction
  split at accepted <;> try contradiction
  split at accepted <;> try contradiction
  obtain rfl := Except.ok.inj accepted
  have login := engine.length_toUtf8 (engine.trimStartAndEnd loginId)
  have secret := engine.length_toUtf8 password
  have first := stringFieldSize_le (engine.toUtf8 (engine.trimStartAndEnd loginId)) (by omega)
  have second := stringFieldSize_le (engine.toUtf8 password) (by omega)
  simp only [byteSizeLong, maxDataSize]
  omega

theorem loginPacket_of_toOption
    (accepted : (US1GameInstance.loginPacket engine loginId password).toOption = some pkt) :
    US1GameInstance.loginPacket engine loginId password = .ok pkt := by
  cases result : US1GameInstance.loginPacket engine loginId password with
  | error text => simp [result, Except.toOption] at accepted
  | ok built => simpa [result, Except.toOption] using accepted

theorem createRoomPacket_fits_iff
    (accepted : US1GameInstance.createRoomPacket engine roomName maxPlayerCount = some pkt) :
    byteSizeLong pkt ≤ maxDataSize ↔ (TextRequest.createRoom roomName maxPlayerCount).Fits engine := by
  simp only [US1GameInstance.createRoomPacket] at accepted
  split at accepted <;> try contradiction
  rename_i checked
  obtain rfl := Option.some.inj accepted
  have positive := toUInt32_ne_zero (n := maxPlayerCount) (fun low => checked (.inr low))
  have digits := varintSize_uint32 maxPlayerCount.toUInt32
  have size := stringFieldSize_fits_iff (engine.toUtf8 (engine.trimStartAndEnd roomName))
    (varintSize maxPlayerCount.toUInt32.toNat + 1) (by omega)
  simp only [byteSizeLong, uintFieldSize, positive, if_false, TextRequest.Fits]
  omega

theorem chatPacket_fits_iff (accepted : US1GameInstance.chatPacket engine message = some pkt) :
    byteSizeLong pkt ≤ maxDataSize ↔ (TextRequest.chat message).Fits engine := by
  simp only [US1GameInstance.chatPacket] at accepted
  split at accepted <;> try contradiction
  obtain rfl := Option.some.inj accepted
  exact stringFieldSize_fits_iff (engine.toUtf8 (engine.trimStartAndEnd message)) 0 (by omega)

namespace TextRequest

theorem packet_fits_iff {request : TextRequest} (accepted : request.packet engine = some pkt) :
    byteSizeLong pkt ≤ maxDataSize ↔ request.Fits engine := by
  cases request with
  | register loginId password nickname =>
    obtain ⟨message, checked, rfl⟩ := Option.map_eq_some_iff.mp accepted
    exact iff_of_true (registerPacket_fits checked) trivial
  | login loginId password =>
    obtain ⟨message, checked, rfl⟩ := Option.map_eq_some_iff.mp accepted
    exact iff_of_true (loginPacket_fits (loginPacket_of_toOption checked)) trivial
  | createRoom roomName maxPlayerCount =>
    obtain ⟨message, checked, rfl⟩ := Option.map_eq_some_iff.mp accepted
    exact createRoomPacket_fits_iff checked
  | chat message =>
    obtain ⟨message, checked, rfl⟩ := Option.map_eq_some_iff.mp accepted
    exact chatPacket_fits_iff checked

/-- A connected request whose arguments pass the checks sends its message. -/
theorem perform_accepted (connected : gameInstance.Connected) {request : TextRequest}
    (accepted : request.packet engine = some pkt) :
    request.perform engine gameInstance =
      (makeSendBuffer pkt pkt.id).map fun sendBuffer => (true, gameInstance.sendPacket sendBuffer) := by
  cases request with
  | register loginId password nickname =>
    obtain ⟨message, checked, rfl⟩ := Option.map_eq_some_iff.mp accepted
    rw [perform, US1GameInstance.requestRegister, checked]
    exact US1GameInstance.request_some connected _ message
  | login loginId password =>
    obtain ⟨message, checked, rfl⟩ := Option.map_eq_some_iff.mp accepted
    rw [perform, US1GameInstance.requestLogin, if_pos connected, loginPacket_of_toOption checked]
    exact US1GameInstance.send_eq gameInstance message _
  | createRoom roomName maxPlayerCount =>
    obtain ⟨message, checked, rfl⟩ := Option.map_eq_some_iff.mp accepted
    rw [perform, US1GameInstance.requestCreateRoom, checked]
    exact US1GameInstance.request_some connected _ message
  | chat message =>
    obtain ⟨message, checked, rfl⟩ := Option.map_eq_some_iff.mp accepted
    rw [perform, US1GameInstance.requestChat, checked]
    exact US1GameInstance.request_some connected _ message

/-- The request enqueues a buffer that is the whole frame of its message. -/
def SendsWhole (engine : TextEngine) (gameInstance : US1GameInstance) (request : TextRequest)
    (pkt : TextMessage) : Prop :=
  ∃ sendBuffer, request.perform engine gameInstance = some (true, gameInstance.sendPacket sendBuffer) ∧
    makeSendBuffer pkt pkt.id = some sendBuffer ∧ sendBuffer.Whole pkt pkt.id

theorem sendsWhole_iff_fits (connected : gameInstance.Connected) {request : TextRequest}
    (accepted : request.packet engine = some pkt) :
    request.SendsWhole engine gameInstance pkt ↔ byteSizeLong pkt ≤ maxDataSize := by
  rw [← makeSendBuffer_whole_iff pkt pkt.id]
  constructor
  · rintro ⟨sendBuffer, _, built, whole⟩
    exact ⟨sendBuffer, built, whole⟩
  · rintro ⟨sendBuffer, built, whole⟩
    refine ⟨sendBuffer, ?_, built, whole⟩
    rw [perform_accepted connected accepted, built, Option.map_some]

/-- An accepted request goes out whole exactly when its text fits a frame;
registration and login always do. -/
theorem sendsWhole_iff (connected : gameInstance.Connected) (request : TextRequest)
    (accepted : request.packet engine = some pkt) :
    request.SendsWhole engine gameInstance pkt ↔ request.Fits engine :=
  (sendsWhole_iff_fits connected accepted).trans (packet_fits_iff accepted)

/-- The engine functions on ASCII text. -/
def asciiEngine : TextEngine where
  isWhitespace ch := ch == 0x20 || (0x09 ≤ ch && ch ≤ 0x0D)
  isAlnum ch := isAsciiLetter ch || isDigit ch
  toUtf8 text := text.map UInt16.toUInt8
  length_toUtf8 text := by
    rw [List.length_map]
    omega

theorem sendsWhole_short_chat : (chat [0x20, 0x68, 0x69]).SendsWhole asciiEngine
    { socket := some 0, gameServerSession := some { socket := 0 } } (.chat ⟨[0x68, 0x69]⟩) :=
  (sendsWhole_iff (by decide) _ (by decide)).mpr (by decide)

theorem trimStartAndEnd_letters (n : Nat) :
    asciiEngine.trimStartAndEnd (List.replicate n 0x61) = List.replicate n 0x61 := by
  have letter : asciiEngine.isWhitespace 0x61 = false := by decide
  simp [TextEngine.trimStartAndEnd, letter]

theorem stringFieldSize_letters (n : Nat) (some : 0 < n) :
    stringFieldSize (asciiEngine.toUtf8 (List.replicate n 0x61)) = 1 + (n + varintSize n) := by
  simp [asciiEngine, stringFieldSize, Nat.ne_of_gt some]

theorem chat_letters (n : Nat) (some : 0 < n) :
    (chat (List.replicate n 0x61)).packet asciiEngine =
        .some (.chat ⟨asciiEngine.toUtf8 (List.replicate n 0x61)⟩) ∧
      ((chat (List.replicate n 0x61)).Fits asciiEngine ↔ n ≤ 65527) := by
  have trimmed := trimStartAndEnd_letters n
  constructor
  · simp [packet, US1GameInstance.chatPacket, trimmed, Nat.ne_of_gt some]
  · rw [Fits, trimmed]
    simp [asciiEngine]

/-- A chat text of 65532 letters passes its check, and the size of its message
wraps to zero. -/
theorem long_chat_truncated : ∃ pkt,
    (chat (List.replicate 65532 0x61)).packet asciiEngine = some pkt ∧
    ¬ (chat (List.replicate 65532 0x61)).SendsWhole asciiEngine
      { socket := some 0, gameServerSession := some { socket := 0 } } pkt := by
  obtain ⟨accepted, fits⟩ := chat_letters 65532 (by decide)
  refine ⟨_, accepted, fun whole => ?_⟩
  have short := (packet_fits_iff accepted).mp ((sendsWhole_iff_fits (by decide) accepted).mp whole)
  exact absurd (fits.mp short) (by decide)

end TextRequest
end ArenaClient
