import ArenaClient.Session.RequestsProofs

/-! The two checks of a login id. Registration compares with the ASCII ranges,
login asks the engine, whose alphabet is larger. -/
namespace ArenaClient
open Protocol

variable {engine : TextEngine} {gameInstance : US1GameInstance} {loginId password nickname : FString}

/-- The request returns true and has queued the frame of `pkt`. -/
def TextRequest.Sends (engine : TextEngine) (gameInstance : US1GameInstance) (request : TextRequest)
    (pkt : TextMessage) : Prop :=
  request.packet engine = some pkt ∧ ∃ sendBuffer, makeSendBuffer pkt pkt.id = some sendBuffer ∧
    request.perform engine gameInstance = some (true, gameInstance.sendPacket sendBuffer)

/-- One can register with an id and a password exactly when one can log in with
them, and both packets carry the same bytes. -/
structure CredentialsAgree (engine : TextEngine) (gameInstance : US1GameInstance)
    (loginId password nickname : FString) : Prop where
  together :
    (∃ pkt, (TextRequest.register loginId password nickname).Sends engine gameInstance (.register pkt)) ↔
      ∃ pkt, (TextRequest.login loginId password).Sends engine gameInstance (.login pkt)
  identical : ∀ registered entered,
    (TextRequest.register loginId password nickname).Sends engine gameInstance (.register registered) →
    (TextRequest.login loginId password).Sends engine gameInstance (.login entered) →
    registered.loginId = entered.loginId ∧ registered.password = entered.password

/-- The lengths that both requests ask for. -/
def CredentialLengths (engine : TextEngine) (loginId password : FString) : Prop :=
  (4 ≤ (engine.trimStartAndEnd loginId).length ∧ (engine.trimStartAndEnd loginId).length ≤ 64) ∧
    8 ≤ password.length ∧ password.length ≤ 128

def NicknameLength (engine : TextEngine) (nickname : FString) : Prop :=
  2 ≤ (engine.trimStartAndEnd nickname).length ∧ (engine.trimStartAndEnd nickname).length ≤ 16

instance : Decidable (CredentialLengths engine loginId password) := inferInstanceAs (Decidable (_ ∧ _))

instance : Decidable (NicknameLength engine nickname) := inferInstanceAs (Decidable (_ ∧ _))

def isAscii (ch : UInt16) : Bool := isAsciiLetter ch || isDigit ch

/-- An id that the engine finds alphanumeric for a letter outside ASCII. -/
structure ForeignId (engine : TextEngine) (loginId password : FString) : Prop where
  lengths : CredentialLengths engine loginId password
  alnum : ∀ ch ∈ engine.trimStartAndEnd loginId, engine.isAlnum ch = true
  foreign : ∃ ch ∈ engine.trimStartAndEnd loginId, isAscii ch = false

namespace US1GameInstance

theorem any_not_iff (chars : FString) (test : UInt16 → Bool) :
    (chars.any fun ch => !test ch) = true ↔ ¬ chars.all test = true := by
  simp

theorem registerPacket_eq (named : NicknameLength engine nickname) (loginId password : FString) :
    registerPacket engine loginId password nickname =
      if CredentialLengths engine loginId password ∧ (engine.trimStartAndEnd loginId).all isAscii = true then
        some
          { loginId := engine.toUtf8 (engine.trimStartAndEnd loginId)
            password := engine.toUtf8 password
            nickname := engine.toUtf8 (engine.trimStartAndEnd nickname) }
      else none := by
  have ranges : ∀ ch, (!isAsciiLetter ch && !isDigit ch) = !isAscii ch := fun ch => (Bool.not_or _ _).symm
  have nameFits : ¬ ((engine.trimStartAndEnd nickname).length < 2 ∨
      16 < (engine.trimStartAndEnd nickname).length) := by
    rw [NicknameLength] at named
    omega
  simp only [registerPacket, nameFits, if_false, ranges, any_not_iff]
  unfold CredentialLengths
  by_cases idFits : (engine.trimStartAndEnd loginId).length < 4 ∨ 64 < (engine.trimStartAndEnd loginId).length
  · rw [if_pos idFits, if_neg (by omega)]
  · by_cases secretFits : password.length < 8 ∨ 128 < password.length
    · rw [if_neg idFits, if_pos secretFits, if_neg (by omega)]
    · rw [if_neg idFits, if_neg secretFits, ite_not]
      refine if_congr ?_ rfl rfl
      exact (and_iff_right (by omega)).symm

theorem loginPacket_eq (engine : TextEngine) (loginId password : FString) :
    (loginPacket engine loginId password).toOption =
      if CredentialLengths engine loginId password ∧
          (engine.trimStartAndEnd loginId).all engine.isAlnum = true then
        some
          { loginId := engine.toUtf8 (engine.trimStartAndEnd loginId)
            password := engine.toUtf8 password }
      else none := by
  simp only [loginPacket, any_not_iff]
  unfold CredentialLengths
  by_cases idFits : (engine.trimStartAndEnd loginId).length < 4 ∨ 64 < (engine.trimStartAndEnd loginId).length
  · rw [if_pos idFits, if_neg (by omega)]
    rfl
  · by_cases secretFits : password.length < 8 ∨ 128 < password.length
    · rw [if_neg idFits, if_pos secretFits, if_neg (by omega)]
      rfl
    · rw [if_neg idFits, if_neg secretFits, ite_not, apply_ite Except.toOption]
      refine if_congr ?_ rfl rfl
      exact (and_iff_right (by omega)).symm

end US1GameInstance

theorem TextRequest.sends_of_packet (connected : gameInstance.Connected) {request : TextRequest}
    (accepted : request.packet engine = some pkt) (fits : byteSizeLong pkt ≤ maxDataSize) :
    request.Sends engine gameInstance pkt := by
  refine ⟨accepted, _, makeSendBuffer_fits pkt pkt.id fits, ?_⟩
  rw [perform_accepted connected accepted, makeSendBuffer_fits pkt pkt.id fits, Option.map_some]

theorem registers_iff (connected : gameInstance.Connected) (named : NicknameLength engine nickname)
    (loginId password : FString) :
    (∃ pkt, (TextRequest.register loginId password nickname).Sends engine gameInstance (.register pkt)) ↔
      CredentialLengths engine loginId password ∧
        ∀ ch ∈ engine.trimStartAndEnd loginId, isAscii ch = true := by
  have checks := US1GameInstance.registerPacket_eq named loginId password
  rw [← List.all_eq_true]
  constructor
  · rintro ⟨pkt, accepted, _⟩
    obtain ⟨message, checked, _⟩ := Option.map_eq_some_iff.mp accepted
    rw [checks] at checked
    exact (Option.ite_none_right_eq_some.mp checked).1
  · intro valid
    rw [if_pos valid] at checks
    exact ⟨_, TextRequest.sends_of_packet connected (congrArg (Option.map TextMessage.register) checks)
      (registerPacket_fits checks)⟩

theorem enters_iff (connected : gameInstance.Connected) (engine : TextEngine) (loginId password : FString) :
    (∃ pkt, (TextRequest.login loginId password).Sends engine gameInstance (.login pkt)) ↔
      CredentialLengths engine loginId password ∧
        ∀ ch ∈ engine.trimStartAndEnd loginId, engine.isAlnum ch = true := by
  have checks := US1GameInstance.loginPacket_eq engine loginId password
  rw [← List.all_eq_true]
  constructor
  · rintro ⟨pkt, accepted, _⟩
    obtain ⟨message, checked, _⟩ := Option.map_eq_some_iff.mp accepted
    rw [checks] at checked
    exact (Option.ite_none_right_eq_some.mp checked).1
  · intro valid
    rw [if_pos valid] at checks
    exact ⟨_, TextRequest.sends_of_packet connected (congrArg (Option.map TextMessage.login) checks)
      (loginPacket_fits (loginPacket_of_toOption checks))⟩

theorem identical_credentials (named : NicknameLength engine nickname) {registered : CRegister} {entered : CLogin}
    (registers : (TextRequest.register loginId password nickname).packet engine = some (.register registered))
    (enters : (TextRequest.login loginId password).packet engine = some (.login entered)) :
    registered.loginId = entered.loginId ∧ registered.password = entered.password := by
  obtain ⟨first, checked, ⟨⟩⟩ := Option.map_eq_some_iff.mp registers
  obtain ⟨second, checked', ⟨⟩⟩ := Option.map_eq_some_iff.mp enters
  rw [US1GameInstance.registerPacket_eq named] at checked
  rw [US1GameInstance.loginPacket_eq] at checked'
  obtain ⟨_, built⟩ := Option.ite_none_right_eq_some.mp checked
  obtain ⟨_, built'⟩ := Option.ite_none_right_eq_some.mp checked'
  rw [← Option.some.inj built, ← Option.some.inj built']
  exact ⟨rfl, rfl⟩

/-- The two requests agree on every id but those with a letter that only the
engine knows. -/
theorem credentials_agree_iff (connected : gameInstance.Connected) (named : NicknameLength engine nickname)
    (ascii : ∀ ch, isAscii ch = true → engine.isAlnum ch = true) (loginId password : FString) :
    CredentialsAgree engine gameInstance loginId password nickname ↔
      ¬ ForeignId engine loginId password := by
  have registers := registers_iff connected named loginId password
  have enters := enters_iff connected engine loginId password
  constructor
  · rintro ⟨together, _⟩ ⟨lengths, alnum, ch, member, foreign⟩
    have accepted := registers.mp (together.mpr (enters.mpr ⟨lengths, alnum⟩))
    rw [accepted.2 ch member] at foreign
    contradiction
  · intro native
    refine ⟨?_, fun registered entered first second => identical_credentials named first.1 second.1⟩
    rw [registers, enters]
    refine and_congr_right fun lengths => ⟨fun letters ch member => ascii ch (letters ch member), ?_⟩
    intro alnum ch member
    refine Classical.byContradiction fun foreign => native ⟨lengths, alnum, ch, member, ?_⟩
    exact Bool.not_eq_true _ ▸ foreign

/-- UTF-8 of a UTF-16 code unit that is not a surrogate. -/
def utf8 (ch : UInt16) : List UInt8 :=
  let last := 0x80 + (ch % 64).toUInt8
  if ch < 0x80 then [ch.toUInt8]
  else if ch < 0x800 then [0xC0 + (ch / 64).toUInt8, last]
  else [0xE0 + (ch / 4096).toUInt8, 0x80 + (ch / 64 % 64).toUInt8, last]

/-- The engine functions on Latin text: the letters from U+00C0 on are alphanumeric. -/
def latinEngine : TextEngine where
  isWhitespace ch := ch == 0x20 || (0x09 ≤ ch && ch ≤ 0x0D)
  isAlnum ch := isAscii ch || (0xC0 ≤ ch && ch ≤ 0xFF && ch != 0xD7 && ch != 0xF7)
  toUtf8 text := text.flatMap utf8
  length_toUtf8 text := by
    have unit : ∀ ch, (utf8 ch).length ≤ 3 := by
      intro ch
      unfold utf8
      dsimp only
      split
      · simp
      · split <;> simp
    induction text with
    | nil => simp
    | cons ch text ih =>
      have size := unit ch
      rw [List.flatMap_cons, List.length_append, List.length_cons]
      omega

theorem latinEngine_ascii (ch : UInt16) (ascii : isAscii ch = true) : latinEngine.isAlnum ch = true := by
  simp [latinEngine, ascii]

/-- "jose": letters on both paths. -/
theorem ascii_id_agrees : CredentialsAgree latinEngine
    { socket := some 0, gameServerSession := some { socket := 0 } } (textLiteral "jose") (textLiteral "password")
    (textLiteral "Jo") := by
  apply (credentials_agree_iff (by decide) (by decide) latinEngine_ascii _ _).mpr
  rintro ⟨_, _, ch, member, foreign⟩
  have letters : (latinEngine.trimStartAndEnd (textLiteral "jose")).all isAscii = true := by decide
  exact Bool.false_ne_true (foreign.symm.trans (List.all_eq_true.mp letters ch member))

/-- "josé" can log in and cannot register. -/
theorem latin_id_disagrees : ¬ ∀ (engine : TextEngine) (gameInstance : US1GameInstance)
    (loginId password nickname : FString), (∀ ch, isAscii ch = true → engine.isAlnum ch = true) →
      gameInstance.Connected → NicknameLength engine nickname →
      CredentialsAgree engine gameInstance loginId password nickname := by
  intro claim
  have agree := claim latinEngine { socket := some 0, gameServerSession := some { socket := 0 } }
    (textLiteral "josé") (textLiteral "password") (textLiteral "Jo") latinEngine_ascii (by decide) (by decide)
  have alnum : (latinEngine.trimStartAndEnd (textLiteral "josé")).all latinEngine.isAlnum = true := by decide
  have sends := agree.together.mpr
    ((enters_iff (by decide) _ _ _).mpr ⟨by decide, List.all_eq_true.mp alnum⟩)
  have letters := List.all_eq_true.mpr ((registers_iff (by decide) (by decide) _ _).mp sends).2
  exact absurd letters (by decide)

end ArenaClient
