import Mathlib.Data.List.Basic
import Mathlib.Tactic.SplitIfs

/-! The UTF-8 scan of `structurally_valid.cc`: its state table, given by byte
ranges, accepts exactly the encodings of Unicode texts. The shortcut over ASCII,
eight bytes at once, never leaves the first state and is left out. -/
namespace Utf8

/-- The state blocks of `utf8acceptnonsurrogates`. -/
inductive State where
  | start
  | byte2of2
  | byte2of3E0 | byte2of3 | byte2of3ED | byte3ofSurrogate
  | byte2of4F0 | byte2of4 | byte2of4F4
  deriving DecidableEq, Repr

/-- A table lookup; nothing for the exit codes. -/
def State.next (state : State) (byte : UInt8) : Option State :=
  let n := byte.toNat
  match state with
  | .start =>
    if n < 0x80 then some .start
    else if n < 0xC2 then none
    else if n < 0xE0 then some .byte2of2
    else if n = 0xE0 then some .byte2of3E0
    else if n = 0xED then some .byte2of3ED
    else if n < 0xF0 then some .byte2of3
    else if n = 0xF0 then some .byte2of4F0
    else if n < 0xF4 then some .byte2of4
    else if n = 0xF4 then some .byte2of4F4
    else none
  | .byte2of2 => if 0x80 ≤ n ∧ n < 0xC0 then some .start else none
  | .byte2of3E0 => if 0xA0 ≤ n ∧ n < 0xC0 then some .byte2of2 else none
  | .byte2of3 => if 0x80 ≤ n ∧ n < 0xC0 then some .byte2of2 else none
  | .byte2of3ED =>
    if 0x80 ≤ n ∧ n < 0xA0 then some .byte2of2
    else if 0xA0 ≤ n ∧ n < 0xC0 then some .byte3ofSurrogate
    else none
  | .byte3ofSurrogate => none
  | .byte2of4F0 => if 0x90 ≤ n ∧ n < 0xC0 then some .byte2of3 else none
  | .byte2of4 => if 0x80 ≤ n ∧ n < 0xC0 then some .byte2of3 else none
  | .byte2of4F4 => if 0x80 ≤ n ∧ n < 0x90 then some .byte2of3 else none

def scan (state : State) (bytes : List UInt8) : Option State := bytes.foldlM State.next state

/-- All is consumed, and the scan ends between two characters. -/
def isStructurallyValidUTF8 (bytes : List UInt8) : Bool := scan .start bytes = some .start

theorem isStructurallyValidUTF8_iff {bytes : List UInt8} :
    isStructurallyValidUTF8 bytes ↔ scan .start bytes = some .start := decide_eq_true_iff

theorem scan_cons (state : State) (byte : UInt8) (rest : List UInt8) :
    scan state (byte :: rest) = (state.next byte).bind (scan · rest) := List.foldlM_cons

theorem scan_append (state : State) (bytes rest : List UInt8) :
    scan state (bytes ++ rest) = (scan state bytes).bind (scan · rest) := List.foldlM_append

/-! ### The texts it accepts -/

/-- The UTF-8 encoding of a text. -/
def encode (text : List Char) : List UInt8 := text.flatMap String.utf8EncodeChar

theorem scan_step {state next : State} {byte : UInt8} (step : state.next byte = some next)
    (rest : List UInt8) : scan state (byte :: rest) = scan next rest := by
  rw [scan_cons, step]
  rfl

/-- A continuation byte. -/
def Continues (byte : UInt8) : Prop := 0x80 ≤ byte.toNat ∧ byte.toNat < 0xC0

theorem scan_one {last : UInt8} (continues : Continues last) : scan .byte2of2 [last] = some .start := by
  have step : State.byte2of2.next last = some .start := if_pos continues
  exact scan_step step []

theorem scan_two {second last : UInt8} (continues : Continues second) (ends : Continues last) :
    scan .byte2of3 [second, last] = some .start := by
  have step : State.byte2of3.next second = some .byte2of2 := if_pos continues
  exact (scan_step step _).trans (scan_one ends)

theorem scan_utf8EncodeChar (c : Char) : scan .start (String.utf8EncodeChar c) = some .start := by
  have scalar : c.val.toNat < 0xd800 ∨ (0xdfff < c.val.toNat ∧ c.val.toNat < 0x110000) := c.valid
  have byte (n : Nat) (small : n < 256) : (UInt8.ofNat n).toNat = n := UInt8.toNat_ofNat_of_lt' small
  have low (n : Nat) : Continues (UInt8.ofNat (n % 64 + 0x80)) := by
    rw [Continues, byte _ (by omega)]
    omega
  simp only [String.utf8EncodeChar]
  generalize c.val.toNat = v at *
  split
  · refine scan_step ?_ []
    simp only [State.next, byte v (by omega)]
    rw [if_pos (by omega)]
  split
  · have step : State.start.next (.ofNat (v / 64 % 32 + 192)) = some .byte2of2 := by
      simp only [State.next, byte _ (show v / 64 % 32 + 192 < 256 by omega)]
      rw [if_neg (by omega), if_neg (by omega), if_pos (by omega)]
    exact (scan_step step _).trans (scan_one (low v))
  split
  · have lead := byte (v / 4096 % 16 + 224) (by omega)
    have second := byte (v / 64 % 64 + 128) (by omega)
    have steps : ∃ state : State, State.start.next (.ofNat (v / 4096 % 16 + 224)) = some state ∧
        state.next (.ofNat (v / 64 % 64 + 128)) = some .byte2of2 := by
      by_cases e0 : v / 4096 % 16 + 224 = 0xE0
      · refine ⟨.byte2of3E0, ?_, ?_⟩
        · simp only [State.next, lead]
          rw [if_neg (by omega), if_neg (by omega), if_neg (by omega), if_pos e0]
        · simp only [State.next, second]
          exact if_pos (by omega)
      by_cases ed : v / 4096 % 16 + 224 = 0xED
      · refine ⟨.byte2of3ED, ?_, ?_⟩
        · simp only [State.next, lead]
          rw [if_neg (by omega), if_neg (by omega), if_neg (by omega), if_neg e0, if_pos ed]
        · simp only [State.next, second]
          exact if_pos (by omega)
      · refine ⟨.byte2of3, ?_, ?_⟩
        · simp only [State.next, lead]
          rw [if_neg (by omega), if_neg (by omega), if_neg (by omega), if_neg e0, if_neg ed, if_pos (by omega)]
        · simp only [State.next, second]
          exact if_pos (by omega)
    obtain ⟨state, first, second⟩ := steps
    rw [scan_step first, scan_step second]
    exact scan_one (low v)
  · have lead := byte (v / 262144 % 8 + 240) (by omega)
    have second := byte (v / 4096 % 64 + 128) (by omega)
    have below : ¬ v / 262144 % 8 + 240 < 0xF0 := by omega
    have steps : ∃ state : State, State.start.next (.ofNat (v / 262144 % 8 + 240)) = some state ∧
        state.next (.ofNat (v / 4096 % 64 + 128)) = some .byte2of3 := by
      have large : State.start.next (.ofNat (v / 262144 % 8 + 240)) =
          if v / 262144 % 8 + 240 = 0xF0 then some State.byte2of4F0
          else if v / 262144 % 8 + 240 < 0xF4 then some .byte2of4
          else if v / 262144 % 8 + 240 = 0xF4 then some .byte2of4F4 else none := by
        simp only [State.next, lead]
        rw [if_neg (by omega), if_neg (by omega), if_neg (by omega), if_neg (by omega), if_neg (by omega),
          if_neg below]
      rw [large]
      by_cases f0 : v / 262144 % 8 + 240 = 0xF0
      · refine ⟨.byte2of4F0, if_pos f0, ?_⟩
        simp only [State.next, second]
        exact if_pos (by omega)
      rw [if_neg f0]
      by_cases middle : v / 262144 % 8 + 240 < 0xF4
      · refine ⟨.byte2of4, if_pos middle, ?_⟩
        simp only [State.next, second]
        exact if_pos (by omega)
      · refine ⟨.byte2of4F4, ?_, ?_⟩
        · rw [if_neg middle, if_pos (by omega)]
        · simp only [State.next, second]
          exact if_pos (by omega)
    obtain ⟨state, first, second⟩ := steps
    rw [scan_step first, scan_step second]
    exact scan_two (low _) (low v)

theorem scan_encode (text : List Char) : scan .start (encode text) = some .start := by
  induction text with
  | nil => rfl
  | cons c text ih =>
    rw [encode, List.flatMap_cons, scan_append, scan_utf8EncodeChar]
    exact ih

theorem scan_inv (scanned : scan state bytes = some .start) (amid : state ≠ .start) :
    ∃ byte rest next, bytes = byte :: rest ∧ state.next byte = some next ∧ scan next rest = some .start := by
  cases bytes with
  | nil => exact absurd (Option.some.inj scanned) amid
  | cons byte rest =>
    rw [scan_cons] at scanned
    obtain ⟨next, step, later⟩ := Option.bind_eq_some_iff.mp scanned
    exact ⟨byte, rest, next, rfl, step, later⟩

/-- A state block with a single range. -/
theorem scan_within {state next : State} {low high : Nat} (amid : state ≠ .start)
    (table : ∀ byte, state.next byte = if low ≤ byte.toNat ∧ byte.toNat < high then some next else none)
    (scanned : scan state bytes = some .start) :
    ∃ byte rest, bytes = byte :: rest ∧ (low ≤ byte.toNat ∧ byte.toNat < high) ∧
      scan next rest = some .start := by
  obtain ⟨byte, rest, after, rfl, step, later⟩ := scan_inv scanned amid
  rw [table] at step
  obtain ⟨inside, same⟩ := Option.ite_none_right_eq_some.mp step
  obtain rfl := Option.some.inj same
  exact ⟨byte, rest, rfl, inside, later⟩

theorem scan_one_inv (scanned : scan .byte2of2 bytes = some .start) :
    ∃ last rest, bytes = last :: rest ∧ Continues last ∧ scan .start rest = some .start :=
  scan_within (by decide) (fun _ => rfl) scanned

theorem scan_two_inv (scanned : scan .byte2of3 bytes = some .start) :
    ∃ second last rest, bytes = second :: last :: rest ∧ Continues second ∧ Continues last ∧
      scan .start rest = some .start := by
  obtain ⟨second, rest, rfl, continues, later⟩ := scan_within (by decide) (fun _ => rfl) scanned
  obtain ⟨last, rest, rfl, ends, later⟩ := scan_one_inv later
  exact ⟨second, last, rest, rfl, continues, ends, later⟩

/-! The character of each length of encoding. -/

theorem ofNat_eq (byte : UInt8) {n : Nat} (same : n = byte.toNat) : UInt8.ofNat n = byte := by
  rw [same, UInt8.ofNat_toNat]

theorem exists_char (n : Nat) (valid : n.isValidChar) : ∃ c : Char, c.val.toNat = n :=
  ⟨Char.ofNatAux n valid, rfl⟩

theorem char_one {first : UInt8} (ascii : first.toNat < 0x80) :
    ∃ c, String.utf8EncodeChar c = [first] := by
  obtain ⟨c, value⟩ := exists_char first.toNat (.inl (by omega))
  refine ⟨c, ?_⟩
  simp only [String.utf8EncodeChar, value]
  rw [if_pos (by omega), UInt8.ofNat_toNat]

theorem char_two (first : UInt8) {last : UInt8} (leads : 0xC2 ≤ first.toNat ∧ first.toNat < 0xE0)
    (ends : Continues last) : ∃ c, String.utf8EncodeChar c = [first, last] := by
  unfold Continues at ends
  obtain ⟨c, value⟩ := exists_char ((first.toNat - 0xC0) * 64 + (last.toNat - 0x80)) (.inl (by omega))
  refine ⟨c, ?_⟩
  simp only [String.utf8EncodeChar, value]
  rw [if_neg (by omega), if_pos (by omega), ofNat_eq first (by omega),
    ofNat_eq last (by omega)]

theorem char_three (first second : UInt8) {last : UInt8} (leads : 0xE0 ≤ first.toNat ∧ first.toNat < 0xF0)
    (continues : Continues second) (ends : Continues last)
    (shortest : first.toNat = 0xE0 → 0xA0 ≤ second.toNat)
    (scalar : first.toNat = 0xED → second.toNat < 0xA0) :
    ∃ c, String.utf8EncodeChar c = [first, second, last] := by
  unfold Continues at continues ends
  obtain ⟨c, value⟩ := exists_char
    ((first.toNat - 0xE0) * 4096 + (second.toNat - 0x80) * 64 + (last.toNat - 0x80))
    (by unfold Nat.isValidChar; omega)
  refine ⟨c, ?_⟩
  simp only [String.utf8EncodeChar, value]
  rw [if_neg (by omega), if_neg (by omega), if_pos (by omega), ofNat_eq first (by omega),
    ofNat_eq second (by omega), ofNat_eq last (by omega)]

theorem char_four (first second : UInt8) {third last : UInt8} (leads : 0xF0 ≤ first.toNat ∧ first.toNat < 0xF5)
    (continues : Continues second ∧ Continues third) (ends : Continues last)
    (shortest : first.toNat = 0xF0 → 0x90 ≤ second.toNat)
    (scalar : first.toNat = 0xF4 → second.toNat < 0x90) :
    ∃ c, String.utf8EncodeChar c = [first, second, third, last] := by
  unfold Continues at continues ends
  obtain ⟨c, value⟩ := exists_char ((first.toNat - 0xF0) * 262144 + (second.toNat - 0x80) * 4096 +
    (third.toNat - 0x80) * 64 + (last.toNat - 0x80)) (by unfold Nat.isValidChar; omega)
  refine ⟨c, ?_⟩
  simp only [String.utf8EncodeChar, value]
  rw [if_neg (by omega), if_neg (by omega), if_neg (by omega), ofNat_eq first (by omega),
    ofNat_eq second (by omega), ofNat_eq third (by omega),
    ofNat_eq last (by omega)]

/-- A character of four bytes, by its first one. -/
theorem scan_char_four (leads : 0xF0 ≤ first.toNat)
    (step : (if first.toNat = 0xF0 then some State.byte2of4F0
      else if first.toNat < 0xF4 then some .byte2of4
      else if first.toNat = 0xF4 then some .byte2of4F4 else none) = some state)
    (later : scan state bytes = some .start) :
    ∃ c rest, first :: bytes = String.utf8EncodeChar c ++ rest ∧ scan .start rest = some .start := by
  have found : ∃ second third last rest, bytes = second :: third :: last :: rest ∧ first.toNat < 0xF5 ∧
      Continues second ∧ (first.toNat = 0xF0 → 0x90 ≤ second.toNat) ∧ (first.toNat = 0xF4 → second.toNat < 0x90) ∧
      (Continues third ∧ Continues last) ∧ scan .start rest = some .start := by
    unfold Continues
    split at step
    · obtain rfl := Option.some.inj step
      obtain ⟨second, _, rfl, narrow, later⟩ := scan_within (by decide) (fun _ => rfl) later
      obtain ⟨third, last, rest, rfl, continues, ends, later⟩ := scan_two_inv later
      exact ⟨second, third, last, rest, rfl, by omega, by omega, by omega, by omega, ⟨continues, ends⟩, later⟩
    split at step
    · obtain rfl := Option.some.inj step
      obtain ⟨second, _, rfl, narrow, later⟩ := scan_within (by decide) (fun _ => rfl) later
      obtain ⟨third, last, rest, rfl, continues, ends, later⟩ := scan_two_inv later
      exact ⟨second, third, last, rest, rfl, by omega, by omega, by omega, by omega, ⟨continues, ends⟩, later⟩
    · obtain ⟨f4, same⟩ := Option.ite_none_right_eq_some.mp step
      obtain rfl := Option.some.inj same
      obtain ⟨second, _, rfl, narrow, later⟩ := scan_within (by decide) (fun _ => rfl) later
      obtain ⟨third, last, rest, rfl, continues, ends, later⟩ := scan_two_inv later
      exact ⟨second, third, last, rest, rfl, by omega, by omega, by omega, by omega, ⟨continues, ends⟩, later⟩
  obtain ⟨second, third, last, rest, rfl, small, wide, shortest, scalar, ⟨continues, ends⟩, later⟩ := found
  obtain ⟨c, encoded⟩ := char_four first second ⟨leads, small⟩ ⟨wide, continues⟩ ends shortest scalar
  exact ⟨c, rest, by rw [encoded]; rfl, later⟩

/-- An accepted text begins with a character. -/
theorem scan_char (scanned : scan .start (first :: bytes) = some .start) :
    ∃ c rest, first :: bytes = String.utf8EncodeChar c ++ rest ∧ scan .start rest = some .start := by
  rw [scan_cons] at scanned
  obtain ⟨state, step, later⟩ := Option.bind_eq_some_iff.mp scanned
  change (if first.toNat < 0x80 then some State.start else _) = some state at step
  by_cases ascii : first.toNat < 0x80
  · rw [if_pos ascii] at step
    obtain rfl := Option.some.inj step
    obtain ⟨c, encoded⟩ := char_one ascii
    exact ⟨c, bytes, by rw [encoded]; rfl, later⟩
  rw [if_neg ascii] at step
  by_cases stray : first.toNat < 0xC2
  · rw [if_pos stray] at step
    cases step
  rw [if_neg stray] at step
  by_cases two : first.toNat < 0xE0
  · rw [if_pos two] at step
    obtain rfl := Option.some.inj step
    obtain ⟨last, rest, rfl, ends, later⟩ := scan_one_inv later
    obtain ⟨c, encoded⟩ := char_two first (by omega) ends
    exact ⟨c, rest, by rw [encoded]; rfl, later⟩
  rw [if_neg two] at step
  by_cases e0 : first.toNat = 0xE0
  · rw [if_pos e0] at step
    obtain rfl := Option.some.inj step
    obtain ⟨second, _, rfl, narrow, later⟩ := scan_within (by decide) (fun _ => rfl) later
    obtain ⟨last, rest, rfl, ends, later⟩ := scan_one_inv later
    obtain ⟨c, encoded⟩ := char_three first second (by omega) ⟨by omega, by omega⟩ ends (by omega) (by omega)
    exact ⟨c, rest, by rw [encoded]; rfl, later⟩
  rw [if_neg e0] at step
  by_cases ed : first.toNat = 0xED
  · rw [if_pos ed] at step
    obtain rfl := Option.some.inj step
    obtain ⟨second, tail, after, rfl, step, later⟩ := scan_inv later (by decide)
    dsimp only [State.next] at step
    by_cases narrow : 0x80 ≤ second.toNat ∧ second.toNat < 0xA0
    · rw [if_pos narrow] at step
      obtain rfl := Option.some.inj step
      obtain ⟨last, rest, rfl, ends, later⟩ := scan_one_inv later
      obtain ⟨c, encoded⟩ := char_three first second (by omega) ⟨by omega, by omega⟩ ends (by omega) (by omega)
      exact ⟨c, rest, by rw [encoded]; rfl, later⟩
    · -- a surrogate: its last byte is rejected
      rw [if_neg narrow] at step
      obtain ⟨-, same⟩ := Option.ite_none_right_eq_some.mp step
      obtain rfl := Option.some.inj same
      obtain ⟨_, _, _, _, rejected, _⟩ := scan_inv later (by decide)
      cases rejected
  rw [if_neg ed] at step
  by_cases three : first.toNat < 0xF0
  · rw [if_pos three] at step
    obtain rfl := Option.some.inj step
    obtain ⟨second, last, rest, rfl, continues, ends, later⟩ := scan_two_inv later
    obtain ⟨c, encoded⟩ := char_three first second (by omega) continues ends (by omega) (by omega)
    exact ⟨c, rest, by rw [encoded]; rfl, later⟩
  rw [if_neg three] at step
  exact scan_char_four (by omega) step later

/-- The scan accepts the encodings of texts and nothing else. -/
theorem isStructurallyValidUTF8_iff_encode {bytes : List UInt8} :
    isStructurallyValidUTF8 bytes ↔ ∃ text, bytes = encode text := by
  rw [isStructurallyValidUTF8_iff]
  constructor
  · intro scanned
    induction size : bytes.length using Nat.strongRecOn generalizing bytes with
    | ind _ ih =>
      cases bytes with
      | nil => exact ⟨[], rfl⟩
      | cons first bytes =>
        obtain ⟨c, rest, split, later⟩ := scan_char scanned
        have shorter : rest.length < (first :: bytes).length := by
          rw [split, List.length_append, String.length_utf8EncodeChar]
          exact Nat.lt_add_of_pos_left c.utf8Size_pos
        obtain ⟨text, rfl⟩ := ih _ (size ▸ shorter) later rfl
        exact ⟨c :: text, split⟩
  · rintro ⟨text, rfl⟩
    exact scan_encode text

end Utf8
