import ArenaClient.Base.Protobuf
import Mathlib.Data.BitVec
import Mathlib.Tactic.Ring

/-! The number readers of `parse_context.h` and `parse_context.cc`, over a
pointer that can always be read from, and the base-128 digits they stand for.
The readers keep the continuation bits in the sum and take each of them away
with the next byte; the digits are read plainly. -/
namespace Protobuf

/-- What a `const char*` points at: `p i` is `p[i]`. -/
abbrev Pointer := Nat → UInt8

/-! ### The readers of the source -/

/-- `for (i = first; i < first + count; i++) { byte = p[i]; res += (byte - 1) << (7 * i);
if (byte < 128) return {p + i + 1, res}; }`, and `res` where it does not return. -/
def addBytes {w : Nat} (p : Pointer) : Nat → Nat → BitVec w → (Nat × BitVec w) ⊕ BitVec w
  | 0, _, res => .inr res
  | count + 1, first, res =>
    let res := res + (BitVec.ofNat w (p first).toNat - 1#w) <<< (7 * first)
    if p first < 128 then .inl (first + 1, res) else addBytes p count (first + 1) res

/-- The loop that only looks for the last byte. -/
def skipBytes (p : Pointer) : Nat → Nat → Option Nat
  | 0, _ => none
  | count + 1, first => if p first < 128 then some (first + 1) else skipBytes p count (first + 1)

/-- `ReadTag`, with `ReadTagFallback`: the bytes read and the tag. -/
def readTag (p : Pointer) : Option (Nat × UInt32) :=
  if p 0 < 128 then some (1, ⟨.ofNat 32 (p 0).toNat⟩)
  else match addBytes p 4 1 (.ofNat 32 (p 0).toNat) with
    | .inl (used, res) => some (used, ⟨res⟩)
    | .inr _ => none

/-- `VarintParse<uint64_t>`, with `VarintParseSlow64`: the first two bytes are
added up in 32 bits. -/
def varintParse64 (p : Pointer) : Option (Nat × UInt64) :=
  if p 0 < 128 then some (1, ⟨.ofNat 64 (p 0).toNat⟩)
  else match addBytes p 1 1 (.ofNat 32 (p 0).toNat) with
    | .inl (used, res) => some (used, ⟨res.setWidth 64⟩)
    | .inr res => match addBytes p 8 2 (res.setWidth 64) with
      | .inl (used, res) => some (used, ⟨res⟩)
      | .inr _ => none

/-- `VarintParse<uint32_t>`, with `VarintParseSlow32`: more than five bytes are
accepted and only the first five add up. -/
def varintParse32 (p : Pointer) : Option (Nat × UInt32) :=
  if p 0 < 128 then some (1, ⟨.ofNat 32 (p 0).toNat⟩)
  else match addBytes p 4 1 (.ofNat 32 (p 0).toNat) with
    | .inl (used, res) => some (used, ⟨res⟩)
    | .inr res => (skipBytes p 5 5).map fun used => (used, ⟨res⟩)

/-- `INT_MAX - ParseContext::kSlopBytes`. -/
def maxSize : Nat := 2147483631

/-- `ReadSize`, with `ReadSizeFallback`: no size of 2 GiB, nor one close to it. -/
def readSize (p : Pointer) : Option (Nat × Nat) :=
  if p 0 < 128 then some (1, (p 0).toNat)
  else match addBytes p 3 1 (.ofNat 32 (p 0).toNat) with
    | .inl (used, res) => some (used, res.toNat)
    | .inr res =>
      if 8 ≤ p 4 then none
      else
        let res := res + (BitVec.ofNat 32 (p 4).toNat - 1#32) <<< 28
        if maxSize < res.toNat then none else some (5, res.toNat)

/-! ### The digits -/

/-- A number of at most `count` bytes, all but the last with the top bit set:
how many bytes it takes, and its value. -/
def digits : Nat → List UInt8 → Option (Nat × Nat)
  | 0, _ => none
  | _ + 1, [] => none
  | count + 1, byte :: rest =>
    if byte < 128 then some (1, byte.toNat)
    else (digits count rest).map fun (used, high) => (used + 1, byte.toNat - 128 + 128 * high)

theorem digits_succ (count : Nat) (byte : UInt8) (rest : List UInt8) :
    digits (count + 1) (byte :: rest) = if byte < 128 then some (1, byte.toNat)
      else (digits count rest).map fun (used, high) => (used + 1, byte.toNat - 128 + 128 * high) := rfl

theorem digits_used (read : digits count bytes = some (used, n)) :
    0 < used ∧ used ≤ count ∧ used ≤ bytes.length ∧ n < 128 ^ used := by
  induction count generalizing bytes used n with
  | zero => simp [digits] at read
  | succ count ih =>
    cases bytes with
    | nil => simp [digits] at read
    | cons byte rest =>
      rw [digits_succ] at read
      split at read
      · rename_i last
        obtain ⟨rfl, rfl⟩ := Prod.mk.inj (Option.some.inj read)
        have small : byte.toNat < 128 := UInt8.lt_iff_toNat_lt.mp last
        simpa using small
      · obtain ⟨⟨later, high⟩, tail, whole⟩ := Option.map_eq_some_iff.mp read
        obtain ⟨rfl, rfl⟩ := Prod.mk.inj whole
        obtain ⟨positive, few, inside, bound⟩ := ih tail
        have byteBound := byte.toNat_lt
        simp only [List.length_cons, Nat.pow_succ]
        omega

theorem digits_append (read : digits count bytes = some r) (more : List UInt8) :
    digits count (bytes ++ more) = some r := by
  induction count generalizing bytes r with
  | zero => simp [digits] at read
  | succ count ih =>
    cases bytes with
    | nil => simp [digits] at read
    | cons byte rest =>
      rw [List.cons_append, digits_succ]
      rw [digits_succ] at read
      split at read
      · rename_i last
        rw [if_pos last, read]
      · rename_i continued
        obtain ⟨tail, found, whole⟩ := Option.map_eq_some_iff.mp read
        rw [if_neg continued, ih found, Option.map_some, whole]

/-- The digits undo `varint`. -/
theorem digits_varint (fits : n < 128 ^ (count + 1)) (rest : List UInt8) :
    digits (count + 1) (varint n ++ rest) = some (varintSize n, n) := by
  rw [← length_varint]
  induction n using varint.induct generalizing count with
  | case1 n small =>
    have byte : (UInt8.ofNat n).toNat = n := UInt8.toNat_ofNat_of_lt' (small.trans (by decide))
    have last : UInt8.ofNat n < 128 := UInt8.lt_iff_toNat_lt.mpr (byte.trans_lt small)
    rw [varint, if_pos small, List.singleton_append, digits_succ, if_pos last, byte,
      List.length_singleton]
  | case2 n large ih =>
    have byte : (UInt8.ofNat (n % 128 + 128)).toNat = n % 128 + 128 :=
      UInt8.toNat_ofNat_of_lt' (show n % 128 + 128 < 256 by omega)
    have continued : ¬ UInt8.ofNat (n % 128 + 128) < 128 := by
      rw [UInt8.lt_iff_toNat_lt, byte]
      exact Nat.not_lt.mpr (Nat.le_add_left _ _)
    rw [Nat.pow_succ] at fits
    cases count with
    | zero => omega
    | succ count =>
      have tail := @ih count (by omega)
      rw [varint, if_neg large, List.cons_append, digits_succ, if_neg continued, tail, byte]
      simp only [Option.map_some, List.length_cons, Option.some.injEq, Prod.mk.injEq, true_and]
      omega

/-! ### The loop adds up the digits -/

/-- The loop of the readers without the continuation bits: `low` is what the
bytes before `first` add up to. -/
def plainBytes (p : Pointer) : Nat → Nat → Nat → (Nat × Nat) ⊕ Nat
  | 0, _, low => .inr low
  | count + 1, first, low =>
    if p first < 128 then .inl (first + 1, low + 2 ^ (7 * first) * (p first).toNat)
    else plainBytes p count (first + 1) (low + 2 ^ (7 * first) * ((p first).toNat - 128))

theorem plainBytes_succ (p : Pointer) (count first low : Nat) :
    plainBytes p (count + 1) first low =
      if p first < 128 then .inl (first + 1, low + 2 ^ (7 * first) * (p first).toNat)
      else plainBytes p count (first + 1) (low + 2 ^ (7 * first) * ((p first).toNat - 128)) := rfl

theorem plainBytes_add (p : Pointer) (count more first low : Nat) :
    plainBytes p (count + more) first low =
      (plainBytes p count first low).elim .inl fun low => plainBytes p more (first + count) low := by
  induction count generalizing first low with
  | zero => rw [Nat.zero_add]; rfl
  | succ count ih =>
    rw [Nat.add_right_comm, plainBytes_succ, plainBytes_succ]
    split
    · rfl
    · rw [ih, Nat.add_right_comm first, Nat.add_assoc]

theorem add_byte (w low first byte : Nat) :
    BitVec.ofNat w (low + 2 ^ (7 * first)) + (BitVec.ofNat w byte - 1#w) <<< (7 * first) =
      BitVec.ofNat w (low + 2 ^ (7 * first) * byte) := by
  have power : BitVec.twoPow w (7 * first) = BitVec.ofNat w (2 ^ (7 * first)) :=
    BitVec.eq_of_toNat_eq (by rw [BitVec.toNat_twoPow, BitVec.toNat_ofNat])
  rw [BitVec.shiftLeft_eq_mul_twoPow, power, BitVec.ofNat_add, BitVec.ofNat_add, BitVec.ofNat_mul,
    show 1#w = 1 from rfl]
  ring

theorem large_of_continued {byte : UInt8} (continued : ¬ byte < 128) : 128 ≤ byte.toNat := by
  simpa [UInt8.lt_iff_toNat_lt] using continued

/-- A byte that is not the last one leaves its continuation bit behind. -/
theorem continue_byte {byte : Nat} (large : 128 ≤ byte) (low first : Nat) :
    low + 2 ^ (7 * first) * byte = low + 2 ^ (7 * first) * (byte - 128) + 2 ^ (7 * (first + 1)) := by
  rw [Nat.mul_add 7, Nat.pow_add, Nat.add_assoc, ← Nat.mul_add, Nat.sub_add_cancel large]

theorem addBytes_eq (w : Nat) (p : Pointer) (count first low : Nat) :
    addBytes p count first (BitVec.ofNat w (low + 2 ^ (7 * first))) =
      (plainBytes p count first low).map (fun (used, n) => (used, BitVec.ofNat w n))
        (fun low => BitVec.ofNat w (low + 2 ^ (7 * (first + count)))) := by
  induction count generalizing first low with
  | zero => rfl
  | succ count ih =>
    rw [plainBytes_succ]
    simp only [addBytes, add_byte]
    split
    · rfl
    · rename_i continued
      rw [continue_byte (large_of_continued continued), ih, Nat.add_right_comm first, Nat.add_assoc]

/-- The bytes of a list, from some place on. -/
def Pointer.From (p : Pointer) (first : Nat) (bytes : List UInt8) : Prop :=
  ∀ i (inside : i < bytes.length), p (first + i) = bytes[i]

theorem Pointer.From.head (points : Pointer.From p first (byte :: rest)) : p first = byte :=
  points 0 (Nat.zero_lt_succ _)

theorem Pointer.From.tail (points : Pointer.From p first (byte :: rest)) :
    Pointer.From p (first + 1) rest := by
  intro i inside
  have next := points (i + 1) (by simpa using inside)
  rw [Nat.add_right_comm]
  exact next

theorem plainBytes_of_digits (points : Pointer.From p first bytes)
    (read : digits count bytes = some (used, n)) (low : Nat) :
    plainBytes p count first low = .inl (first + used, low + 2 ^ (7 * first) * n) := by
  induction count generalizing first bytes used n low with
  | zero => simp [digits] at read
  | succ count ih =>
    cases bytes with
    | nil => simp [digits] at read
    | cons byte rest =>
      rw [digits_succ] at read
      rw [plainBytes_succ, points.head]
      split at read
      · rename_i last
        obtain ⟨rfl, rfl⟩ := Prod.mk.inj (Option.some.inj read)
        rw [if_pos last]
      · rename_i continued
        obtain ⟨⟨later, high⟩, tail, whole⟩ := Option.map_eq_some_iff.mp read
        obtain ⟨rfl, rfl⟩ := Prod.mk.inj whole
        rw [if_neg continued, ih points.tail tail, Nat.mul_add 7, Nat.pow_add, Sum.inl.injEq,
          Prod.mk.injEq]
        refine ⟨by omega, ?_⟩
        ring

theorem plainBytes_grows (ends : plainBytes p count first low = .inl (used, n)) : first < used := by
  induction count generalizing first low with
  | zero => cases ends
  | succ count ih =>
    rw [plainBytes_succ] at ends
    split at ends
    · obtain ⟨rfl, -⟩ := Prod.mk.inj (Sum.inl.inj ends)
      exact Nat.lt_succ_self _
    · exact (Nat.lt_succ_self _).trans (ih ends)

theorem plainBytes_bound (p : Pointer) (count : Nat) {first low : Nat} (small : low < 2 ^ (7 * first)) :
    (∀ {used n}, plainBytes p count first low = .inl (used, n) → n < 2 ^ (7 * (first + count))) ∧
      ∀ {rest}, plainBytes p count first low = .inr rest → rest < 2 ^ (7 * (first + count)) := by
  induction count generalizing first low with
  | zero =>
    refine ⟨fun ends => (by cases ends), fun ends => ?_⟩
    obtain rfl := Sum.inr.inj ends
    exact small
  | succ count ih =>
    have digit : ∀ n, n < 128 → low + 2 ^ (7 * first) * n < 2 ^ (7 * (first + 1)) := by
      intro n few
      calc low + 2 ^ (7 * first) * n
        _ < 2 ^ (7 * first) * (n + 1) := by rw [Nat.mul_succ, Nat.add_comm]; omega
        _ ≤ 2 ^ (7 * first) * 128 := Nat.mul_le_mul_left _ few
        _ = 2 ^ (7 * (first + 1)) := (Nat.pow_add 2 (7 * first) 7).symm
    have byte := (p first).toNat_lt
    have later := ih (digit ((p first).toNat - 128) (by omega))
    rw [Nat.add_right_comm, Nat.add_assoc] at later
    rw [plainBytes_succ]
    split
    · rename_i last
      refine ⟨fun ends => ?_, fun ends => (by cases ends)⟩
      obtain ⟨-, rfl⟩ := Prod.mk.inj (Sum.inl.inj ends)
      exact (digit _ (UInt8.lt_iff_toNat_lt.mp last)).trans_le
        (Nat.pow_le_pow_right (by decide) (by omega))
    · exact later

/-- Where there are no digits, the loop goes past the list. -/
theorem plainBytes_past (points : Pointer.From p first bytes) (none : digits count bytes = none)
    (ends : plainBytes p count first low = .inl (used, n)) : first + bytes.length < used := by
  induction count generalizing first bytes low with
  | zero => cases ends
  | succ count ih =>
    cases bytes with
    | nil => exact plainBytes_grows ends
    | cons byte rest =>
      rw [digits_succ] at none
      rw [plainBytes_succ, points.head] at ends
      split at none
      · cases none
      · rename_i continued
        rw [if_neg continued] at ends
        have further := ih points.tail (Option.map_eq_none_iff.mp none) ends
        rw [List.length_cons]
        omega

/-! ### Each reader agrees with the digits -/

/-- The reader may go past the end of a list. It finds what is plainly there
exactly where it does not. -/
def Agrees (reader plain : Option (Nat × α)) (length : Nat) : Prop :=
  ∀ used value, plain = some (used, value) ↔ reader = some (used, value) ∧ used ≤ length

theorem Agrees.map {reader plain : Option (Nat × α)} (agrees : Agrees reader plain length) (f : α → β) :
    Agrees (reader.map (Prod.map id f)) (plain.map (Prod.map id f)) length := by
  intro used value
  simp only [Option.map_eq_some_iff, Prod.exists, Prod.map_apply, id_eq, Prod.mk.injEq]
  constructor
  · rintro ⟨used, inner, found, rfl, rfl⟩
    obtain ⟨found, inside⟩ := (agrees _ _).mp found
    exact ⟨⟨used, inner, found, rfl, rfl⟩, inside⟩
  · rintro ⟨⟨used, inner, found, rfl, rfl⟩, inside⟩
    exact ⟨used, inner, (agrees _ _).mpr ⟨found, inside⟩, rfl, rfl⟩

theorem Agrees.filter {reader plain : Option (Nat × α)} (agrees : Agrees reader plain length)
    (keep : α → Bool) :
    Agrees (reader.filter fun found => keep found.2) (plain.filter fun found => keep found.2) length := by
  intro used value
  rw [Option.filter_eq_some_iff, Option.filter_eq_some_iff, agrees, and_right_comm]

/-- All of the loop, from the first byte on. -/
def sumBytes (p : Pointer) (count : Nat) : Option (Nat × Nat) := (plainBytes p count 0 0).getLeft?

theorem sumBytes_agrees (points : Pointer.From p 0 bytes) (count : Nat) :
    Agrees (sumBytes p count) (digits count bytes) bytes.length := by
  intro used value
  cases read : digits count bytes with
  | none =>
    simp only [reduceCtorEq, false_iff, not_and, Nat.not_le]
    intro found
    rw [sumBytes, Sum.getLeft?_eq_some_iff] at found
    simpa using plainBytes_past points read found
  | some result =>
    have inside := (digits_used read).2.2.1
    have loop : sumBytes p count = some result := by
      rw [sumBytes, plainBytes_of_digits points read]
      simp
    rw [loop, Option.some.injEq]
    constructor
    · rintro rfl
      exact ⟨rfl, inside⟩
    · rintro ⟨same, -⟩
      exact same

theorem plainBytes_used (ends : plainBytes p count first low = .inl (used, n)) : used ≤ first + count := by
  induction count generalizing first low with
  | zero => cases ends
  | succ count ih =>
    rw [plainBytes_succ] at ends
    split at ends
    · obtain ⟨rfl, -⟩ := Prod.mk.inj (Sum.inl.inj ends)
      omega
    · have later := ih ends
      omega

theorem sumBytes_used (read : sumBytes p count = some (used, n)) : 0 < used ∧ used ≤ count := by
  rw [sumBytes, Sum.getLeft?_eq_some_iff] at read
  have few := plainBytes_used read
  exact ⟨plainBytes_grows read, by omega⟩

theorem sumBytes_succ (p : Pointer) (count : Nat) :
    sumBytes p (count + 1) = if p 0 < 128 then some (1, (p 0).toNat)
      else (plainBytes p count 1 ((p 0).toNat - 128)).getLeft? := by
  rw [sumBytes, plainBytes_succ]
  split <;> simp

/-- The loop of a reader, after its first byte. -/
theorem addBytes_one (w : Nat) (p : Pointer) (count : Nat) (continued : ¬ p 0 < 128) :
    addBytes p count 1 (BitVec.ofNat w (p 0).toNat) =
      (plainBytes p count 1 ((p 0).toNat - 128)).map (fun (used, n) => (used, BitVec.ofNat w n))
        (fun low => BitVec.ofNat w (low + 2 ^ (7 * (1 + count)))) := by
  rw [← addBytes_eq]
  congr 2
  exact (Nat.sub_add_cancel (large_of_continued continued)).symm

theorem readTag_eq (p : Pointer) : readTag p = (sumBytes p 5).map (Prod.map id UInt32.ofNat) := by
  rw [readTag, sumBytes_succ]
  split
  · rfl
  · rename_i continued
    rw [addBytes_one 32 p 4 continued]
    cases plainBytes p 4 1 ((p 0).toNat - 128) <;> rfl

theorem varintParse64_eq (p : Pointer) :
    varintParse64 p = (sumBytes p 10).map (Prod.map id UInt64.ofNat) := by
  rw [varintParse64, sumBytes_succ]
  split
  · rfl
  · rename_i continued
    have byte := (p 0).toNat_lt
    have bound := plainBytes_bound p 1 (show (p 0).toNat - 128 < 2 ^ (7 * 1) by omega)
    have extend (n : Nat) (narrow : n < 2 ^ 32) : (BitVec.ofNat 32 n).setWidth 64 = .ofNat 64 n :=
      BitVec.setWidth_ofNat_of_le_of_lt (by decide) narrow
    rw [addBytes_one 32 p 1 continued, plainBytes_add p 1 8]
    cases ends : plainBytes p 1 1 ((p 0).toNat - 128) with
    | inl found =>
      have narrow := (bound.1 ends).trans_le (show 2 ^ (7 * (1 + 1)) ≤ 2 ^ 32 by decide)
      simp only [Sum.map_inl, extend found.2 narrow]
      rfl
    | inr low =>
      have narrow : low + 2 ^ (7 * 2) < 2 ^ 32 := by
        have small : low < 2 ^ 14 := bound.2 ends
        omega
      simp only [Sum.map_inr, Nat.reduceAdd, extend _ narrow, addBytes_eq, Sum.elim_inr]
      cases plainBytes p 8 2 low <;> rfl

/-- `skipBytes` stops where the loop does, and what the loop adds from the sixth
byte on is nothing in 32 bits. -/
theorem skipBytes_eq (p : Pointer) (count first low : Nat) (high : 5 ≤ first) :
    (skipBytes p count first).map (fun used => (used, UInt32.ofNat low)) =
      (plainBytes p count first low).getLeft?.map (Prod.map id UInt32.ofNat) := by
  induction count generalizing first low with
  | zero => rfl
  | succ count ih =>
    have shifted : ∀ n, UInt32.ofNat (low + 2 ^ (7 * first) * n) = UInt32.ofNat low := by
      intro n
      obtain ⟨more, split⟩ := Nat.exists_eq_add_of_le (show 32 ≤ 7 * first by omega)
      apply UInt32.toNat_inj.mp
      rw [split, Nat.pow_add, Nat.mul_assoc, UInt32.toNat_ofNat', UInt32.toNat_ofNat',
        Nat.add_mul_mod_self_left]
    rw [skipBytes, plainBytes_succ]
    split
    · simp [shifted]
    · rw [← ih _ _ (Nat.le_succ_of_le high), shifted]

theorem varintParse32_eq (p : Pointer) :
    varintParse32 p = (sumBytes p 10).map (Prod.map id UInt32.ofNat) := by
  rw [varintParse32, sumBytes_succ]
  split
  · rfl
  · rename_i continued
    rw [addBytes_one 32 p 4 continued, plainBytes_add p 4 5]
    cases plainBytes p 4 1 ((p 0).toNat - 128) with
    | inl found => rfl
    | inr low =>
      have full : UInt32.ofNat (low + 2 ^ (7 * (1 + 4))) = UInt32.ofNat low := by
        apply UInt32.toNat_inj.mp
        rw [UInt32.toNat_ofNat', UInt32.toNat_ofNat', show 2 ^ (7 * (1 + 4)) = 2 ^ 32 * 8 from rfl,
          Nat.add_mul_mod_self_left]
      have skipped := skipBytes_eq p 5 5 low (le_refl 5)
      rw [← full] at skipped
      exact skipped

theorem readSize_eq (p : Pointer) :
    readSize p = (sumBytes p 5).filter fun found => found.2 ≤ maxSize := by
  have byte := (p 0).toNat_lt
  rw [readSize, sumBytes_succ]
  split
  · rw [Option.filter_some, if_pos]
    exact decide_eq_true (show (p 0).toNat ≤ 2147483631 by omega)
  · rename_i continued
    rw [addBytes_one 32 p 3 continued, plainBytes_add p 3 1]
    have bound := plainBytes_bound p 3 (show (p 0).toNat - 128 < 2 ^ (7 * 1) by omega)
    cases ends : plainBytes p 3 1 ((p 0).toNat - 128) with
    | inl found =>
      have small : found.2 < 2 ^ 28 := bound.1 ends
      have exact : (BitVec.ofNat 32 found.2).toNat = found.2 := by
        rw [BitVec.toNat_ofNat, Nat.mod_eq_of_lt (by omega)]
      simp only [Sum.map_inl, exact, Sum.elim_inl, Sum.getLeft?_inl]
      rw [Option.filter_some, if_pos]
      exact decide_eq_true (show found.2 ≤ 2147483631 by omega)
    | inr low =>
      have small : low < 2 ^ 28 := bound.2 ends
      simp only [Sum.map_inr, Nat.reduceAdd, show 28 = 7 * 4 from rfl, add_byte, Sum.elim_inr,
        plainBytes]
      by_cases tooLong : 8 ≤ p 4
      · have large : 8 ≤ (p 4).toNat := UInt8.le_iff_toNat_le.mp tooLong
        rw [if_pos tooLong]
        split
        · rw [Sum.getLeft?_inl, Option.filter_some, if_neg]
          intro kept
          have bounded : low + 2 ^ (7 * 4) * (p 4).toNat ≤ 2147483631 := of_decide_eq_true kept
          omega
        · rfl
      · have few : (p 4).toNat < 8 := by simpa [UInt8.le_iff_toNat_le] using tooLong
        have last : p 4 < 128 := UInt8.lt_iff_toNat_lt.mpr (few.trans (by decide))
        have exact : (BitVec.ofNat 32 (low + 2 ^ (7 * 4) * (p 4).toNat)).toNat =
            low + 2 ^ (7 * 4) * (p 4).toNat := by
          rw [BitVec.toNat_ofNat, Nat.mod_eq_of_lt (by omega)]
        simp only [if_neg tooLong, if_pos last, exact, Sum.getLeft?_inl, Option.filter_some,
          decide_eq_true_eq]
        split <;> rename_i bounded
        · rw [if_neg (Nat.not_le.mpr bounded)]
        · rw [if_pos (Nat.not_lt.mp bounded)]

/-! ### What the readers read -/

/-- A tag: five bytes at most, and 32 bits of them. -/
def tagDigits (bytes : List UInt8) : Option (Nat × UInt32) :=
  (digits 5 bytes).map (Prod.map id UInt32.ofNat)

/-- A varint: ten bytes at most, and 64 bits of them. -/
def varintDigits (bytes : List UInt8) : Option (Nat × UInt64) :=
  (digits 10 bytes).map (Prod.map id UInt64.ofNat)

/-- A length: five bytes at most, and one that a limit can be set to. -/
def sizeDigits (bytes : List UInt8) : Option (Nat × Nat) :=
  (digits 5 bytes).filter fun found => found.2 ≤ maxSize

variable {p : Pointer} {bytes : List UInt8}

theorem readTag_agrees (points : p.From 0 bytes) :
    Agrees (readTag p) (tagDigits bytes) bytes.length := by
  rw [readTag_eq]
  exact (sumBytes_agrees points 5).map UInt32.ofNat

theorem readTag_used (read : readTag p = some (used, tag)) : 0 < used ∧ used ≤ 5 := by
  rw [readTag_eq] at read
  obtain ⟨⟨used, n⟩, found, same⟩ := Option.map_eq_some_iff.mp read
  obtain ⟨rfl, -⟩ := Prod.mk.inj same
  exact sumBytes_used found

theorem varintParse64_agrees (points : p.From 0 bytes) :
    Agrees (varintParse64 p) (varintDigits bytes) bytes.length := by
  rw [varintParse64_eq]
  exact (sumBytes_agrees points 10).map UInt64.ofNat

theorem varintParse64_used (read : varintParse64 p = some (used, value)) : 0 < used ∧ used ≤ 10 := by
  rw [varintParse64_eq] at read
  obtain ⟨⟨used, n⟩, found, same⟩ := Option.map_eq_some_iff.mp read
  obtain ⟨rfl, -⟩ := Prod.mk.inj same
  exact sumBytes_used found

/-- The 32-bit reader is the 64-bit one, cut off. -/
theorem varintParse32_eq_64 (p : Pointer) :
    varintParse32 p = (varintParse64 p).map (Prod.map id UInt64.toUInt32) := by
  rw [varintParse32_eq, varintParse64_eq, Option.map_map]
  congr 1
  funext found
  simp [Prod.map]

theorem readSize_agrees (points : p.From 0 bytes) :
    Agrees (readSize p) (sizeDigits bytes) bytes.length := by
  rw [readSize_eq]
  exact (sumBytes_agrees points 5).filter fun size => size ≤ maxSize

theorem readSize_used (read : readSize p = some (used, size)) : 0 < used ∧ used ≤ 5 := by
  rw [readSize_eq] at read
  exact sumBytes_used (Option.filter_eq_some_iff.mp read).1

end Protobuf
