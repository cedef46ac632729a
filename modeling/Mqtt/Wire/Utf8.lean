import Mathlib.Data.List.Basic
import Mathlib.Tactic
import Mqtt.Wire.Topic

/-!
# Exactness of the UTF-8 validator

`isValidMqttString` accepts the concatenations of shortest-form encodings of
nonzero Unicode scalar values and nothing else. The reference is Lean's own
encoder, `String.utf8EncodeChar`, and its type of scalar values, `Char`.

The validator of `Topic` walks the unread suffix. `walkString` walks by index, as
the source does, with every read checked against the string.
-/

namespace Mqtt

/-- `s` spells a list of Unicode scalar values, none of them U+0000, in UTF-8. -/
def SpellsText (s : Bytes) : Prop :=
  ∃ text : List Char, '\x00' ∉ text ∧ s = text.flatMap String.utf8EncodeChar

/-! ## One encoded scalar -/

/-- A property of bytes holds of all of them once it holds of the 256 cases. -/
theorem forall_byte {P : UInt8 → Prop} (cases : ∀ n : Fin 256, P (UInt8.ofFin n)) (byte : UInt8) :
    P byte :=
  cases byte.toFin

/-- What the lead byte of a sequence with this many continuations starts at. -/
def leadMark : Nat → Nat
  | 0 => 0
  | 1 => 0xC0
  | 2 => 0xE0
  | _ => 0xF0

/-- The values the rest of such a lead byte can take. -/
def leadRoom : Nat → Nat
  | 0 => 128
  | 1 => 32
  | 2 => 16
  | _ => 8

theorem leadByte_eq (lead : UInt8) :
    leadByte lead =
      if lead.toNat < 0x80 then some (0, lead.toNat)
      else if lead.toNat < 0xC0 then none
      else if lead.toNat < 0xE0 then some (1, lead.toNat - 0xC0)
      else if lead.toNat < 0xF0 then some (2, lead.toNat - 0xE0)
      else if lead.toNat < 0xF8 then some (3, lead.toNat - 0xF0)
      else none := by
  revert lead
  exact forall_byte (by decide +kernel)

theorem leadByte_eq_some_iff {lead : UInt8} {count leading : Nat} :
    leadByte lead = some (count, leading) ↔
      count ≤ 3 ∧ leading < leadRoom count ∧ lead.toNat = leadMark count + leading := by
  have bound := lead.toNat_lt
  rw [leadByte_eq]
  constructor
  · intro found
    split_ifs at found <;> simp only [Option.some.injEq, Prod.mk.injEq] at found <;>
      obtain ⟨rfl, rfl⟩ := found <;> simp only [leadRoom, leadMark] <;> omega
  · rintro ⟨few, room, value⟩
    obtain rfl | rfl | rfl | rfl : count = 0 ∨ count = 1 ∨ count = 2 ∨ count = 3 := by omega
    all_goals
      simp only [leadRoom, leadMark] at room value
      split_ifs <;> first | omega | (simp only [Option.some.injEq, Prod.mk.injEq, true_and]; omega)

theorem continues_iff (byte : UInt8) :
    byte &&& 0xC0 = 0x80 ↔ 0x80 ≤ byte.toNat ∧ byte.toNat < 0xC0 := by
  revert byte
  exact forall_byte (by decide +kernel)

theorem lowSixBits (byte : UInt8) : (byte &&& 0x3F).toNat = byte.toNat % 64 := by
  revert byte
  exact forall_byte (by decide +kernel)

theorem toNat_ofNat_leadMark {count leading : Nat} (few : count ≤ 3)
    (room : leading < leadRoom count) :
    (UInt8.ofNat (leadMark count + leading)).toNat = leadMark count + leading := by
  rw [UInt8.toNat_ofNat', Nat.mod_eq_of_lt]
  obtain rfl | rfl | rfl | rfl : count = 0 ∨ count = 1 ∨ count = 2 ∨ count = 3 := by omega
  all_goals simp only [leadRoom, leadMark] at *; omega

/-- The last `count` bytes of the encoding of `value`, six bits in each. -/
def continuationsOf : Nat → Nat → Bytes
  | 0, _ => []
  | count + 1, value => UInt8.ofNat (value / 64 ^ count % 64 + 128) :: continuationsOf count value

/-- The continuation loop succeeds exactly on the continuation bytes of the value it reports. -/
theorem continuationBytes_eq_some_iff {count leading value : Nat} {input unread : Bytes} :
    continuationBytes count leading input = some (value, unread) ↔
      value / 64 ^ count = leading ∧ input = continuationsOf count value ++ unread := by
  induction count generalizing leading input with
  | zero => simp [continuationBytes, continuationsOf, eq_comm]
  | succ count ih =>
    cases input with
    | nil => simp [continuationBytes, continuationsOf]
    | cons byte rest =>
      have bound := byte.toNat_lt
      have shifted : value / 64 ^ (count + 1) = value / 64 ^ count / 64 := by
        rw [pow_succ, Nat.div_div_eq_div_mul]
      have spelled : byte = UInt8.ofNat (value / 64 ^ count % 64 + 128) ↔
          byte.toNat = value / 64 ^ count % 64 + 128 := by
        rw [← UInt8.toNat_inj, UInt8.toNat_ofNat', Nat.mod_eq_of_lt (by omega)]
      rw [continuationBytes, continuationsOf, List.cons_append, List.cons.injEq, spelled,
        shifted]
      split
      case isTrue stray =>
        have outside := (continues_iff byte).not.mp stray
        simp only [reduceCtorEq, false_iff]
        omega
      case isFalse continues =>
        have inside := (continues_iff byte).mp (not_not.mp continues)
        rw [ih, lowSixBits]
        constructor
        · rintro ⟨folded, rfl⟩
          exact ⟨by omega, by omega, rfl⟩
        · rintro ⟨folded, low, rfl⟩
          exact ⟨by omega, rfl⟩

/-- The number of continuation bytes in the shortest encoding of `value`. -/
def continuationCount (value : Nat) : Nat :=
  if value < 0x80 then 0 else if value < 0x800 then 1 else if value < 0x10000 then 2 else 3

/-- The encoding of a character is its lead byte followed by its continuations. -/
theorem utf8EncodeChar_eq (c : Char) :
    String.utf8EncodeChar c =
      UInt8.ofNat (leadMark (continuationCount c.toNat) +
        c.toNat / 64 ^ continuationCount c.toNat) ::
      continuationsOf (continuationCount c.toNat) c.toNat := by
  have scalar : c.toNat < 0x110000 := by
    have := c.valid
    simp only [UInt32.isValidChar, Nat.isValidChar] at this
    simp only [Char.toNat]
    omega
  have value : c.val.toNat = c.toNat := rfl
  simp only [String.utf8EncodeChar, value, continuationCount]
  split_ifs <;> first | omega | skip
  all_goals simp [continuationsOf, leadMark]
  all_goals rw [Nat.mod_eq_of_lt (by omega), UInt8.add_comm]

theorem toNat_le_kMaxCodePoint (c : Char) : c.toNat ≤ kMaxCodePoint := by
  have scalar : c.toNat < 0xD800 ∨ 0xDFFF < c.toNat ∧ c.toNat < 0x110000 := c.valid
  simp only [kMaxCodePoint]
  omega

/-- A scalar value fills the room its lead byte leaves it. -/
theorem continuationCount_room {value : Nat} (within : value ≤ kMaxCodePoint) :
    continuationCount value ≤ 3 ∧
      value / 64 ^ continuationCount value < leadRoom (continuationCount value) := by
  simp only [kMaxCodePoint] at within
  simp only [continuationCount]
  split_ifs <;> simp only [leadRoom, Nat.reducePow] <;> omega

/-- What the checks after the continuation loop leave: the shortest form, and no surrogate. -/
theorem continuationCount_eq_iff {count value : Nat} (few : count ≤ 3)
    (room : value / 64 ^ count < leadRoom count) :
    continuationCount value = count ↔ kSmallestFor count ≤ value := by
  obtain rfl | rfl | rfl | rfl : count = 0 ∨ count = 1 ∨ count = 2 ∨ count = 3 := by omega
  all_goals
    simp only [leadRoom, Nat.reducePow] at room
    simp only [continuationCount, kSmallestFor]
    constructor <;> intro <;> split_ifs at * <;> omega

theorem zero_not_mem_continuationsOf (count value : Nat) : 0 ∉ continuationsOf count value := by
  induction count with
  | zero => exact List.not_mem_nil
  | succ count ih =>
    rw [continuationsOf, List.mem_cons, not_or]
    refine ⟨fun isZero => ?_, ih⟩
    have marked := congrArg UInt8.toNat isZero
    rw [UInt8.toNat_ofNat', Nat.mod_eq_of_lt (by omega)] at marked
    exact absurd marked (by simp)

/-- Only U+0000 has a zero byte in its encoding. -/
theorem zero_not_mem_utf8EncodeChar {c : Char} (nonzero : c ≠ '\x00') :
    0 ∉ String.utf8EncodeChar c := by
  obtain ⟨few, room⟩ := continuationCount_room (toNat_le_kMaxCodePoint c)
  rw [utf8EncodeChar_eq, List.mem_cons, not_or]
  refine ⟨fun isZero => nonzero (Char.toNat_inj.mp ?_), zero_not_mem_continuationsOf _ _⟩
  have announced := leadByte_eq_some_iff.mpr
    ⟨few, room, (congrArg UInt8.toNat isZero).trans (toNat_ofNat_leadMark few room)⟩
  rw [show leadByte 0 = some (0, 0) from rfl, Option.some.injEq, Prod.mk.injEq] at announced
  rw [← announced.1, pow_zero, Nat.div_one] at announced
  exact announced.2.symm

/-! ## The loop -/

/-- A round of the validator's loop takes one nonzero scalar off the front. -/
theorem mqttStringLoop_cons_iff {rounds : Nat} {lead : UInt8} {rest : Bytes} :
    mqttStringLoop (rounds + 1) (lead :: rest) = true ↔
      ∃ c unread, c ≠ '\x00' ∧ lead :: rest = String.utf8EncodeChar c ++ unread ∧
        mqttStringLoop rounds unread = true := by
  constructor
  · intro accepted
    rw [mqttStringLoop] at accepted
    split_ifs at accepted with zero
    split at accepted
    · cases accepted
    next count leading announced =>
    split at accepted
    · cases accepted
    next value unread folded =>
    split_ifs at accepted with overlong surrogate beyond
    obtain ⟨few, room, spelledLead⟩ := leadByte_eq_some_iff.mp announced
    obtain ⟨rfl, rfl⟩ := continuationBytes_eq_some_iff.mp folded
    have shortest := (continuationCount_eq_iff few room).mpr (not_lt.mp overlong)
    have scalar : value.isValidChar := by
      simp only [kSurrogateFirst, kSurrogateLast, kMaxCodePoint] at surrogate beyond
      simp only [Nat.isValidChar]
      omega
    have valued : (Char.ofNatAux value scalar).toNat = value := rfl
    refine ⟨Char.ofNatAux value scalar, unread, ?_, ?_, accepted⟩
    · intro isZero
      have nothing : value = 0 := valued.symm.trans (congrArg Char.toNat isZero)
      rw [nothing] at shortest spelledLead
      subst shortest
      exact zero (UInt8.toNat_inj.mp (by simpa [continuationCount, leadMark] using spelledLead))
    · rw [utf8EncodeChar_eq, valued, shortest, ← spelledLead, UInt8.ofNat_toNat]
      rfl
  · rintro ⟨c, unread, nonzero, spelled, accepted⟩
    have scalar : c.toNat < 0xD800 ∨ 0xDFFF < c.toNat ∧ c.toNat < 0x110000 := c.valid
    obtain ⟨few, room⟩ := continuationCount_room (toNat_le_kMaxCodePoint c)
    have notZero : 0 ≠ lead := by
      rintro rfl
      refine zero_not_mem_utf8EncodeChar nonzero ?_
      rw [utf8EncodeChar_eq, List.cons_append, List.cons.injEq] at spelled
      rw [utf8EncodeChar_eq, spelled.1]
      exact List.mem_cons_self
    have longEnough := (continuationCount_eq_iff few room).mp rfl
    rw [utf8EncodeChar_eq, List.cons_append, List.cons.injEq] at spelled
    have spelledLead := (congrArg UInt8.toNat spelled.1).trans (toNat_ofNat_leadMark few room)
    have announced := leadByte_eq_some_iff.mpr ⟨few, room, spelledLead⟩
    have folded := continuationBytes_eq_some_iff.mpr ⟨rfl, spelled.2⟩
    rw [mqttStringLoop, if_neg notZero.symm]
    simp only [announced, folded]
    rw [if_neg (by omega), if_neg, if_neg]
    · exact accepted
    all_goals simp only [kSurrogateFirst, kSurrogateLast, kMaxCodePoint]; omega

/-- The rounds granted to the loop do not matter once there are as many as bytes. -/
theorem mqttStringLoop_iff {rounds : Nat} {s : Bytes} (enough : s.length ≤ rounds) :
    mqttStringLoop rounds s = true ↔ SpellsText s := by
  induction rounds generalizing s with
  | zero =>
    obtain rfl := List.length_eq_zero_iff.mp (Nat.le_zero.mp enough)
    exact iff_of_true rfl ⟨[], by simp, rfl⟩
  | succ rounds ih =>
    cases s with
    | nil => exact iff_of_true rfl ⟨[], by simp, rfl⟩
    | cons lead rest =>
      rw [mqttStringLoop_cons_iff]
      constructor
      · rintro ⟨c, unread, nonzero, spelled, accepted⟩
        have shorter : unread.length ≤ rounds := by
          have sizes := congrArg List.length spelled
          rw [utf8EncodeChar_eq] at sizes
          simp only [List.cons_append, List.length_cons, List.length_append] at sizes enough
          omega
        obtain ⟨text, clean, rfl⟩ := (ih shorter).mp accepted
        exact ⟨c :: text, by simp [clean, nonzero.symm], spelled⟩
      · rintro ⟨text, clean, spelled⟩
        cases text with
        | nil => cases spelled
        | cons c text =>
          rw [List.mem_cons, not_or] at clean
          rw [List.flatMap_cons] at spelled
          have shorter : (text.flatMap String.utf8EncodeChar).length ≤ rounds := by
            have sizes := congrArg List.length spelled
            rw [utf8EncodeChar_eq] at sizes
            simp only [List.cons_append, List.length_cons, List.length_append] at sizes enough
            omega
          exact ⟨c, _, Ne.symm clean.1, spelled, (ih shorter).mpr ⟨text, clean.2, rfl⟩⟩

theorem SpellsText.zero_not_mem {s : Bytes} (spells : SpellsText s) : 0 ∉ s := by
  obtain ⟨text, clean, rfl⟩ := spells
  rw [List.mem_flatMap]
  rintro ⟨c, member, zero⟩
  refine zero_not_mem_utf8EncodeChar (fun isZero => clean ?_) zero
  rwa [← isZero]

theorem isValidMqttString_iff {s : Bytes} : isValidMqttString s = true ↔ SpellsText s :=
  mqttStringLoop_iff le_rfl

/-! ## The walk by index -/

/-- `byte_at`; `none` is a read outside the string. -/
def byteAt (s : Bytes) (i : Nat) : Option UInt8 := s[i]?

/-- The continuation loop from index `i` on. The outer `none` is a read outside the
string, the inner one a byte that does not continue. -/
def foldContinuations (s : Bytes) : Nat → Nat → Nat → Option (Option Nat)
  | 0, _, codePoint => some (some codePoint)
  | count + 1, i, codePoint =>
    match byteAt s i with
    | none => none
    | some cont =>
      if cont &&& 0xC0 ≠ 0x80 then some none
      else foldContinuations s count (i + 1) (codePoint * 64 + (cont &&& 0x3F).toNat)

/-- The validator as the source runs it, from index `i` on. A result is `none` when
the walk read outside the string or ran out of rounds. -/
def walkString (s : Bytes) : Nat → Nat → Option Bool
  | 0, _ => none
  | rounds + 1, i =>
    if s.length ≤ i then some true
    else
      match byteAt s i with
      | none => none
      | some lead =>
        if lead = 0 then some false
        else
          match leadByte lead with
          | none => some false
          | some (continuations, leading) =>
            if s.length - i ≤ continuations then some false
            else
              match foldContinuations s continuations (i + 1) leading with
              | none => none
              | some none => some false
              | some (some codePoint) =>
                if codePoint < kSmallestFor continuations then some false
                else if kSurrogateFirst ≤ codePoint ∧ codePoint ≤ kSurrogateLast then some false
                else if codePoint > kMaxCodePoint then some false
                else walkString s rounds (i + (continuations + 1))

/-- With the bytes it needs in the string, the continuation loop reads no others. -/
theorem foldContinuations_eq {s : Bytes} {count i : Nat} (codePoint : Nat)
    (within : i + count ≤ s.length) :
    (∃ value, foldContinuations s count i codePoint = some (some value) ∧
      continuationBytes count codePoint (s.drop i) = some (value, s.drop (i + count))) ∨
    foldContinuations s count i codePoint = some none ∧
      continuationBytes count codePoint (s.drop i) = none := by
  induction count generalizing i codePoint with
  | zero => exact .inl ⟨codePoint, rfl, rfl⟩
  | succ count ih =>
    have inside : i < s.length := by omega
    rw [foldContinuations, byteAt, List.getElem?_eq_getElem inside,
      List.drop_eq_getElem_cons inside, continuationBytes]
    dsimp only
    split
    · exact .inr ⟨rfl, rfl⟩
    · rw [show i + (count + 1) = i + 1 + count by omega]
      exact ih _ (by omega)

/-- A string too short for the sequence its lead byte announces is not continued. -/
theorem continuationBytes_short {count codePoint : Nat} {input : Bytes}
    (short : input.length < count) : continuationBytes count codePoint input = none := by
  induction count generalizing codePoint input with
  | zero => cases short
  | succ count ih =>
    cases input with
    | nil => rfl
    | cons byte rest =>
      rw [continuationBytes]
      split
      · rfl
      · exact ih (Nat.lt_of_succ_lt_succ short)

/-- The walk by index and the walk over the suffix agree, round by round. -/
theorem walkString_eq {s : Bytes} {rounds i : Nat} (enough : s.length - i ≤ rounds) :
    walkString s (rounds + 1) i = some (mqttStringLoop rounds (s.drop i)) := by
  induction rounds generalizing i with
  | zero =>
    have ended : s.length ≤ i := by omega
    rw [walkString, if_pos ended, List.drop_eq_nil_of_le ended]
    rfl
  | succ rounds ih =>
    rw [walkString]
    split
    case isTrue ended =>
      rw [List.drop_eq_nil_of_le ended]
      rfl
    case isFalse more =>
      have inside : i < s.length := by omega
      rw [byteAt, List.getElem?_eq_getElem inside, List.drop_eq_getElem_cons inside,
        mqttStringLoop]
      dsimp only
      split
      · rfl
      cases leadByte s[i] with
      | none => rfl
      | some announced =>
        obtain ⟨count, leading⟩ := announced
        dsimp only
        split
        case isTrue truncated =>
          rw [continuationBytes_short (by rw [List.length_drop]; omega)]
        case isFalse complete =>
          obtain ⟨value, folded, same⟩ | ⟨folded, same⟩ :=
            foldContinuations_eq leading (show i + 1 + count ≤ s.length by omega)
          · rw [folded, same]
            dsimp only
            rw [ih (by omega), show i + (count + 1) = i + 1 + count by omega]
            split_ifs <;> rfl
          · rw [folded, same]

/-- A character other than U+0000 is a scalar value between U+0001 and U+10FFFF. -/
theorem ne_zero_iff_scalar (c : Char) :
    c ≠ '\x00' ↔ 1 ≤ c.toNat ∧ c.toNat ≤ 0x10FFFF ∧
      ¬ (0xD800 ≤ c.toNat ∧ c.toNat ≤ 0xDFFF) := by
  have scalar : c.toNat < 0xD800 ∨ 0xDFFF < c.toNat ∧ c.toNat < 0x110000 := c.valid
  rw [Ne, ← Char.toNat_inj, show '\x00'.toNat = 0 from rfl]
  omega

/-- The validator accepts exactly the concatenations of shortest-form encodings of
nonzero scalar values, and every byte it reads lies in the string. -/
theorem isValidMqttString_exact (s : Bytes) :
    (isValidMqttString s = true ↔
      ∃ text : List Char,
        (∀ c ∈ text, 1 ≤ c.toNat ∧ c.toNat ≤ 0x10FFFF ∧
          ¬ (0xD800 ≤ c.toNat ∧ c.toNat ≤ 0xDFFF)) ∧
        s = text.flatMap String.utf8EncodeChar) ∧
    walkString s (s.length + 1) 0 = some (isValidMqttString s) := by
  refine ⟨?_, walkString_eq (Nat.sub_le _ _)⟩
  rw [isValidMqttString_iff]
  simp only [SpellsText, ← ne_zero_iff_scalar, List.forall_mem_ne']

end Mqtt
