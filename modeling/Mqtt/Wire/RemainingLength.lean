import Mqtt.Wire.RoundTrip

/-!
# The remaining length is read exactly

The encoder's loop, the decoder's loop and the table of sizes describe one format.
The decoder accepts what the encoder writes and nothing else, asks for more exactly
while the bytes can still become such a spelling, and refuses every other input. A
header that has been decided is therefore not decided differently when more of the
stream has come.
-/

namespace Mqtt

/-- `written` is what the encoder puts into a span with room for `value`. -/
def Spells (written : Bytes) (value : Nat) : Prop := ∃ room, vbiEncode room value = .ok written

theorem spells_iff {written : Bytes} {value : Nat} :
    Spells written value ↔ value ≤ kMaxRemainingLength ∧ written = vbiLoop kMaxVbiBytes value := by
  constructor
  · rintro ⟨room, encoded⟩
    rw [vbiEncode] at encoded
    split_ifs at encoded with large small
    injection encoded with same
    exact ⟨Nat.le_of_not_lt large, same.symm⟩
  · rintro ⟨within, rfl⟩
    exact ⟨kMaxVbiBytes, vbiEncode_ok within⟩

/-- What the encoder writes is read back, whatever follows it. -/
theorem Spells.vbiDecode_append {written : Bytes} {value : Nat} (spells : Spells written value)
    (rest : Bytes) :
    vbiDecode (written ++ rest) = .ok { value := value, bytes := written.length } := by
  obtain ⟨within, rfl⟩ := spells_iff.mp spells
  rw [vbiDecode_vbiLoop within, length_vbiLoop within]

/-- What the decoder accepts stands at the front of its input, spelled as the encoder
spells it. -/
theorem spells_of_vbiDecode {input : Bytes} {decoded : VbiDecode}
    (found : vbiDecode input = .ok decoded) :
    decoded.bytes ≤ input.length ∧ Spells (input.take decoded.bytes) decoded.value ∧
      decoded.value ≤ kMaxRemainingLength ∧ decoded.bytes = vbiSize decoded.value := by
  have within := (vbiDecodeLoop_ok found).2
  obtain ⟨rest, spelled, size⟩ := vbiDecode_spelling found
  have length : (vbiLoop kMaxVbiBytes decoded.value).length = decoded.bytes := by
    rw [length_vbiLoop within, size]
  refine ⟨?_, spells_iff.mpr ⟨within, ?_⟩, within, size⟩
  · rw [spelled, List.length_append, length]
    exact Nat.le_add_right _ _
  · rw [spelled, ← length, List.take_left]

/-! ## Spellings that are cut off -/

/-- Bytes that leave the decoder waiting are digits with more to come, and a last digit
`1` completes them. -/
theorem vbiDecodeLoop_waiting {left taken acc multiplier : Nat} {input : Bytes}
    (waiting : vbiDecodeLoop left taken acc multiplier input = .error .incomplete) :
    ∃ low, low < 128 ^ input.length ∧
      input ++ [1] = vbiDigits input.length (low + 128 ^ input.length) := by
  induction left generalizing taken acc multiplier input with
  | zero => cases waiting
  | succ left ih =>
    cases input with
    | nil => exact ⟨0, by simp, rfl⟩
    | cons byte rest =>
      obtain ⟨digit, spelled⟩ := byte_eq_digit byte
      rw [vbiDecodeLoop] at waiting
      split at waiting
      case isTrue => split at waiting <;> cases waiting
      case isFalse more =>
        rw [if_neg more] at spelled
        obtain ⟨low, below, digits⟩ := ih waiting
        refine ⟨(byte &&& 0x7F).toNat + 128 * low, ?_, ?_⟩
        · rw [List.length_cons, pow_succ]
          omega
        · have whole : (byte &&& 0x7F).toNat + 128 * low + 128 ^ (rest.length + 1) =
              (byte &&& 0x7F).toNat + 128 * (low + 128 ^ rest.length) := by
            ring
          rw [List.length_cons, whole, vbiDigits, Nat.add_mul_mod_self_left,
            Nat.mod_eq_of_lt digit, ← spelled, Nat.add_mul_div_left _ _ (by decide),
            Nat.div_eq_of_lt digit, Nat.zero_add, List.cons_append, digits]

/-- Bytes that leave the decoder waiting can become a spelling. -/
theorem exists_spelling_of_waiting {input : Bytes}
    (waiting : vbiDecode input = .error .incomplete) : ∃ value, Spells (input ++ [1]) value := by
  have few : input.length < kMaxVbiBytes := vbiDecodeLoop_incomplete waiting
  obtain ⟨low, below, digits⟩ := vbiDecodeLoop_waiting waiting
  have high : low + 128 ^ input.length < 128 ^ (input.length + 1) := by
    rw [pow_succ]
    omega
  have most : 128 ^ (input.length + 1) ≤ 128 ^ kMaxVbiBytes :=
    Nat.pow_le_pow_right (by decide) few
  refine ⟨low + 128 ^ input.length, spells_iff.mpr ⟨?_, ?_⟩⟩
  · have bound : 128 ^ kMaxVbiBytes = kMaxRemainingLength + 1 := by decide
    omega
  · rw [digits, vbiLoop_eq_vbiDigits few (.inr (Nat.le_add_left _ _)) high]

/-- A spelling that is cut off leaves the decoder waiting. -/
theorem waiting_of_cut {input written : Bytes} {value : Nat} (spells : Spells written value)
    (cut : input <+: written) (short : input ≠ written) : vbiDecode input = .error .incomplete := by
  obtain ⟨more, rfl⟩ := cut
  by_contra decided
  have whole := spells.vbiDecode_append []
  rw [List.append_nil, vbiDecode, vbiDecodeLoop_append decided] at whole
  have within := (spells_of_vbiDecode whole).1
  simp only [List.length_append] at within
  exact short (by simp [List.eq_nil_of_length_eq_zero (show more.length = 0 by omega)])

/-- How the decoder divides its inputs, and what that means for the header in front of a
stream. -/
structure ReadsCanonical (input : Bytes) : Prop where
  /-- What is accepted is a spelling at the front of the input. -/
  accepts : ∀ value size, vbiDecode input = .ok { value := value, bytes := size } ↔
    size ≤ input.length ∧ Spells (input.take size) value
  /-- The value is in range, and the size is the one the table gives. -/
  sized : ∀ value size, vbiDecode input = .ok { value := value, bytes := size } →
    value ≤ 268435455 ∧ size = vbiSize value
  /-- More is asked for while the input is a proper part of a spelling. -/
  waits : vbiDecode input = .error .incomplete ↔
    ∃ written value, Spells written value ∧ input <+: written ∧ input ≠ written
  /-- Every other input is malformed. -/
  refuses : (∀ value size, ¬ (size ≤ input.length ∧ Spells (input.take size) value)) →
    (¬ ∃ written value, Spells written value ∧ input <+: written ∧ input ≠ written) →
    vbiDecode input = .error .malformedPacket
  /-- A header that has been decided stays as it is, whatever comes behind it. -/
  stable : peekHeader input ≠ .error .incomplete →
    ∀ more, peekHeader (input ++ more) = peekHeader input

theorem vbiDecode_accepts_iff (input : Bytes) (value size : Nat) :
    vbiDecode input = .ok { value := value, bytes := size } ↔
      size ≤ input.length ∧ Spells (input.take size) value := by
  constructor
  · intro found
    obtain ⟨within, spells, _, _⟩ := spells_of_vbiDecode found
    exact ⟨within, spells⟩
  · rintro ⟨within, spells⟩
    have whole := spells.vbiDecode_append (input.drop size)
    rwa [List.take_append_drop, List.length_take, Nat.min_eq_left within] at whole

theorem vbiDecode_waits_iff (input : Bytes) :
    vbiDecode input = .error .incomplete ↔
      ∃ written value, Spells written value ∧ input <+: written ∧ input ≠ written := by
  constructor
  · intro waiting
    obtain ⟨value, spells⟩ := exists_spelling_of_waiting waiting
    exact ⟨input ++ [1], value, spells, List.prefix_append input [1], by simp⟩
  · rintro ⟨written, value, spells, cut, short⟩
    exact waiting_of_cut spells cut short

/-- The decoder accepts exactly the canonical spellings, for every input. -/
theorem reads_canonical (input : Bytes) : ReadsCanonical input where
  accepts := vbiDecode_accepts_iff input
  sized := fun _ _ found => (spells_of_vbiDecode found).2.2
  waits := vbiDecode_waits_iff input
  refuses := by
    intro noSpelling notCut
    cases decoded : vbiDecode input with
    | ok vbi =>
      have found := (vbiDecode_accepts_iff input vbi.value vbi.bytes).mp decoded
      exact absurd found (noSpelling vbi.value vbi.bytes)
    | error error =>
      rcases vbiDecodeLoop_error decoded with rfl | rfl
      · rfl
      · exact absurd ((vbiDecode_waits_iff input).mp decoded) notCut
  stable := peekHeader_stable

end Mqtt
