import CacheFill.Text.Utf8
import Mathlib.Tactic.Common

/-!
Text that is encoded as UTF-8 is decoded to itself.
-/

set_option autoImplicit false

namespace CacheFill.Utf8

/-- The lead byte of a character opens it when this many bytes follow, the first of them as given. -/
def Opens (lead followers bits second : Nat) : Prop :=
  ∃ found : Lead, lead? lead = some found ∧ found.followers = followers ∧ found.bits = bits ∧
    found.low ≤ second ∧ second ≤ found.high

theorem opens_two (code : Nat) (low : 0x80 ≤ code) (high : code < 0x800) :
    Opens (code / 64 % 32 + 192) 1 (code / 64) (code % 64 + 128) := by
  unfold Opens lead?
  rw [if_pos (by omega)]
  exact ⟨_, rfl, rfl, by dsimp only; omega, by dsimp only; omega, by dsimp only; omega⟩

theorem opens_three (code : Nat) (low : 0x800 ≤ code) (high : code < 0x10000)
    (valid : code < 0xd800 ∨ 0xdfff < code) :
    Opens (code / 4096 % 16 + 224) 2 (code / 4096) (code / 64 % 64 + 128) := by
  unfold Opens lead?
  split_ifs <;>
    first
      | omega
      | exact ⟨_, rfl, rfl, by dsimp only; omega, by dsimp only; omega, by dsimp only; omega⟩

theorem opens_four (code : Nat) (low : 0x10000 ≤ code) (high : code < 0x110000) :
    Opens (code / 262144 % 8 + 240) 3 (code / 262144) (code / 4096 % 64 + 128) := by
  unfold Opens lead?
  split_ifs <;>
    first
      | omega
      | exact ⟨_, rfl, rfl, by dsimp only; omega, by dsimp only; omega, by dsimp only; omega⟩

theorem decodeFrom_ascii {code : Nat} (small : code < 0x80) (rest : List Nat) :
    decodeFrom none (code :: rest) = Char.ofNat code :: decodeFrom none rest := by
  simp [decodeFrom, step, start, small]

theorem decodeFrom_last {bits low high byte : Nat} (above : low ≤ byte) (below : byte ≤ high)
    (rest : List Nat) :
    decodeFrom (some ⟨1, bits, low, high⟩) (byte :: rest) =
      Char.ofNat (bits * 64 + (byte - 0x80)) :: decodeFrom none rest := by
  simp [decodeFrom, step, above, below]

theorem decodeFrom_more {left bits low high byte : Nat} (above : low ≤ byte) (below : byte ≤ high)
    (rest : List Nat) :
    decodeFrom (some ⟨left + 2, bits, low, high⟩) (byte :: rest) =
      decodeFrom (some ⟨left + 1, bits * 64 + (byte - 0x80), 0x80, 0xbf⟩) rest := by
  simp [decodeFrom, step, above, below]

theorem decodeFrom_lead {lead followers bits second : Nat} (opens : Opens lead followers bits second)
    (rest : List Nat) :
    ∃ low high, low ≤ second ∧ second ≤ high ∧
      decodeFrom none (lead :: rest) = decodeFrom (some ⟨followers, bits, low, high⟩) rest := by
  obtain ⟨found, isLead, rfl, rfl, above, below⟩ := opens
  have large : ¬ lead < 0x80 := by
    intro small
    rw [lead?] at isLead
    split_ifs at isLead <;> omega
  refine ⟨found.low, found.high, above, below, ?_⟩
  simp [decodeFrom, step, start, large, isLead]

theorem decodeFrom_encoded (c : Char) (rest : List Nat) :
    decodeFrom none ((String.utf8EncodeChar c).map UInt8.toNat ++ rest) =
      c :: decodeFrom none rest := by
  have valid : c.val.toNat < 0xd800 ∨ 0xdfff < c.val.toNat ∧ c.val.toNat < 0x110000 := c.valid
  have same : Char.ofNat c.val.toNat = c := Char.ofNat_toNat c
  unfold String.utf8EncodeChar
  dsimp only
  generalize c.val.toNat = code at *
  subst same
  have byte {n : Nat} (small : n < 256) : (UInt8.ofNat n).toNat = n :=
    UInt8.toNat_ofNat_of_lt' small
  split_ifs with one two three
  · rw [List.map_singleton, byte (by omega), List.singleton_append]
    exact decodeFrom_ascii (by omega) rest
  · obtain ⟨low, high, above, below, opened⟩ := decodeFrom_lead
      (opens_two code (by omega) (by omega)) ((code % 64 + 128) :: rest)
    have total : code / 64 * 64 + (code % 64 + 128 - 0x80) = code := by omega
    rw [List.map_cons, List.map_singleton, byte (by omega), byte (by omega), List.cons_append,
      List.singleton_append, opened, decodeFrom_last above below, total]
  · obtain ⟨low, high, above, below, opened⟩ := decodeFrom_lead
      (opens_three code (by omega) (by omega) (by omega))
      ((code / 64 % 64 + 128) :: (code % 64 + 128) :: rest)
    have total : (code / 4096 * 64 + (code / 64 % 64 + 128 - 0x80)) * 64 +
        (code % 64 + 128 - 0x80) = code := by omega
    rw [List.map_cons, List.map_cons, List.map_singleton, byte (by omega), byte (by omega),
      byte (by omega), List.cons_append, List.cons_append, List.singleton_append, opened,
      decodeFrom_more above below, decodeFrom_last (by omega) (by omega), total]
  · obtain ⟨low, high, above, below, opened⟩ := decodeFrom_lead
      (opens_four code (by omega) (by omega))
      ((code / 4096 % 64 + 128) :: (code / 64 % 64 + 128) :: (code % 64 + 128) :: rest)
    have total : ((code / 262144 * 64 + (code / 4096 % 64 + 128 - 0x80)) * 64 +
        (code / 64 % 64 + 128 - 0x80)) * 64 + (code % 64 + 128 - 0x80) = code := by omega
    rw [List.map_cons, List.map_cons, List.map_cons, List.map_singleton, byte (by omega),
      byte (by omega), byte (by omega), byte (by omega), List.cons_append, List.cons_append,
      List.cons_append, List.singleton_append, opened, decodeFrom_more above below,
      decodeFrom_more (by omega) (by omega), decodeFrom_last (by omega) (by omega), total]

theorem toList_loop (bytes : ByteArray) (left index : Nat) (taken : List UInt8)
    (size : index + left = bytes.size) :
    ByteArray.toList.loop bytes index taken = taken.reverse ++ bytes.data.toList.drop index := by
  induction left generalizing index taken with
  | zero =>
      rw [ByteArray.toList.loop, if_neg (by omega), List.drop_eq_nil_of_le, List.append_nil]
      change bytes.size ≤ index
      omega
  | succ left ih =>
      have inside : index < bytes.data.toList.length := by
        change index < bytes.size
        omega
      rw [ByteArray.toList.loop, if_pos (by omega), ih (index + 1) _ (by omega),
        List.drop_eq_getElem_cons inside, List.reverse_cons, List.append_assoc,
        List.singleton_append]
      congr 2
      change bytes.data[index]! = _
      rw [getElem!_pos bytes.data index inside, Array.getElem_toList]

theorem toList_toUTF8 (text : String) :
    text.toUTF8.toList = text.toList.flatMap String.utf8EncodeChar := by
  have encoded : text.toUTF8 = text.toList.utf8Encode := by
    rw [← String.toByteArray_ofList, String.ofList_toList]
    rfl
  rw [ByteArray.toList, toList_loop _ _ 0 [] (Nat.zero_add _), encoded, List.utf8Encode,
    List.toList_data_toByteArray]
  rfl

theorem decode_toUTF8 (text : String) : decode text.toUTF8.toList = text := by
  have all (characters : List Char) : decodeFrom none
      ((characters.flatMap String.utf8EncodeChar).map UInt8.toNat) = characters := by
    induction characters with
    | nil => rfl
    | cons c rest ih => rw [List.flatMap_cons, List.map_append, decodeFrom_encoded, ih]
  rw [decode, toList_toUTF8, all, String.ofList_toList]

end CacheFill.Utf8
