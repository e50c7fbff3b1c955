import CacheFill.Proofs.Text.Numerals
import CacheFill.Proofs.Time.Text
import CacheFill.Wire.Message

/-!
The parts of records are read from the JSON values that were made of them: identifiers, load types,
points in time, attempt numbers, errors and statuses, in tagged records and by themselves.
-/

set_option autoImplicit false

namespace CacheFill

namespace TaskId

theorem ofHex?_fixed (id : TaskId) :
    ofHex? ((Digits.fixed 16 32 id.value.toNat).map Nat.digitChar) = some id := by
  have small : ∀ digit ∈ Digits.fixed 16 32 id.value.toNat, digit < 16 := fun _ =>
    Digits.lt_of_mem_fixed (by decide)
  have bound : id.value.toNat < 16 ^ 32 := id.value.isLt
  rw [ofHex?, if_pos (by rw [List.length_map, Digits.length_fixed]), Digits.mapM_hexadecimal? small,
    Option.map_some, Digits.value_fixed, Nat.mod_eq_of_lt bound, BitVec.ofNat_toNat, BitVec.setWidth_eq]

/-- The hyphenated form is taken apart where it was put together. -/
theorem ofHyphenated?_groups {a b c d e : List Char} (ha : a.length = 8) (hb : b.length = 4)
    (hc : c.length = 4) (hd : d.length = 4) (he : e.length = 12) :
    ofHyphenated? (a ++ '-' :: (b ++ '-' :: (c ++ '-' :: (d ++ '-' :: e)))) =
      ofHex? (a ++ b ++ c ++ d ++ e) := by
  rw [ofHyphenated?, if_pos]
  · simp (disch := omega) [List.drop_append, List.drop_eq_nil_of_le, ha, hb, hc,
      hd]
  · simp [ha, hb, hc, hd, he]

theorem parseChars?_renderChars (id : TaskId) : parseChars? id.renderChars = some id := by
  have shift (low : Nat) : id.value.toNat >>> (4 * low) = id.value.toNat / 16 ^ low := by
    rw [Nat.shiftRight_eq_div_pow, Nat.pow_mul]
  obtain ⟨a, isA⟩ : ∃ a, a = Digits.render 16 8 (id.value.toNat >>> 96) := ⟨_, rfl⟩
  obtain ⟨b, isB⟩ : ∃ b, b = Digits.render 16 4 (id.value.toNat >>> 80) := ⟨_, rfl⟩
  obtain ⟨c, isC⟩ : ∃ c, c = Digits.render 16 4 (id.value.toNat >>> 64) := ⟨_, rfl⟩
  obtain ⟨d, isD⟩ : ∃ d, d = Digits.render 16 4 (id.value.toNat >>> 48) := ⟨_, rfl⟩
  obtain ⟨e, isE⟩ : ∃ e, e = Digits.render 16 12 (id.value.toNat >>> 0) := ⟨_, rfl⟩
  have text : id.renderChars = a ++ '-' :: (b ++ '-' :: (c ++ '-' :: (d ++ '-' :: e))) := by
    rw [isA, isB, isC, isD, isE]
    simp [renderChars, groups, List.intercalate, List.intersperse]
  have digits : a ++ b ++ c ++ d ++ e =
      (Digits.fixed 16 32 id.value.toNat).map Nat.digitChar := by
    rw [isA, isB, isC, isD, isE, shift 24, shift 20, shift 16, shift 12, shift 0,
      Digits.fixed_append 16 8 24, Digits.fixed_append 16 4 20, Digits.fixed_append 16 4 16,
      Digits.fixed_append 16 4 12]
    simp [Digits.render]
  have ha : a.length = 8 := isA ▸ Digits.length_render ..
  have hb : b.length = 4 := isB ▸ Digits.length_render ..
  have hc : c.length = 4 := isC ▸ Digits.length_render ..
  have hd : d.length = 4 := isD ▸ Digits.length_render ..
  have he : e.length = 12 := isE ▸ Digits.length_render ..
  have length : (a ++ '-' :: (b ++ '-' :: (c ++ '-' :: (d ++ '-' :: e)))).length = 36 := by
    simp [ha, hb, hc, hd, he]
  rw [text, parseChars?, length, if_neg (by decide), if_neg (by decide), if_neg]
  · rw [ofHyphenated?_groups ha hb hc hd he, digits, ofHex?_fixed]
  · intro urn
    have ninth : urnMark[8]? = some ':' := rfl
    rw [← urn] at ninth
    simp [ha] at ninth

theorem ofJson?_toJson (id : TaskId) : ofJson? id.toJson = some id := by
  rw [toJson, ofJson?, Json.string?, Option.bind_some, parse?, render, String.toList_ofList,
    parseChars?_renderChars]

end TaskId

theorem LoadType.ofName_name (type : LoadType) : ofName type.name = .ok type := by
  obtain ⟨name, nonempty, allowed⟩ := type
  unfold ofName
  rw [dif_neg nonempty]
  split
  next c found =>
    have mem := List.mem_of_find?_eq_some found
    have unsupported := List.find?_some found
    rw [List.all_eq_true.mp allowed c mem] at unsupported
    cases unsupported
  next => rfl

theorem LoadType.ofJson?_toJson (type : LoadType) : ofJson? type.toJson = some type := by
  rw [toJson, ofJson?, Json.string?, Option.bind_some, ofName_name]
  rfl

theorem Instant.ofJson?_toJson {instant : Instant} (placed : instant.IsPlaced) :
    ofJson? instant.toJson = some instant := by
  rw [toJson, ofJson?, Json.string?, Option.bind_some, parse?_render placed]

theorem Json.below?_nat {limit n : Nat} (fits : n < limit) : below? limit (.nat n) = some n :=
  if_pos fits

theorem Json.uint32?_nat (n : UInt32) : uint32? (.nat n.toNat) = some n := by
  rw [uint32?, below?_nat n.toNat_lt, Option.map_some, UInt32.ofNat_toNat]

theorem ErrorClass.read?_toJson (isPart : Bool) (kind : ErrorClass) :
    read? isPart kind.toJson = some kind := by
  cases kind <;> rfl

theorem TaskError.read?_toJson (isPart : Bool) (error : TaskError) :
    read? isPart error.toJson = some error := by
  simp [read?, toJson, Json.fields?, Json.occurrences, Json.Fields.required, List.lookup_cons,
    ErrorClass.read?_toJson, Json.string?]

/-- All points in time in a status can be written. -/
def Status.IsPlaced : Status → Prop
  | .scheduled status => status.scheduledAt.IsPlaced
  | .waiting status => status.retryAt.IsPlaced
  | .failed status => status.failedAt.IsPlaced
  | .loaded status => status.loadedAt.IsPlaced

theorem Scheduled.ofJson?_members {status : Scheduled} (placed : status.scheduledAt.IsPlaced) :
    ofJson? (.object status.members) = some status := by
  simp [ofJson?, members, Json.fields?, Json.occurrences, Json.Fields.required, List.lookup_cons,
    Instant.ofJson?_toJson placed, Json.uint32?_nat]

theorem Waiting.ofJson?_members {status : Waiting} (placed : status.retryAt.IsPlaced) :
    ofJson? (.object status.members) = some status := by
  simp [ofJson?, members, Json.fields?, Json.occurrences, Json.Fields.required, List.lookup_cons,
    Instant.ofJson?_toJson placed, Json.uint32?_nat, TaskError.read?_toJson]

theorem Failed.ofJson?_members {status : Failed} (placed : status.failedAt.IsPlaced) :
    ofJson? (.object status.members) = some status := by
  simp [ofJson?, members, Json.fields?, Json.occurrences, Json.Fields.required, List.lookup_cons,
    Instant.ofJson?_toJson placed, Json.uint32?_nat, TaskError.read?_toJson]

theorem Loaded.ofJson?_members {status : Loaded} (placed : status.loadedAt.IsPlaced) :
    ofJson? (.object status.members) = some status := by
  simp [ofJson?, members, Json.fields?, Json.occurrences, Json.Fields.required, List.lookup_cons,
    Instant.ofJson?_toJson placed, Json.uint32?_nat]

theorem Status.tagged?_toJson (status : Status) :
    status.toJson.tagged? "state" = some (status.state.toJson, .object status.members) := by
  cases status <;>
    simp [toJson, members, Json.tagged?, Json.occurrences, Scheduled.members, Waiting.members,
      Failed.members, Loaded.members, Json.isReadable, Json.haveReadable,
      TaskState.toJson, Instant.toJson, Json.nat, Json.int, TaskError.toJson, ErrorClass.toJson]

theorem TaskState.ofTag?_toJson (isPart : Bool) (state : TaskState) :
    ofTag? isPart state.toJson = some state := by
  cases state <;> rfl

theorem Status.read?_toJson (isPart : Bool) {status : Status} (placed : status.IsPlaced) :
    read? isPart status.toJson = some status := by
  unfold read?
  simp only [tagged?_toJson, TaskState.ofTag?_toJson, Option.bind_eq_bind, Option.bind_some]
  cases status with
  | scheduled status => exact congrArg (Option.map scheduled) (Scheduled.ofJson?_members placed)
  | waiting status => exact congrArg (Option.map waiting) (Waiting.ofJson?_members placed)
  | failed status => exact congrArg (Option.map failed) (Failed.ofJson?_members placed)
  | loaded status => exact congrArg (Option.map loaded) (Loaded.ofJson?_members placed)

theorem Pending.read?_toJson (isPart : Bool) {pending : Pending}
    (placed : pending.toStatus.IsPlaced) : read? isPart pending.toJson = some pending := by
  rw [read?, toJson, Status.read?_toJson isPart placed]
  cases pending <;> rfl

end CacheFill
