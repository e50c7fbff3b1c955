import CacheFill.Proofs.Json.Reading
import CacheFill.Proofs.Text.Utf8
import CacheFill.Proofs.Wire.Parts
import CacheFill.Stream.Bus
import CacheFill.Wire.Cache

/-!
What is written is read back: messages, statuses, cached values and cache entries from their JSON
text, and messages from the entries of a stream that they are published to. The exception are values
with data that nest deeper than a reader follows. Main statement: `lossless`.
-/

set_option autoImplicit false

namespace CacheFill

namespace Json

/-- What reading the text of a record gives. -/
def reread {α : Type} (toJson : α → Json) (ofJson? : Json → Option α) (record : α) : Option α :=
  (parse? (toJson record).render).bind ofJson?

/-- A value that stands for a document: its numbers are integers of 64 bits, and the members of its
objects are sorted by name. -/
structure IsDocument (value : Json) : Prop where
  integral : value.isIntegral = true
  canonical : value.canonical = value

theorem isIntegral_of_lt {n : Nat} (fits : n < UInt64.size) : (Json.nat n).isIntegral = true := by
  simp only [nat, int, isIntegral, Bool.and_eq_true, decide_eq_true_eq]
  simp only [UInt64.size] at fits
  omega

theorem isIntegral_nat (n : UInt32) : (Json.nat n.toNat).isIntegral = true :=
  isIntegral_of_lt (Nat.lt_trans n.toNat_lt (by decide))

/-- A record that does not nest deep is read from its text if it is read from its value. -/
theorem reread_of_shallow {α : Type} {toJson : α → Json} {ofJson? : Json → Option α} {record : α}
    (integral : (toJson record).isIntegral = true) (shallow : (toJson record).depth ≤ depthLimit)
    (reads : ofJson? (toJson record) = some record) :
    reread toJson ofJson? record = some record := by
  rw [reread, parse?_render integral, cut_of_depth_le shallow, Option.bind_some, reads]

end Json

/-! Statuses and messages -/

namespace Status

theorem isIntegral_toJson (status : Status) : status.toJson.isIntegral = true := by
  cases status <;>
    simp [toJson, members, Scheduled.members, Waiting.members, Failed.members, Loaded.members,
      Json.isIntegral, Json.haveIntegral, Json.isIntegral_nat, TaskState.toJson, Instant.toJson,
      TaskError.toJson, ErrorClass.toJson]

theorem depth_toJson (status : Status) : status.toJson.depth ≤ 2 := by
  cases status <;>
    simp [toJson, members, Scheduled.members, Waiting.members, Failed.members, Loaded.members,
      Json.depth, Json.depthOfMembers, TaskState.toJson, Instant.toJson, TaskError.toJson,
      ErrorClass.toJson, Json.nat, Json.int]

theorem reread {status : Status} (placed : status.IsPlaced) :
    Json.reread toJson ofJson? status = some status :=
  Json.reread_of_shallow status.isIntegral_toJson
    (status.depth_toJson.trans (by decide)) (read?_toJson false placed)

end Status

namespace Failed

theorem isIntegral_toJson (failed : Failed) : failed.toJson.isIntegral = true := by
  simp [toJson, members, Json.isIntegral, Json.haveIntegral, Json.isIntegral_nat, Instant.toJson,
    TaskError.toJson, ErrorClass.toJson]

theorem depth_toJson (failed : Failed) : failed.toJson.depth ≤ 2 := by
  simp [toJson, members, Json.depth, Json.depthOfMembers, Instant.toJson, TaskError.toJson,
    ErrorClass.toJson, Json.nat, Json.int]

end Failed

theorem Pending.reread {pending : Pending} (placed : pending.toStatus.IsPlaced) :
    Json.reread toJson ofJson? pending = some pending :=
  Json.reread_of_shallow pending.toStatus.isIntegral_toJson
    (pending.toStatus.depth_toJson.trans (by decide)) (read?_toJson false placed)

theorem Dispatch.reread (message : Dispatch) :
    Json.reread toJson ofJson? message = some message := by
  apply Json.reread_of_shallow
  · simp [toJson, Json.isIntegral, Json.haveIntegral, Json.isIntegral_nat, LoadType.toJson,
      TaskId.toJson]
  · simp [toJson, Json.depth, Json.depthOfMembers, LoadType.toJson, TaskId.toJson, Json.nat,
      Json.int, Json.depthLimit]
  · simp [toJson, ofJson?, Json.fields?, Json.occurrences, Json.Fields.required, List.lookup_cons,
      LoadType.ofJson?_toJson, TaskId.ofJson?_toJson, Json.uint32?_nat, Json.string?]

theorem Notification.reread {notification : Notification}
    (placed : notification.status.IsPlaced) :
    Json.reread toJson ofJson? notification = some notification := by
  have depth := notification.status.depth_toJson
  apply Json.reread_of_shallow
  · simp [toJson, Json.isIntegral, Json.haveIntegral, Status.isIntegral_toJson, LoadType.toJson,
      TaskId.toJson]
  · simp [toJson, Json.depth, Json.depthOfMembers, LoadType.toJson, TaskId.toJson, Json.depthLimit]
    omega
  · simp [toJson, ofJson?, Json.fields?, Json.occurrences, Json.Fields.required, List.lookup_cons,
      LoadType.ofJson?_toJson, TaskId.ofJson?_toJson, Status.ofJson?, Status.read?_toJson false placed,
      Json.string?]

/-! Cached values and cache entries -/

/-- How deep the data in a record may nest. -/
def Json.dataLimit : Nat := 126

namespace Json

theorem any?_document {data : Json} (document : data.IsDocument) : any? data = some data := by
  rw [any?, if_pos (isReadable_of_isIntegral document.integral), document.canonical]

theorem any?_cut {data : Json} (document : data.IsDocument) (limit : Nat) :
    any? (data.cut limit) = if data.depth ≤ limit then some data else none := by
  have readable := isReadable_cut document.integral limit
  unfold any?
  by_cases shallow : data.depth ≤ limit
  · rw [if_pos shallow, if_pos (readable.mpr shallow), cut_of_depth_le shallow, document.canonical]
  · rw [if_neg shallow, if_neg (mt readable.mp shallow)]

end Json

/-- A value with a document that was stored at a point in time that can be written. -/
structure CachedValue.IsPlain (value : CachedValue Json) : Prop where
  document : value.data.IsDocument
  placed : value.cachedAt.IsPlaced

theorem CachedValue.reread {value : CachedValue Json} (plain : value.IsPlain) :
    Json.reread toJson ofJson? value =
      if value.data.depth ≤ Json.dataLimit then some value else none := by
  have integral : value.toJson.isIntegral = true := by
    simp [toJson, Json.isIntegral, Json.haveIntegral, plain.document.integral, Instant.toJson]
  have cut : value.toJson.cut Json.depthLimit =
      .object [("data", value.data.cut Json.dataLimit), ("cached_at", value.cachedAt.toJson)] := rfl
  rw [Json.reread, Json.parse?_render integral, cut, Option.bind_some]
  by_cases shallow : value.data.depth ≤ Json.dataLimit <;>
    simp [ofJson?, Json.fields?, Json.occurrences, Json.Fields.required, List.lookup_cons,
      Json.any?_cut plain.document, shallow, Instant.ofJson?_toJson plain.placed]

namespace CacheEntry

def IsPlain : CacheEntry Json → Prop
  | .loaded value => value.IsPlain
  | .loadedAndUpdateScheduled value pending => value.IsPlain ∧ pending.toStatus.IsPlaced
  | .loadedAndUpdateFailed value failed => value.IsPlain ∧ failed.failedAt.IsPlaced
  | .initialLoadScheduled pending => pending.toStatus.IsPlaced
  | .initialFailed failed => failed.failedAt.IsPlaced
  | .notAvailable => True

/-- How deep the data of an entry nest, if it has any. -/
def dataDepth (entry : CacheEntry Json) : Nat := (entry.data?.map Json.depth).getD 0

theorem isIntegral_toJson {entry : CacheEntry Json} (plain : entry.IsPlain) :
    entry.toJson.isIntegral = true := by
  cases entry with
  | loaded value =>
      simp [toJson, members, CachedValue.members, Json.isIntegral, Json.haveIntegral,
        plain.document.integral, Instant.toJson]
  | loadedAndUpdateScheduled value pending =>
      simp [toJson, members, CachedValue.members, Json.isIntegral, Json.haveIntegral,
        plain.1.document.integral, Instant.toJson, Pending.toJson, Status.isIntegral_toJson]
  | loadedAndUpdateFailed value failed =>
      simp [toJson, members, CachedValue.members, Json.isIntegral, Json.haveIntegral,
        plain.1.document.integral, Instant.toJson, Failed.isIntegral_toJson]
  | initialLoadScheduled pending =>
      simp [toJson, members, Json.isIntegral, Json.haveIntegral, Pending.toJson,
        Status.isIntegral_toJson]
  | initialFailed failed =>
      simp [toJson, members, Json.isIntegral, Json.haveIntegral, Failed.isIntegral_toJson]
  | notAvailable => simp [toJson, members, Json.isIntegral, Json.haveIntegral]

theorem depth_toJson (entry : CacheEntry Json) :
    entry.toJson.depth ≤ Json.depthLimit ↔ entry.dataDepth ≤ Json.dataLimit := by
  -- Pending and failed statuses are far from the limit; only the data count.
  have pendings (pending : Pending) : pending.toJson.depth ≤ 2 := pending.toStatus.depth_toJson
  have failures (failed : Failed) := failed.depth_toJson
  unfold toJson Json.depthLimit Json.dataLimit
  cases entry with
  | loaded value =>
      simp only [members, CachedValue.members, Json.depth, Json.depthOfMembers, Instant.toJson,
        dataDepth, data?, value?, Option.map_some, Option.getD_some]
      omega
  | loadedAndUpdateScheduled value pending =>
      have inside := pendings pending
      simp only [members, CachedValue.members, List.cons_append, List.nil_append, Json.depth,
        Json.depthOfMembers, Instant.toJson, dataDepth, data?, value?, Option.map_some,
        Option.getD_some]
      omega
  | loadedAndUpdateFailed value failed =>
      have inside := failures failed
      simp only [members, CachedValue.members, List.cons_append, List.nil_append, Json.depth,
        Json.depthOfMembers, Instant.toJson, dataDepth, data?, value?, Option.map_some,
        Option.getD_some]
      omega
  | initialLoadScheduled pending =>
      have inside := pendings pending
      simp only [members, Json.depth, Json.depthOfMembers, dataDepth, data?, value?,
        Option.map_none, Option.getD_none]
      omega
  | initialFailed failed =>
      have inside := failures failed
      simp only [members, Json.depth, Json.depthOfMembers, dataDepth, data?, value?,
        Option.map_none, Option.getD_none]
      omega
  | notAvailable =>
      simp only [members, Json.depth, Json.depthOfMembers, dataDepth, data?, value?,
        Option.map_none, Option.getD_none]
      omega

theorem tagged?_toJson {entry : CacheEntry Json} (plain : entry.IsPlain) :
    entry.toJson.tagged? "kind" = some (.string entry.kind, .object entry.members) := by
  have readable := Json.isReadable_of_isIntegral (isIntegral_toJson plain)
  unfold toJson at readable ⊢
  rw [Json.tagged?, if_pos readable]
  cases entry <;> simp [members, CachedValue.members, Json.occurrences]

theorem valueOf?_members {value : CachedValue Json} (plain : value.IsPlain) {fields : Json.Fields}
    (cachedAt : fields "cached_at" = some value.cachedAt.toJson)
    (data : fields "data" = some value.data) : valueOf? fields = some value := by
  simp [valueOf?, Json.Fields.required, cachedAt, data, Instant.ofJson?_toJson plain.placed,
    Json.any?_document plain.document]

theorem ofJson?_toJson {entry : CacheEntry Json} (plain : entry.IsPlain) :
    ofJson? entry.toJson = some entry := by
  unfold ofJson?
  simp only [tagged?_toJson plain, Option.bind_eq_bind, Option.bind_some, Json.string?]
  cases entry with
  | loaded value =>
      simp [kind, members, CachedValue.members, Json.fields?, Json.occurrences, List.lookup_cons,
        valueOf?_members plain]
  | loadedAndUpdateScheduled value pending =>
      simp [kind, members, CachedValue.members, Json.fields?, Json.occurrences, List.lookup_cons,
        Json.Fields.required, valueOf?_members plain.1, Pending.read?_toJson true plain.2]
  | loadedAndUpdateFailed value failed =>
      simp [kind, members, CachedValue.members, Json.fields?, Json.occurrences, List.lookup_cons,
        Json.Fields.required, valueOf?_members plain.1, Failed.toJson,
        Failed.ofJson?_members plain.2]
  | initialLoadScheduled pending =>
      have read : Pending.read? true pending.toJson = some pending := Pending.read?_toJson true plain
      simp [kind, members, Json.fields?, Json.occurrences, List.lookup_cons, Json.Fields.required, read]
  | initialFailed failed =>
      have read : Failed.ofJson? (.object failed.members) = some failed := Failed.ofJson?_members plain
      simp [kind, members, Json.fields?, Json.occurrences, List.lookup_cons, Json.Fields.required,
        Failed.toJson, read]
  | notAvailable => rfl

theorem ofJson?_unreadable {value : Json} (unreadable : ¬ value.isReadable = true) :
    ofJson? value = none := by
  have untagged : value.tagged? "kind" = none := if_neg unreadable
  rw [ofJson?, untagged]
  rfl

theorem reread {entry : CacheEntry Json} (plain : entry.IsPlain) :
    Json.reread toJson ofJson? entry =
      if entry.dataDepth ≤ Json.dataLimit then some entry else none := by
  have integral := isIntegral_toJson plain
  rw [Json.reread, Json.parse?_render integral, Option.bind_some]
  by_cases shallow : entry.dataDepth ≤ Json.dataLimit
  · rw [if_pos shallow, Json.cut_of_depth_le (entry.depth_toJson.mpr shallow),
      ofJson?_toJson plain]
  · rw [if_neg shallow, ofJson?_unreadable]
    exact mt (Json.isReadable_cut integral _).mp (mt entry.depth_toJson.mp shallow)

end CacheEntry

/-! Entries of streams -/

namespace Stream

/-- The entry that a server keeps for a command that adds one: the words behind the identifier that
the command leaves to the server. -/
def entryOf (id : String) (command : Command) : Reply :=
  .items [.ofText id, .items ((command.words.drop 3).map .ofText)]

theorem textOf_bytes (text : String) : Reply.textOf text.toByteArray.toList = text :=
  Utf8.decode_toUTF8 text

theorem decode_entryOf {M : Type} {read : String → Option M} {payload : String} {content : M}
    (reads : read payload = some content) (id stream key : String) :
    Batch.decode read [entryOf id (.add stream key payload)] = ⟨[(id, content)], []⟩ := by
  simp [Batch.decode, Entry.decode, entryOf, Command.words, Reply.ofText, Entry.ofReply?,
    Entry.fields, textOf_bytes, reads, Batch.add, Batch.empty]

end Stream

/-- Publishing a message adds an entry with its key and its text, and whoever gets this entry decodes
it to the message and rejects nothing. -/
def Stream.IsDelivered {M : Type} [Stream.Message M] (message : M) : Prop :=
  ∀ (bus : StreamBus) (topic id : String), ∃ stream connected next,
    bus.publish topic message = .connect connected ∧
      connected true = .send
        (.add stream (Stream.Message.key message) (StreamBus.encode message)) next ∧
      Stream.Batch.decode (StreamBus.decode? (M := M))
          [Stream.entryOf id
            (.add stream (Stream.Message.key message) (StreamBus.encode message))] =
        ⟨[(id, message)], []⟩

theorem Stream.isDelivered {M : Type} [Stream.Message M] {message : M}
    (reads : Json.reread Stream.Message.toJson Stream.Message.ofJson? message = some message) :
    Stream.IsDelivered message := by
  intro bus topic id
  refine ⟨_, _, _, rfl, rfl, ?_⟩
  exact Stream.decode_entryOf reads id _ _

/-- The wire format loses nothing but data that nest more than 126 levels deep: records with such
data are not read at all. -/
theorem lossless :
    (∀ message : Dispatch, Json.reread Dispatch.toJson Dispatch.ofJson? message = some message ∧
        Stream.IsDelivered message) ∧
      (∀ notification : Notification, notification.status.IsPlaced →
        Json.reread Notification.toJson Notification.ofJson? notification = some notification ∧
          Stream.IsDelivered notification) ∧
      (∀ status : Status, status.IsPlaced →
        Json.reread Status.toJson Status.ofJson? status = some status) ∧
      (∀ pending : Pending, pending.toStatus.IsPlaced →
        Json.reread Pending.toJson Pending.ofJson? pending = some pending) ∧
      (∀ value : CachedValue Json, value.IsPlain →
        Json.reread CachedValue.toJson CachedValue.ofJson? value =
          if value.data.depth ≤ 126 then some value else none) ∧
      ∀ entry : CacheEntry Json, entry.IsPlain →
        Json.reread CacheEntry.toJson CacheEntry.ofJson? entry =
          if entry.dataDepth ≤ 126 then some entry else none := by
  refine ⟨?_, ?_, fun _ => Status.reread, fun _ => Pending.reread, fun _ => CachedValue.reread,
    fun _ => CacheEntry.reread⟩
  · intro message
    exact ⟨message.reread, Stream.isDelivered message.reread⟩
  · intro notification placed
    have reads := Notification.reread placed
    exact ⟨reads, Stream.isDelivered reads⟩

/-- A null inside so many arrays. -/
def Json.nested : Nat → Json
  | 0 => .null
  | levels + 1 => .array [nested levels]

theorem Json.depth_nested (levels : Nat) : (nested levels).depth = levels := by
  induction levels with
  | zero => rfl
  | succ levels ih => simp [nested, depth, depthOfItems, ih]

theorem Json.isDocument_nested (levels : Nat) : (nested levels).IsDocument := by
  induction levels with
  | zero => exact ⟨rfl, rfl⟩
  | succ levels ih =>
      refine ⟨?_, ?_⟩
      · simp [nested, isIntegral, areIntegral, ih.integral]
      · simp [nested, Json.canonical, canonicalItems, ih.canonical]

/-- A leap second, one and a half seconds after the last second of its minute began. -/
def Instant.leapSecond : Instant := ⟨59, 1500000000, by decide, by decide⟩

theorem Instant.isPlaced_leapSecond : leapSecond.IsPlaced := fun _ => rfl

/-- A task that failed in a leap second, and a value from that second with data as deep as can be. -/
theorem lossless_at_limits :
    let failed : Failed := ⟨4294967295, ⟨.retriesExhausted, "\u2028 \"\n\x00\""⟩, .leapSecond⟩
    let notification : Notification := ⟨default, "κ\\", default, .failed failed⟩
    let value : CachedValue Json := ⟨.nested 126, .leapSecond⟩
    Json.reread Notification.toJson Notification.ofJson? notification = some notification ∧
      Json.reread Status.toJson Status.ofJson? (.failed failed) = some (.failed failed) ∧
      Json.reread Pending.toJson Pending.ofJson? (.scheduled ⟨.leapSecond, 0⟩) =
        some (.scheduled ⟨.leapSecond, 0⟩) ∧
      Json.reread CachedValue.toJson CachedValue.ofJson? value = some value ∧
      Json.reread CacheEntry.toJson CacheEntry.ofJson? (.loadedAndUpdateFailed value failed) =
        some (.loadedAndUpdateFailed value failed) := by
  intro failed notification value
  have placed := Instant.isPlaced_leapSecond
  have plain : value.IsPlain := ⟨Json.isDocument_nested 126, placed⟩
  have shallow : value.data.depth ≤ 126 := (Json.depth_nested 126).le
  obtain ⟨_, notifications, statuses, pendings, values, entries⟩ := lossless
  refine ⟨(notifications notification placed).1, statuses _ placed, pendings _ placed, ?_, ?_⟩
  · rw [values value plain, if_pos shallow]
  · rw [entries (.loadedAndUpdateFailed value failed) ⟨plain, placed⟩]
    exact if_pos shallow

/-- A leap second in the middle of a minute, where none can stand. -/
def Instant.misplaced : Instant := ⟨15, 1625000000, by decide, by decide⟩

/-- The time that a misplaced leap second is read as. -/
def Instant.replaced : Instant := ⟨16, 625000000, by decide, by decide⟩

/-- A cached value with data one level deeper cannot be read, and a misplaced leap second is read as
the second that follows. -/
theorem lost_beyond_limits :
    let value : CachedValue Json := ⟨.nested 127, .epoch⟩
    (value.IsPlain ∧ Json.reread CachedValue.toJson CachedValue.ofJson? value = none) ∧
      Json.reread Status.toJson Status.ofJson? (.loaded ⟨.misplaced, 1⟩) =
        some (.loaded ⟨.replaced, 1⟩) ∧
      Instant.replaced ≠ Instant.misplaced := by
  intro value
  have plain : value.IsPlain := ⟨Json.isDocument_nested 127, nofun⟩
  have deep : ¬ value.data.depth ≤ Json.dataLimit := by
    change ¬ (Json.nested 127).depth ≤ 126
    rw [Json.depth_nested]
    decide
  refine ⟨⟨plain, ?_⟩, by decide +kernel, by decide⟩
  rw [CachedValue.reread plain, if_neg deep]

end CacheFill
