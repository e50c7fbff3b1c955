import CacheFill.Stream.Poller
import Mathlib.Data.List.Forall2
import Mathlib.Logic.ExistsUnique

/-!
Entries in replies, whatever the replies look like. Each entry is judged by itself: it brings a
message, or it is rejected by its identifier, or it is passed over; and a batch holds what its
entries bring, in their order. Main statement: `entries_sorted_out`.
-/

set_option autoImplicit false

namespace CacheFill.Stream

variable {M : Type} {read : String → Option M}

namespace Entry

/-- The field at a place, of those that are told by a name and a value. -/
def HasField (values : List Reply) (place : Nat) (name value : String) : Prop :=
  ∃ first second, values[2 * place]? = some (.data first) ∧
    values[2 * place + 1]? = some (.data second) ∧
    Reply.textOf first = name ∧ Reply.textOf second = value

/-- The last field of a name has this value. -/
def LastField (values : List Reply) (name value : String) : Prop :=
  ∃ place, HasField values place name value ∧
    ∀ later other, place < later → ¬ HasField values later name other

variable {values rest : List Reply} {name value other : String} {place : Nat}

theorem HasField.unique (field : HasField values place name value)
    (fieldToo : HasField values place name other) : value = other := by
  obtain ⟨_, second, -, found, -, rfl⟩ := field
  obtain ⟨_, second', -, found', -, rfl⟩ := fieldToo
  rw [found] at found'
  cases found'
  rfl

theorem LastField.unique (last : LastField values name value)
    (lastToo : LastField values name other) : value = other := by
  obtain ⟨place, field, none⟩ := last
  obtain ⟨place', field', none'⟩ := lastToo
  rcases Nat.lt_trichotomy place place' with before | rfl | after
  · exact (none place' other before field').elim
  · exact field.unique field'
  · exact (none' place value after field).elim

theorem hasField_succ {first second : Reply} :
    HasField (first :: second :: rest) (place + 1) name value ↔ HasField rest place name value := by
  simp [HasField, Nat.mul_add]

theorem hasField_zero {first second : List UInt8} :
    HasField (.data first :: .data second :: rest) 0 name value ↔
      Reply.textOf first = name ∧ Reply.textOf second = value := by
  simp [HasField]

/-- The outcome of a search for the last field of a name. -/
def Describes (values : List Reply) (name : String) : Option String → Prop
  | some value => LastField values name value
  | none => ∀ place value, ¬ HasField values place name value

/-- One more field in front is found where none of its name comes behind it. -/
theorem Describes.cons {first second : Reply} {found head : Option String}
    (describes : Describes rest name found)
    (isHead : ∀ value, HasField (first :: second :: rest) 0 name value ↔ head = some value) :
    Describes (first :: second :: rest) name (found.or head) := by
  cases found with
  | some value =>
      obtain ⟨place, field, none⟩ := describes
      refine ⟨place + 1, hasField_succ.mpr field, fun later other before => ?_⟩
      obtain ⟨later, rfl⟩ := Nat.exists_eq_succ_of_ne_zero (Nat.ne_of_gt (Nat.zero_lt_of_lt before))
      exact fun field => none later other (Nat.lt_of_succ_lt_succ before) (hasField_succ.mp field)
  | none =>
      rw [Option.none_or]
      cases head with
      | some value =>
          refine ⟨0, (isHead value).mpr rfl, fun later other before => ?_⟩
          obtain ⟨later, rfl⟩ := Nat.exists_eq_succ_of_ne_zero (Nat.ne_of_gt before)
          exact fun field => describes later other (hasField_succ.mp field)
      | none =>
          intro place value field
          cases place with
          | zero => cases (isHead value).mp field
          | succ place => exact describes place value (hasField_succ.mp field)

theorem describes_lookup (values : List Reply) (name : String) :
    Describes values name ((fields values).reverse.lookup name) := by
  fun_induction fields values with
  | case1 first second rest ih =>
      rw [List.reverse_cons, List.lookup_append]
      refine ih.cons fun value => ?_
      rw [hasField_zero, List.lookup_cons]
      by_cases same : Reply.textOf first = name
      · simp [same]
      · have other : (name == Reply.textOf first) = false := beq_false_of_ne (Ne.symm same)
        simp [same, other]
  | case2 first second rest notText ih =>
      rw [← Option.or_none (o := (fields rest).reverse.lookup name)]
      refine ih.cons fun value => iff_of_false ?_ nofun
      rintro ⟨bytes, bytes', isFirst, isSecond, -, -⟩
      exact notText bytes bytes' (Option.some.inj isFirst) (Option.some.inj isSecond)
  | case3 values notText notPair =>
      rintro place value ⟨_, bytes, -, isSecond, -, -⟩
      match values with
      | [] => cases isSecond
      | [_] => simp at isSecond
      | first :: second :: rest => exact notPair first second rest rfl

/-- What a search from behind finds is the last field of the name. -/
theorem lookup_eq_some_iff :
    (fields values).reverse.lookup name = some value ↔ LastField values name value := by
  have describes := describes_lookup values name
  cases found : (fields values).reverse.lookup name with
  | none =>
      rw [found] at describes
      refine iff_of_false nofun fun ⟨place, field, _⟩ => describes place value field
  | some other =>
      rw [found] at describes
      refine ⟨fun same => Option.some.inj same ▸ describes, fun last => ?_⟩
      exact congrArg some (LastField.unique describes last)

/-- The reply names an entry: it is a list that begins with an identifier. -/
def Names (reply : Reply) (id : String) : Prop :=
  ∃ bytes more, reply = .items (.data bytes :: more) ∧ Reply.textOf bytes = id

/-- The reply is an entry: behind the identifier is a list of fields, and the last of them named
payload has this text. -/
def Carries (reply : Reply) (entry : Entry) : Prop :=
  ∃ bytes values more, reply = .items (.data bytes :: .items values :: more) ∧
    Reply.textOf bytes = entry.id ∧ LastField values "payload" entry.payload

variable {reply : Reply} {id : String} {entry : Entry}

theorem Carries.names (carries : Carries reply entry) : Names reply entry.id := by
  obtain ⟨bytes, values, more, isReply, isId, -⟩ := carries
  exact ⟨bytes, _, isReply, isId⟩

theorem id?_eq_some_iff : id? reply = some id ↔ Names reply id := by
  constructor
  · intro found
    unfold id? at found
    split at found
    next bytes more => exact ⟨bytes, more, rfl, Option.some.inj found⟩
    next => cases found
  · rintro ⟨bytes, more, rfl, rfl⟩
    rfl

theorem ofReply?_eq_some_iff : ofReply? reply = some entry ↔ Carries reply entry := by
  obtain ⟨id, payload⟩ := entry
  constructor
  · intro found
    unfold ofReply? at found
    split at found
    next bytes values more =>
      obtain ⟨payload, isLast, same⟩ := Option.map_eq_some_iff.mp found
      cases same
      exact ⟨bytes, values, more, rfl, rfl, lookup_eq_some_iff.mp isLast⟩
    next => cases found
  · rintro ⟨bytes, values, more, rfl, rfl, isLast⟩
    rw [ofReply?, lookup_eq_some_iff.mpr isLast]
    rfl

/-! What becomes of one entry -/

/-- What has to become of a reply. -/
inductive Verdict (read : String → Option M) (reply : Reply) : Decoded M → Prop where
  | message (entry : Entry) (content : M) (carries : Carries reply entry)
      (reads : read entry.payload = some content) :
      Verdict read reply (.message entry.id content)
  | rejected (id : String) (names : Names reply id)
      (unreadable : ∀ entry, Carries reply entry → read entry.payload = none) :
      Verdict read reply (.rejected id)
  | skipped (nameless : ∀ id, ¬ Names reply id) : Verdict read reply .skipped

theorem Names.unique {other : String} (names : Names reply id) (namesToo : Names reply other) :
    id = other :=
  Option.some.inj ((id?_eq_some_iff.mpr names).symm.trans (id?_eq_some_iff.mpr namesToo))

theorem Carries.unique {other : Entry} (carries : Carries reply entry)
    (carriesToo : Carries reply other) : entry = other :=
  Option.some.inj
    ((ofReply?_eq_some_iff.mpr carries).symm.trans (ofReply?_eq_some_iff.mpr carriesToo))

theorem Verdict.unique {one other : Decoded M} (verdict : Verdict read reply one)
    (verdictToo : Verdict read reply other) : one = other := by
  cases verdict with
  | message entry content carries reads =>
      cases verdictToo with
      | message entry' content' carries' reads' =>
          obtain rfl := carries.unique carries'
          rw [reads] at reads'
          cases reads'
          rfl
      | rejected id names unreadable =>
          rw [unreadable entry carries] at reads
          cases reads
      | skipped nameless => exact (nameless _ carries.names).elim
  | rejected id names unreadable =>
      cases verdictToo with
      | message entry content carries reads =>
          rw [unreadable entry carries] at reads
          cases reads
      | rejected id' names' unreadable' => rw [names.unique names']
      | skipped nameless => exact (nameless id names).elim
  | skipped nameless =>
      cases verdictToo with
      | message entry content carries reads => exact (nameless _ carries.names).elim
      | rejected id names unreadable => exact (nameless id names).elim
      | skipped _ => rfl

/-- An entry whose message can be read is decoded to it, and anything else is told by its
identifier. -/
theorem decode_eq (read : String → Option M) (reply : Reply) :
    decode read reply =
      match (ofReply? reply).bind fun entry =>
        (read entry.payload).map fun content => (entry.id, content) with
      | some (id, content) => .message id content
      | none => (id? reply).elim .skipped .rejected := by
  unfold decode
  split
  next => rfl
  next =>
    dsimp only
    generalize (ofReply? reply).bind _ = message?
    cases message? <;> cases id? reply <;> rfl

theorem verdict_decode (read : String → Option M) (reply : Reply) :
    Verdict read reply (decode read reply) := by
  rw [decode_eq]
  cases isEntry : ofReply? reply with
  | none =>
      have nothing (entry : Entry) : ¬ Carries reply entry := by
        rw [← ofReply?_eq_some_iff, isEntry]
        exact nofun
      cases named : id? reply with
      | none =>
          refine .skipped fun id => ?_
          rw [← id?_eq_some_iff, named]
          exact nofun
      | some id =>
          exact .rejected id (id?_eq_some_iff.mp named) fun entry carries =>
            (nothing entry carries).elim
  | some entry =>
      have carries := ofReply?_eq_some_iff.mp isEntry
      rw [Option.bind_some]
      cases reads : read entry.payload with
      | some content => exact .message entry content carries reads
      | none =>
          rw [Option.map_none, id?_eq_some_iff.mpr carries.names]
          refine .rejected entry.id carries.names fun other carriesToo => ?_
          rw [← carries.unique carriesToo, reads]

theorem verdicts_decode (read : String → Option M) (replies : List Reply) :
    List.Forall₂ (Verdict read) replies (replies.map (decode read)) := by
  rw [List.forall₂_map_right_iff, List.forall₂_same]
  exact fun reply _ => verdict_decode read reply

/-- There is no other way to judge a list of replies. -/
theorem map_decode_of_verdicts {replies : List Reply} {verdicts : List (Decoded M)}
    (judged : List.Forall₂ (Verdict read) replies verdicts) :
    replies.map (decode read) = verdicts := by
  induction judged with
  | nil => rfl
  | cons verdict _ ih => rw [List.map_cons, ih, (verdict_decode read _).unique verdict]

end Entry

/-! Batches -/

def Decoded.message? : Decoded M → Option (String × M)
  | .message id content => some (id, content)
  | .rejected _ | .skipped => none

def Decoded.rejected? : Decoded M → Option String
  | .rejected id => some id
  | .message _ _ | .skipped => none

namespace Batch

/-- What decoded entries bring, in their order. -/
def collect (decoded : List (Decoded M)) : Batch M :=
  ⟨decoded.filterMap Decoded.message?, decoded.filterMap Decoded.rejected?⟩

/-- A batch behind another. -/
def append (batch more : Batch M) : Batch M :=
  ⟨batch.messages ++ more.messages, batch.rejected ++ more.rejected⟩

theorem decode_eq_collect (read : String → Option M) (replies : List Reply) :
    decode read replies = collect (replies.map (Entry.decode read)) := by
  induction replies with
  | nil => rfl
  | cons reply rest ih =>
      rw [decode, List.foldr_cons, ← decode, ih, List.map_cons]
      cases Entry.decode read reply <;> rfl

theorem decode_append (read : String → Option M) (replies more : List Reply) :
    decode read (replies ++ more) = (decode read replies).append (decode read more) := by
  simp only [decode_eq_collect, collect, append, List.map_append, List.filterMap_append]

end Batch

/-! Replies to a read -/

/-- How a stream with its entries stands in a reply. -/
def streamReply (stream : Reply × List Reply) : Reply := .items [stream.1, .items stream.2]

theorem streamEntries?_eq_some_iff {reply : Reply} {entries : List Reply} :
    Poller.streamEntries? reply = some entries ↔ ∃ name, reply = streamReply (name, entries) := by
  constructor
  · intro found
    unfold Poller.streamEntries? at found
    split at found
    next name _ => exact ⟨name, Option.some.inj found ▸ rfl⟩
    next => cases found
  · rintro ⟨name, rfl⟩
    rfl

theorem mapM_streamEntries? {replies : List Reply} {lists : List (List Reply)} :
    replies.mapM Poller.streamEntries? = some lists ↔
      ∃ streams : List (Reply × List Reply),
        replies = streams.map streamReply ∧ lists = streams.map (·.2) := by
  induction replies generalizing lists with
  | nil => simp [eq_comm]
  | cons reply rest ih =>
      simp only [List.mapM_cons, Option.bind_eq_bind, Option.bind_eq_some_iff, Option.pure_def,
        Option.some.injEq, streamEntries?_eq_some_iff, ih]
      constructor
      · rintro ⟨entries, ⟨name, rfl⟩, _, ⟨streams, rfl, rfl⟩, rfl⟩
        exact ⟨(name, entries) :: streams, rfl, rfl⟩
      · rintro ⟨streams, isReplies, rfl⟩
        obtain ⟨⟨name, entries⟩, more, rfl, rfl, rfl⟩ := List.map_eq_cons_iff.mp isReplies.symm
        exact ⟨entries, ⟨name, rfl⟩, _, ⟨more, rfl, rfl⟩, rfl⟩

/-- A reply is understood if it is nothing or a list of streams, and what is taken from it are the
entries of these streams, one stream after the other. -/
theorem readEntries?_eq_some_iff {reply : Reply} {entries : List Reply} :
    Poller.readEntries? reply = some entries ↔
      reply = .nil ∧ entries = [] ∨
        ∃ streams : List (Reply × List Reply),
          reply = .items (streams.map streamReply) ∧ entries = streams.flatMap (·.2) := by
  cases reply with
  | nil => simp [Poller.readEntries?, eq_comm]
  | items values =>
      simp only [Poller.readEntries?, Option.map_eq_some_iff, mapM_streamEntries?, Reply.items.injEq,
        reduceCtorEq, false_and, false_or]
      constructor
      · rintro ⟨_, ⟨streams, rfl, rfl⟩, rfl⟩
        exact ⟨streams, rfl, (List.flatMap_def ..).symm⟩
      · rintro ⟨streams, rfl, rfl⟩
        exact ⟨_, ⟨streams, rfl, rfl⟩, (List.flatMap_def ..).symm⟩
  | number _ | data _ | status _ | okay => simp [Poller.readEntries?]

/-- Whatever replies hold, each entry is judged by itself and in one way only, a batch holds what its
entries bring, and the entries of a read are those of its streams. -/
theorem entries_sorted_out (read : String → Option M) :
    (∀ reply, ∃! verdict, Entry.Verdict read reply verdict) ∧
      (∀ replies, ∃ verdicts, List.Forall₂ (Entry.Verdict read) replies verdicts ∧
        Batch.decode read replies = Batch.collect verdicts) ∧
      (∀ replies more, Batch.decode read (replies ++ more) =
        (Batch.decode read replies).append (Batch.decode read more)) ∧
      ∀ reply entries, Poller.readEntries? reply = some entries ↔
        reply = .nil ∧ entries = [] ∨
          ∃ streams : List (Reply × List Reply),
            reply = .items (streams.map streamReply) ∧ entries = streams.flatMap (·.2) := by
  refine ⟨fun reply => ?_, fun replies => ?_, Batch.decode_append read,
    fun _ _ => readEntries?_eq_some_iff⟩
  · have verdict := Entry.verdict_decode read reply
    exact ⟨_, verdict, fun other verdictToo => verdictToo.unique verdict⟩
  · exact ⟨_, Entry.verdicts_decode read replies, Batch.decode_eq_collect read replies⟩

/-- The second of two payloads counts, and a name without a value is no field. -/
example :
    Batch.decode (fun payload => if payload = "1" then some 1 else none)
        [.items [.ofText "a", .items [.ofText "payload", .ofText "0", .ofText "payload", .ofText "1"]],
          .items [.ofText "b", .items [.ofText "payload"]], .nil, .ofText "c"] =
      ⟨[("a", 1)], ["b"]⟩ := by cbv

end CacheFill.Stream
