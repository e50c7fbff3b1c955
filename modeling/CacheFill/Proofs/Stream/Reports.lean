import CacheFill.Proofs.Stream.Entries
import CacheFill.Proofs.Text.Utf8
import CacheFill.Stream.Polling

/-!
What the replies that a poller gets tell it. A reply to a read or to a claim brings entries, each of
which is judged by itself; a list of pending entries is told row by row. `Tells` says so without the
functions that read replies, and these find just what it says.
-/

set_option autoImplicit false

namespace CacheFill.Stream

variable {M : Type} {reader : Reader M}

/-! Lists of pending entries -/

namespace PendingRow

/-- Numbers in replies have 64 bits, with a sign. -/
def IsSmall (row : PendingRow) : Prop := row.idle < 1 <<< 63 ∧ row.deliveries < 1 <<< 63

instance (row : PendingRow) : Decidable row.IsSmall := inferInstanceAs (Decidable (_ ∧ _))

def parts (row : PendingRow) : List Reply :=
  [.ofText row.id, .ofText row.consumer, .number row.idle, .number row.deliveries]

/-- Rows in a list, the parts of each one after the other. -/
def flat (rows : List PendingRow) : Reply := .items (rows.flatMap parts)

end PendingRow

/-- What a client library promises about a way in which rows are listed: it reads all of them, and
as they are. -/
def Reader.Takes (reader : Reader M) (listing : List PendingRow → Reply) : Prop :=
  ∀ rows, (∀ row ∈ rows, row.IsSmall) → reader.rows? (listing rows) = some rows

theorem Reply.text?_ofText (text : String) : (ofText text).text? = some text := by
  change Utf8.wellFormed? text.toUTF8.toList = some text
  rw [Utf8.wellFormed?, Utf8.decode_toUTF8]
  exact if_pos rfl

theorem Reply.count?_number {number : Nat} (small : number < 1 <<< 63) :
    (Reply.number number).count? = some number := by
  have fits : number < UInt64.size := Nat.lt_trans small (by decide)
  have same : ((number : Int) % (UInt64.size : Nat)).toNat = number := by
    rw [← Int.natCast_emod, Int.toNat_natCast, Nat.mod_eq_of_lt fits]
  rw [count?, same]

/-- Flat lists are read as they are. -/
theorem takes_flat (decode : String → Option M) :
    Reader.Takes ⟨decode, PendingRow.ofFlat?⟩ PendingRow.flat := by
  intro rows small
  change PendingRow.ofParts? (rows.flatMap PendingRow.parts) = some rows
  induction rows with
  | nil => rfl
  | cons row rest ih =>
      obtain ⟨first, others⟩ := List.forall_mem_cons.mp small
      have rest := ih others
      simp [PendingRow.parts, PendingRow.ofParts?, Reply.text?_ofText,
        Reply.count?_number first.1, Reply.count?_number first.2, rest]

namespace Polling.Event

/-- The entries that a reply brings; none if the reply is not understood. -/
def entries : Event M → List Reply
  | .answered (.read _ _ _) response => (response.toOption.bind Poller.readEntries?).getD []
  | .answered (.claim _ _ _ _) response => (response.toOption.bind Reply.list?).getD []
  | _ => []

/-- The messages of the entries that can be decoded. -/
def found (reader : Reader M) (event : Event M) : List (String × M) :=
  (Batch.decode reader.decode event.entries).messages

/-- The entries that have an identifier and cannot be decoded. -/
def rejected (reader : Reader M) (event : Event M) : List String :=
  (Batch.decode reader.decode event.entries).rejected

/-- The pending entries that were delivered too often. -/
def exhausted (reader : Reader M) : Event M → List String
  | .answered (.pending _ _) response =>
      (((response.toOption.bind reader.pending?).getD []).filter
        PendingEntry.isExhausted).map (·.id)
  | _ => []

/-- What a reply tells: the verdicts on the entries in it, and the entries that were delivered too
often according to it. -/
inductive Tells (reader : Reader M) : Event M → List (Decoded M) → List String → Prop where
  | read (stream group consumer : String) (streams : List (Reply × List Reply))
      (verdicts : List (Decoded M))
      (judged : List.Forall₂ (Entry.Verdict reader.decode) (streams.flatMap (·.2)) verdicts) :
      Tells reader
        (.answered (.read stream group consumer) (.ok (.items (streams.map streamReply))))
        verdicts []
  | claimed (stream group consumer : String) (ids : List String) (replies : List Reply)
      (verdicts : List (Decoded M))
      (judged : List.Forall₂ (Entry.Verdict reader.decode) replies verdicts) :
      Tells reader (.answered (.claim stream group consumer ids) (.ok (.items replies))) verdicts []
  | listed (stream group : String) (reply : Reply) (rows : List PendingRow)
      (reads : reader.rows? reply = some rows) :
      Tells reader (.answered (.pending stream group) (.ok reply)) []
        ((rows.filter fun row => deliveryLimit < row.deliveries).map (·.id))

/-- What an event brings: the messages, the entries that are rejected, and those that are given
up. -/
structure Brings (reader : Reader M) (event : Event M) (messages : List (String × M))
    (rejected exhausted : List String) : Prop where
  found : event.found reader = messages
  rejected : event.rejected reader = rejected
  exhausted : event.exhausted reader = exhausted

variable {event : Event M} {verdicts : List (Decoded M)} {exhausted : List String}

/-- Verdicts on the entries of a reply say what it brings. -/
theorem brings_of_judged (judged : List.Forall₂ (Entry.Verdict reader.decode) event.entries verdicts)
    (unlisted : event.exhausted reader = []) :
    event.Brings reader (verdicts.filterMap Decoded.message?)
      (verdicts.filterMap Decoded.rejected?) [] := by
  have batch : Batch.decode reader.decode event.entries = Batch.collect verdicts := by
    rw [Batch.decode_eq_collect, Entry.map_decode_of_verdicts judged]
  exact ⟨congrArg Batch.messages batch, congrArg Batch.rejected batch, unlisted⟩

theorem entries_read (stream group consumer : String) (streams : List (Reply × List Reply)) :
    (Event.answered (.read stream group consumer) (.ok (.items (streams.map streamReply))) :
      Event M).entries = streams.flatMap (·.2) := by
  have understood : Poller.readEntries? (.items (streams.map streamReply)) =
      some (streams.flatMap (·.2)) :=
    readEntries?_eq_some_iff.mpr (.inr ⟨streams, rfl, rfl⟩)
  change (Poller.readEntries? (.items (streams.map streamReply))).getD [] = _
  rw [understood, Option.getD_some]

theorem exhausted_pending (stream group : String) (reply : Reply) :
    (Event.answered (.pending stream group) (.ok reply) : Event M).exhausted reader =
      (((reader.rows? reply).getD []).filter fun row => deliveryLimit < row.deliveries).map
        (·.id) := by
  change (((reader.pending? reply).getD []).filter _).map _ = _
  unfold Reader.pending?
  cases reader.rows? reply with
  | none => rfl
  | some rows =>
      rw [Option.map_some, Option.getD_some, List.filter_map, List.map_map]
      rfl

/-- A reply that tells something brings just that. -/
theorem Tells.brings (tells : event.Tells reader verdicts exhausted) :
    event.Brings reader (verdicts.filterMap Decoded.message?)
      (verdicts.filterMap Decoded.rejected?) exhausted := by
  cases tells with
  | read stream group consumer streams verdicts judged =>
      rw [← entries_read stream group consumer streams] at judged
      exact brings_of_judged judged rfl
  | claimed stream group consumer ids replies verdicts judged => exact brings_of_judged judged rfl
  | listed stream group reply rows reads =>
      refine ⟨rfl, rfl, ?_⟩
      rw [exhausted_pending, reads, Option.getD_some]

/-- A reply to a read that tells nothing is not understood, or it is nothing. -/
theorem entries_of_silent {stream group consumer : String} {reply : Reply}
    (silent : ∀ verdicts exhausted, ¬ (Event.answered (.read stream group consumer) (.ok reply) :
      Event M).Tells reader verdicts exhausted) :
    (Event.answered (.read stream group consumer) (.ok reply) : Event M).entries = [] := by
  change (Poller.readEntries? reply).getD [] = []
  cases understood : Poller.readEntries? reply with
  | none => rfl
  | some entries =>
      rcases readEntries?_eq_some_iff.mp understood with ⟨_, rfl⟩ | ⟨streams, rfl, _⟩
      · rfl
      · exact (silent _ _ (.read stream group consumer streams _
          (Entry.verdicts_decode reader.decode _))).elim

/-- An event that tells nothing brings nothing. -/
theorem brings_nothing (silent : ∀ verdicts exhausted, ¬ event.Tells reader verdicts exhausted) :
    event.Brings reader [] [] [] := by
  cases event with
  | connected _ | began _ | collected _ | delivered _ _ _ | acknowledged _ | left =>
      exact ⟨rfl, rfl, rfl⟩
  | answered command response =>
      cases response with
      | error reason => cases command <;> exact ⟨rfl, rfl, rfl⟩
      | ok reply =>
          cases command with
          | create _ _ | add _ _ _ | acknowledge _ _ _ => exact ⟨rfl, rfl, rfl⟩
          | read stream group consumer =>
              have nothing := entries_of_silent silent
              exact ⟨by rw [found, nothing]; rfl, by rw [rejected, nothing]; rfl, rfl⟩
          | claim stream group consumer ids =>
              cases reply with
              | items replies =>
                  exact (silent _ _ (.claimed stream group consumer ids replies _
                    (Entry.verdicts_decode reader.decode replies))).elim
              | nil | number _ | data _ | status _ | okay => exact ⟨rfl, rfl, rfl⟩
          | pending stream group =>
              cases reads : reader.rows? reply with
              | some rows => exact (silent _ _ (.listed stream group reply rows reads)).elim
              | none =>
                  refine ⟨rfl, rfl, ?_⟩
                  rw [exhausted_pending, reads]
                  rfl

end Polling.Event

end CacheFill.Stream
