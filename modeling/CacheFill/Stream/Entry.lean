import CacheFill.Stream.Reply

/-!
Entries of a stream, as they come in replies. An entry has an identifier and fields; a message is in
the field `payload`. Entries are decoded one by one: a bad entry is rejected if it can be named and
skipped otherwise, and never harms the others.
-/

set_option autoImplicit false

namespace CacheFill.Stream

/-- What decoding a list of entries gives. -/
structure Batch (M : Type) where
  /-- The messages with the identifiers of their entries. -/
  messages : List (String × M)
  /-- The identifiers of entries without a message. -/
  rejected : List String
  deriving DecidableEq, Repr

/-- What becomes of one entry. -/
inductive Decoded (M : Type) where
  | message (id : String) (content : M)
  | rejected (id : String)
  | skipped
  deriving DecidableEq, Repr

/-- An entry with a message that is still to be read. -/
structure Entry where
  id : String
  payload : String
  deriving DecidableEq, Repr

namespace Entry

/-- The identifier of an entry, even if nothing else about it is as it should be. -/
def id? : Reply → Option String
  | .items (.data id :: _) => some (Reply.textOf id)
  | _ => none

/-- The fields of an entry: names and values take turns, and a pair that is not text is passed
over. -/
def fields : List Reply → List (String × String)
  | .data name :: .data value :: rest => (Reply.textOf name, Reply.textOf value) :: fields rest
  | _ :: _ :: rest => fields rest
  | _ => []

/-- An entry in a reply; of several fields with a payload the last one counts. -/
def ofReply? : Reply → Option Entry
  | .items (.data id :: .items values :: _) =>
      ((fields values).reverse.lookup "payload").map fun payload => ⟨Reply.textOf id, payload⟩
  | _ => none

variable {M : Type}

def decode (read : String → Option M) (reply : Reply) : Decoded M :=
  match reply with
  | .nil => .skipped
  | reply =>
      let message? := (ofReply? reply).bind fun entry =>
        (read entry.payload).map fun content => (entry.id, content)
      match message?, id? reply with
      | some (id, content), _ => .message id content
      | none, some id => .rejected id
      | none, none => .skipped

end Entry

namespace Batch

variable {M : Type}

def empty : Batch M := ⟨[], []⟩

/-- Adds a decoded entry in front. -/
def add (batch : Batch M) : Decoded M → Batch M
  | .message id content => { batch with messages := (id, content) :: batch.messages }
  | .rejected id => { batch with rejected := id :: batch.rejected }
  | .skipped => batch

/-- Decodes entries. -/
def decode (read : String → Option M) (entries : List Reply) : Batch M :=
  entries.foldr (fun entry batch => batch.add (Entry.decode read entry)) empty

end Batch

end CacheFill.Stream
