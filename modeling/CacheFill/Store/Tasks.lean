import CacheFill.LoadType
import CacheFill.Json.Basic
import CacheFill.Store.Error
import CacheFill.Table
import CacheFill.Task.Status

/-!
The store of task records. A record is inserted once and then changed only by writes that expect a
version of it; every write counts the version up by one.
-/

set_option autoImplicit false

namespace CacheFill

/-- What is stored about a load task. -/
structure Record where
  task : TaskId
  type : LoadType
  key : String
  status : Status
  version : UInt64
  /-- What a loader left behind to go on from at the next attempt. -/
  resume : Option Json

structure StateCounts where
  scheduled : Nat
  waitsForRetry : Nat
  failed : Nat
  loaded : Nat
  deriving DecidableEq, Repr

/-- The record that a write of a status and a resume state leaves behind. -/
def Record.next (record : Record) (status : Status) (resume : Option Json) : Record :=
  { record with status := status, resume := resume, version := record.version + 1 }

structure TaskStore where
  records : Table TaskId Record

namespace TaskStore

def empty : TaskStore := ⟨.empty⟩

instance : Inhabited TaskStore := ⟨empty⟩

def get? (store : TaskStore) (task : TaskId) : Option Record := store.records.get? task

/-- Puts a record in place of the one with the same task, if there is one. -/
def put (store : TaskStore) (record : Record) : TaskStore :=
  ⟨store.records.insert record.task record⟩

/-- Stores a new record, as version 1 whatever version it came with; gives the stored record. -/
def insert (store : TaskStore) (record : Record) : Except StoreError (Record × TaskStore) :=
  match store.get? record.task with
  | some _ => .error (.alreadyExists record.task)
  | none =>
      let stored := { record with version := 1 }
      .ok (stored, store.put stored)

/-- Writes status and resume state of a record whose version is as expected; gives the record as it
is then. -/
def update (store : TaskStore) (task : TaskId) (expected : Expected) (status : Status)
    (resume : Option Json) : Except StoreError (Record × TaskStore) :=
  match store.get? task with
  | none => .error (.notFound task)
  | some record =>
      if expected.isMet record.version then
        let written := record.next status resume
        .ok (written, store.put written)
      else .error (.conflict task expected record.version)

/-- All records, by increasing task. -/
def sorted (store : TaskStore) : List Record :=
  store.records.values.mergeSort fun a b => a.task ≤ b.task

/-- The records in a state, by increasing task, as many as asked for. -/
def inState (store : TaskStore) (state : TaskState) (limit : Nat) : List Record :=
  (store.sorted.filter fun record => record.status.state = state).take limit

/-- When a record may be tried again. -/
def retryAt? (record : Record) : Option Instant :=
  match record.status with
  | .waiting status => some status.retryAt
  | _ => none

def isDue (now : Instant) (record : Record) : Bool :=
  match retryAt? record with
  | some retryAt => retryAt ≤ now
  | none => false

/-- Whether a waiting record comes before another: by the time of its retry, then by its task. -/
def dueBefore (a b : Record) : Bool :=
  match retryAt? a, retryAt? b with
  | some first, some second => first < second || (first = second && a.task ≤ b.task)
  | _, _ => a.task ≤ b.task

/-- The waiting records whose retry time has come, the longest due first, as many as asked for. -/
def due (store : TaskStore) (now : Instant) (limit : Nat) : List Record :=
  ((store.records.values.filter (isDue now)).mergeSort dueBefore).take limit

def countIn (store : TaskStore) (state : TaskState) : Nat :=
  store.records.values.countP fun record => record.status.state = state

def counts (store : TaskStore) : StateCounts :=
  ⟨store.countIn .scheduled, store.countIn .waitsForRetry, store.countIn .failed,
    store.countIn .loaded⟩

end TaskStore

end CacheFill
