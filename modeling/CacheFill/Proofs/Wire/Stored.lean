import CacheFill.Proofs.Wire.Lossless

/-!
Stored records are read back from their JSON form: from the value with whatever a loader left behind,
and from the text as long as that does not nest deeper than a reader follows. Null is left out: where
nothing was left behind, the form has a null. Main statement: `stored_record_survives`.
-/

set_option autoImplicit false

namespace CacheFill

namespace Json

theorem uint64?_nat (n : UInt64) : uint64? (.nat n.toNat) = some n := by
  rw [uint64?, natural?, below?_nat n.toNat_lt, Option.map_some, UInt64.ofNat_toNat]

theorem cut_eq_null_iff {value : Json} {limit : Nat} : value.cut limit = .null ↔ value = .null := by
  cases value <;> cases limit <;> simp [cut]

theorem isDocument_null : null.IsDocument := ⟨rfl, rfl⟩

theorem Fields.optional_of_ne_null {α : Type} {fields : Fields} {read : Json → Option α}
    {name : String} {value : Json} (found : fields name = some value) (told : value ≠ .null) :
    fields.optional read name = (read value).map some := by
  unfold optional
  rw [found]
  split
  next none => cases none
  next null => exact absurd (Option.some.inj null) told
  next other => rw [Option.some.inj other]

end Json

namespace Record

/-- Its points in time can be written, and what a loader left behind is a document other than
null. -/
structure IsPlain (record : Record) : Prop where
  placed : record.status.IsPlaced
  document : ∀ data ∈ record.resume, data.IsDocument
  told : record.resume ≠ some .null

/-- How deep nests what a loader left behind. -/
def resumeDepth (record : Record) : Nat := (record.resume.getD .null).depth

/-- The form of a record as a reader sees it that follows so many levels of what a loader left
behind. -/
def seenTo (record : Record) (limit : Nat) : Json :=
  .object [("task_id", record.task.toJson), ("load_type", record.type.toJson),
    ("key", .string record.key), ("status", record.status.toJson),
    ("version", .nat record.version.toNat),
    ("resume_state", (record.resume.getD .null).cut limit)]

variable {record : Record}

theorem optional_cut (plain : record.IsPlain) {fields : Json.Fields} {name : String} (limit : Nat)
    (found : fields name = some ((record.resume.getD .null).cut limit)) :
    fields.optional Json.any? name =
      if record.resumeDepth ≤ limit then some record.resume else none := by
  unfold resumeDepth
  cases left : record.resume with
  | none =>
      rw [left, Option.getD_none, Json.cut_eq_null_iff.mpr rfl] at found
      simp [Json.Fields.optional, found, Json.depth]
  | some data =>
      rw [left, Option.getD_some] at found
      have told : data.cut limit ≠ .null := by
        rw [ne_eq, Json.cut_eq_null_iff]
        rintro rfl
        exact plain.told left
      rw [Json.Fields.optional_of_ne_null found told, Json.any?_cut (plain.document data left),
        Option.getD_some]
      split <;> rfl

/-- A reader finds the record if it follows what was left behind to the bottom, and nothing
otherwise. -/
theorem ofJson?_seenTo (plain : record.IsPlain) (limit : Nat) :
    ofJson? (record.seenTo limit) =
      if record.resumeDepth ≤ limit then some record else none := by
  by_cases shallow : record.resumeDepth ≤ limit <;>
    simp [seenTo, ofJson?, Json.fields?, Json.occurrences, Json.Fields.required, List.lookup_cons,
      TaskId.ofJson?_toJson, LoadType.ofJson?_toJson, Json.string?, Status.ofJson?,
      Status.read?_toJson false plain.placed, Json.uint64?_nat, optional_cut plain limit, shallow]

theorem toJson_eq_seenTo (record : Record) : record.toJson = record.seenTo record.resumeDepth := by
  rw [toJson, seenTo, resumeDepth, Json.cut_of_depth_le (Nat.le_refl _)]

theorem isIntegral_toJson (plain : record.IsPlain) : record.toJson.isIntegral = true := by
  have document : (record.resume.getD .null).IsDocument := by
    cases left : record.resume with
    | none => exact Json.isDocument_null
    | some data => exact plain.document data left
  simp [toJson, Json.isIntegral, Json.haveIntegral, Status.isIntegral_toJson, document.integral,
    Json.isIntegral_of_lt record.version.toNat_lt, LoadType.toJson, TaskId.toJson]

theorem cut_toJson (record : Record) :
    record.toJson.cut Json.depthLimit = record.seenTo Json.dataLimit := by
  have status : record.status.toJson.cut Json.dataLimit = record.status.toJson :=
    Json.cut_of_depth_le (record.status.depth_toJson.trans (by decide))
  rw [seenTo, ← status]
  rfl

theorem ofJson?_toJson (plain : record.IsPlain) : ofJson? record.toJson = some record := by
  rw [record.toJson_eq_seenTo, ofJson?_seenTo plain, if_pos (Nat.le_refl _)]

theorem reread (plain : record.IsPlain) :
    Json.reread toJson ofJson? record =
      if record.resumeDepth ≤ Json.dataLimit then some record else none := by
  rw [Json.reread, Json.parse?_render (isIntegral_toJson plain), Option.bind_some, cut_toJson,
    ofJson?_seenTo plain]

end Record

/-- A stored record survives being written: its value is read back, and so is its text, unless what a
loader left behind nests more than 126 levels deep; such a text is not read at all. -/
theorem stored_record_survives (record : Record) (plain : record.IsPlain) :
    Record.ofJson? record.toJson = some record ∧
      Json.reread Record.toJson Record.ofJson? record =
        if record.resumeDepth ≤ 126 then some record else none :=
  ⟨Record.ofJson?_toJson plain, Record.reread plain⟩

/-- A record in its last version, of a task that waits in a leap second, with as much left behind as
can be. -/
theorem last_version_survives :
    let record : Record := ⟨default, default, "κ\\",
      .waiting ⟨4294967295, .leapSecond, ⟨.transient, "\u2028 \"\n\x00\""⟩⟩,
      18446744073709551615, some (.nested 126)⟩
    record.IsPlain ∧ Record.ofJson? record.toJson = some record ∧
      Json.reread Record.toJson Record.ofJson? record = some record := by
  intro record
  have plain : record.IsPlain := by
    refine ⟨Instant.isPlaced_leapSecond, ?_, nofun⟩
    rintro _ ⟨⟩
    exact Json.isDocument_nested 126
  obtain ⟨value, text⟩ := stored_record_survives record plain
  refine ⟨plain, value, ?_⟩
  rw [text]
  exact if_pos (Json.depth_nested 126).le

/-- What a loader left behind is lost if it is null, and it makes the text unreadable if it nests one
level deeper; and a leap second that does not stand at the end of a minute comes back as another
point in time. -/
theorem resume_lost :
    let record (data : Json) : Record := ⟨default, default, "", .loaded ⟨.epoch, 1⟩, 1, some data⟩
    let misplaced : Instant := ⟨30, 1500000000, by decide, by decide⟩
    (record (.nested 127)).IsPlain ∧
      Json.reread Record.toJson Record.ofJson? (record (.nested 127)) = none ∧
      Record.ofJson? (record .null).toJson = some { record .null with resume := none } ∧
      Instant.ofJson? misplaced.toJson = some ⟨31, 500000000, by decide, by decide⟩ := by
  intro record misplaced
  have plain : (record (.nested 127)).IsPlain := by
    refine ⟨nofun, ?_, nofun⟩
    rintro _ ⟨⟩
    exact Json.isDocument_nested 127
  have deep : ¬ (record (.nested 127)).resumeDepth ≤ Json.dataLimit := by
    change ¬ (Json.nested 127).depth ≤ 126
    rw [Json.depth_nested]
    decide
  have untold : ({ record .null with resume := none } : Record).IsPlain := ⟨nofun, nofun, nofun⟩
  refine ⟨plain, ?_, Record.ofJson?_toJson untold, by decide +kernel⟩
  rw [Record.reread plain, if_neg deep]

end CacheFill
