import CacheFill.Proofs.Json.Tokens

/-!
JSON text is read as the value that was written, down to the depth that a reader follows. Main
statement: `parse?_render`.
-/

set_option autoImplicit false

namespace CacheFill.Json

/-- To show something of all values it is enough to show it of a value whose parts have it. -/
theorem induction {motive : Json → Prop} (null : motive .null) (bool : ∀ b, motive (.bool b))
    (number : ∀ n, motive (.number n)) (string : ∀ text, motive (.string text))
    (array : ∀ items, (∀ item ∈ items, motive item) → motive (.array items))
    (object : ∀ members, (∀ member ∈ members, motive member.2) → motive (.object members))
    (unreadable : motive .unreadable) (value : Json) : motive value :=
  @Json.rec motive (fun items => ∀ item ∈ items, motive item)
    (fun members => ∀ member ∈ members, motive member.2) (fun member => motive member.2)
    null bool number string array object unreadable
    (fun _ mem => by cases mem)
    (fun _ _ first rest => List.forall_mem_cons.mpr ⟨first, rest⟩)
    (fun _ mem => by cases mem)
    (fun _ _ first rest => List.forall_mem_cons.mpr ⟨first, rest⟩)
    (fun _ _ second => second) value

mutual

/-- All numbers of a value are integers of 64 bits, and all of it can be written. -/
def isIntegral : Json → Bool
  | .number (.integer n) => -(2 ^ 63) ≤ n && n < 2 ^ 64
  | .number (.real _) => false
  | .array items => areIntegral items
  | .object members => haveIntegral members
  | .unreadable => false
  | _ => true

def areIntegral : List Json → Bool
  | [] => true
  | item :: rest => isIntegral item && areIntegral rest

def haveIntegral : List (String × Json) → Bool
  | [] => true
  | (_, value) :: rest => isIntegral value && haveIntegral rest

end

mutual

/-- How deep arrays and objects nest in a value. -/
def depth : Json → Nat
  | .array items => depthOfItems items + 1
  | .object members => depthOfMembers members + 1
  | _ => 0

def depthOfItems : List Json → Nat
  | [] => 0
  | item :: rest => max (depth item) (depthOfItems rest)

def depthOfMembers : List (String × Json) → Nat
  | [] => 0
  | (_, value) :: rest => max (depth value) (depthOfMembers rest)

end

mutual

/-- What is left of a value for a reader that follows nested arrays and objects so deep. -/
def cut : Nat → Json → Json
  | 0, .array _ => .unreadable
  | limit + 1, .array items => .array (cutItems limit items)
  | 0, .object _ => .unreadable
  | limit + 1, .object members => .object (cutMembers limit members)
  | _, value => value

def cutItems : Nat → List Json → List Json
  | _, [] => []
  | limit, item :: rest => cut limit item :: cutItems limit rest

def cutMembers : Nat → List (String × Json) → List (String × Json)
  | _, [] => []
  | limit, (name, value) :: rest => (name, cut limit value) :: cutMembers limit rest

end

theorem areIntegral_iff {items : List Json} :
    areIntegral items = true ↔ ∀ item ∈ items, item.isIntegral = true := by
  induction items with
  | nil => simp [areIntegral]
  | cons item rest ih => simp [areIntegral, ih]

theorem haveIntegral_iff {members : List (String × Json)} :
    haveIntegral members = true ↔ ∀ member ∈ members, member.2.isIntegral = true := by
  induction members with
  | nil => simp [haveIntegral]
  | cons member rest ih => simp [haveIntegral, ih]

theorem areReadable_iff {items : List Json} :
    areReadable items = true ↔ ∀ item ∈ items, item.isReadable = true := by
  induction items with
  | nil => simp [areReadable]
  | cons item rest ih => simp [areReadable, ih]

theorem haveReadable_iff {members : List (String × Json)} :
    haveReadable members = true ↔ ∀ member ∈ members, member.2.isReadable = true := by
  induction members with
  | nil => simp [haveReadable]
  | cons member rest ih => simp [haveReadable, ih]

theorem depthOfItems_le {items : List Json} {limit : Nat} :
    depthOfItems items ≤ limit ↔ ∀ item ∈ items, item.depth ≤ limit := by
  induction items with
  | nil => simp [depthOfItems]
  | cons item rest ih => simp [depthOfItems, ih]

theorem depthOfMembers_le {members : List (String × Json)} {limit : Nat} :
    depthOfMembers members ≤ limit ↔ ∀ member ∈ members, member.2.depth ≤ limit := by
  induction members with
  | nil => simp [depthOfMembers]
  | cons member rest ih => simp [depthOfMembers, ih]

theorem cutItems_eq (limit : Nat) (items : List Json) :
    cutItems limit items = items.map (cut limit) := by
  induction items with
  | nil => rfl
  | cons item rest ih => rw [cutItems, ih, List.map_cons]

theorem cutMembers_eq (limit : Nat) (members : List (String × Json)) :
    cutMembers limit members = members.map fun member => (member.1, member.2.cut limit) := by
  induction members with
  | nil => rfl
  | cons member rest ih => rw [cutMembers, ih, List.map_cons]

/-- A reader that goes deep enough finds all of a value. -/
theorem cut_of_depth_le {value : Json} {limit : Nat} (shallow : value.depth ≤ limit) :
    value.cut limit = value := by
  induction value using Json.induction generalizing limit with
  | array items ih =>
      cases limit with
      | zero => simp [depth] at shallow
      | succ limit =>
          rw [depth, Nat.add_le_add_iff_right, depthOfItems_le] at shallow
          rw [cut, cutItems_eq, List.map_congr_left fun item mem => ih item mem (shallow item mem),
            List.map_id']
  | object members ih =>
      cases limit with
      | zero => simp [depth] at shallow
      | succ limit =>
          rw [depth, Nat.add_le_add_iff_right, depthOfMembers_le] at shallow
          rw [cut, cutMembers_eq, List.map_congr_left (g := id), List.map_id]
          intro member mem
          rw [ih member mem (shallow member mem)]
          rfl
  | null | bool | number | string | unreadable => cases limit <;> rfl

/-- What a reader cannot follow to the bottom cannot be read. -/
theorem isReadable_cut {value : Json} (integral : value.isIntegral = true) (limit : Nat) :
    (value.cut limit).isReadable = true ↔ value.depth ≤ limit := by
  induction value using Json.induction generalizing limit with
  | array items ih =>
      cases limit with
      | zero => simp [cut, isReadable, depth]
      | succ limit =>
          rw [isIntegral, areIntegral_iff] at integral
          rw [cut, isReadable, areReadable_iff, cutItems_eq, depth, Nat.add_le_add_iff_right,
            depthOfItems_le, List.forall_mem_map]
          exact forall₂_congr fun item mem => ih item mem (integral item mem) limit
  | object members ih =>
      cases limit with
      | zero => simp [cut, isReadable, depth]
      | succ limit =>
          rw [isIntegral, haveIntegral_iff] at integral
          rw [cut, isReadable, haveReadable_iff, cutMembers_eq, depth, Nat.add_le_add_iff_right,
            depthOfMembers_le, List.forall_mem_map]
          exact forall₂_congr fun member mem => ih member mem (integral member mem) limit
  | unreadable => cases integral
  | null | bool | number | string => cases limit <;> simp [cut, isReadable, depth]

theorem isReadable_of_isIntegral {value : Json} (integral : value.isIntegral = true) :
    value.isReadable = true := by
  have readable := (isReadable_cut integral value.depth).mpr (Nat.le_refl _)
  rwa [cut_of_depth_le (Nat.le_refl _)] at readable

/-! Sequences -/

variable {α β : Type}

/-- Some parts, each after the first behind a comma. -/
def joined (written : β → List Char) (first : β) (more : List β) : List Char :=
  written first ++ more.flatMap fun part => ',' :: written part

theorem length_part_le (written : β → List Char) (first : β) (more : List β) :
    ∀ part ∈ first :: more, (written part).length ≤ (joined written first more).length := by
  intro part mem
  rw [joined, List.length_append]
  rcases List.mem_cons.mp mem with rfl | later
  · omega
  · have inside := (List.sublist_flatten_of_mem (List.mem_map_of_mem
      (f := fun part => ',' :: written part) later)).length_le
    rw [← List.flatMap_def, List.length_cons] at inside
    omega

theorem length_more_le (written : β → List Char) (first : β) (more : List β) :
    more.length ≤ (joined written first more).length := by
  rw [joined, List.length_append]
  induction more with
  | nil => simp
  | cons part rest ih =>
      rw [List.flatMap_cons, List.length_append, List.length_cons, List.length_cons]
      omega

theorem skip_of_head {c : Char} (solid : Parser.isBlank c = false) (rest : List Char) :
    Parser.skip (c :: rest) = c :: rest := by
  rw [Parser.skip, List.dropWhile_cons, solid]
  rfl

/-- Parts between commas are read one after the other, if each can be read by itself. -/
theorem items_joined {read : Parser.Reader α} {written : β → List Char} (meaning : β → α)
    {close : Char} (closes : close = ']' ∨ close = '\x7d') (first : β) (more : List β)
    (reads : ∀ part ∈ first :: more, ∀ rest, Ends rest →
      read (written part ++ rest) = some (meaning part, rest))
    {bound : Nat} (room : more.length < bound) (rest : List Char) :
    Parser.items read close bound (joined written first more ++ close :: rest) =
      some ((first :: more).map meaning, rest) := by
  have solid : Parser.isBlank close = false := by
    rcases closes with rfl | rfl <;> rfl
  have ends (rest : List Char) : Ends (close :: rest) := by
    intro c mem
    obtain rfl := Option.mem_some.mp mem
    exact .inr closes
  induction more generalizing first bound with
  | nil =>
      obtain ⟨bound, rfl⟩ := Nat.exists_eq_succ_of_ne_zero (Nat.ne_of_gt room)
      rw [joined, List.flatMap_nil, List.append_nil, Parser.items.eq_2,
        reads first List.mem_cons_self _ (ends rest)]
      simp only [skip_of_head solid, if_true, List.map_cons, List.map_nil]
  | cons next more ih =>
      obtain ⟨bound, rfl⟩ := Nat.exists_eq_succ_of_ne_zero (Nat.ne_of_gt (Nat.zero_lt_of_lt room))
      have split : joined written first (next :: more) ++ close :: rest =
          written first ++ ',' :: (joined written next more ++ close :: rest) := by
        simp [joined]
      have comma : Ends (',' :: (joined written next more ++ close :: rest)) := by
        intro c mem
        obtain rfl := Option.mem_some.mp mem
        exact .inl rfl
      have open_ : ',' ≠ close := by
        rcases closes with rfl | rfl <;> decide
      rw [split, Parser.items.eq_2, reads first List.mem_cons_self _ comma]
      simp only [skip_of_head (c := ',') rfl, open_, if_false, if_true]
      rw [ih next (fun part mem => reads part (List.mem_cons_of_mem _ mem))
        (Nat.lt_of_succ_lt_succ room)]
      rfl

/-- A sequence is read behind its opening character. -/
theorem sequence_joined {read : Parser.Reader α} {written : β → List Char} (meaning : β → α)
    {close : Char} (closes : close = ']' ∨ close = '\x7d') (first : β) (more : List β)
    (reads : ∀ part ∈ first :: more, ∀ rest, Ends rest →
      read (written part ++ rest) = some (meaning part, rest))
    (begins : ∃ c tail, written first = c :: tail ∧ Parser.isBlank c = false ∧ c ≠ close)
    {bound : Nat} (room : more.length < bound) (rest : List Char) :
    Parser.sequence read close bound (joined written first more ++ close :: rest) =
      some ((first :: more).map meaning, rest) := by
  have items := items_joined meaning closes first more reads room rest
  obtain ⟨c, tail, starts, solid, unclosed⟩ := begins
  rw [joined, starts, List.cons_append, List.cons_append] at items ⊢
  unfold Parser.sequence
  rw [skip_of_head solid]
  simp only [unclosed, if_false]
  exact items

theorem sequence_nil {read : Parser.Reader α} {close : Char}
    (closes : close = ']' ∨ close = '\x7d') (bound : Nat) (rest : List Char) :
    Parser.sequence read close bound (close :: rest) = some ([], rest) := by
  have solid : Parser.isBlank close = false := by
    rcases closes with rfl | rfl <;> rfl
  unfold Parser.sequence
  rw [skip_of_head solid]
  simp

/-! Values -/

/-- How a member stands in an object. -/
def memberText (member : String × Json) : List Char :=
  renderText member.1 ++ ':' :: renderChars member.2

theorem renderItems_eq (items : List Json) :
    renderItems items = items.flatMap fun item => ',' :: renderChars item := by
  induction items with
  | nil => rfl
  | cons item rest ih => rw [renderItems, ih, List.flatMap_cons]

theorem renderMembers_eq (members : List (String × Json)) :
    renderMembers members = members.flatMap fun member => ',' :: memberText member := by
  induction members with
  | nil => rfl
  | cons member rest ih =>
      rw [renderMembers, ih, List.flatMap_cons, memberText, List.append_assoc]
      simp

theorem renderChars_array (first : Json) (rest : List Json) :
    renderChars (.array (first :: rest)) = '[' :: (joined renderChars first rest ++ [']']) := by
  rw [renderChars, renderItems_eq, joined]
  simp

theorem renderChars_object (first : String × Json) (rest : List (String × Json)) :
    renderChars (.object (first :: rest)) =
      '\x7b' :: (joined memberText first rest ++ ['\x7d']) := by
  rw [renderChars, renderMembers_eq, joined, memberText]
  simp

theorem member_memberText {read : Parser.Reader Json} {member : String × Json} {found : Json}
    {rest : List Char} (reads : read (renderChars member.2 ++ rest) = some (found, rest)) :
    Parser.member read (memberText member ++ rest) = some ((some member.1, found), rest) := by
  have name := string_renderText member.1 (':' :: (renderChars member.2 ++ rest))
  rw [renderText_append] at name
  unfold Parser.member
  rw [memberText, List.append_assoc, List.cons_append, renderText_append, skip_of_head rfl, name]
  simp only [Option.bind_eq_bind, Option.bind_some, skip_of_head (c := ':') rfl, reads,
    Option.pure_def]

theorem objectOf_written (members : List (String × Json)) :
    Parser.objectOf (members.map fun member => (some member.1, member.2)) = .object members := by
  have all : (members.map fun member => (some member.1, member.2)).mapM
      (fun member => member.1.map fun name => (name, member.2)) = some members := by
    induction members with
    | nil => rfl
    | cons member rest ih =>
        rw [List.map_cons, List.mapM_cons, ih]
        rfl
  exact congrArg (Parser.valueOf Json.object) all

/-- A value that holds no others is read as a token. -/
theorem value_token {c : Char} (solid : Parser.isBlank c = false) (array : c ≠ '[')
    (object : c ≠ '\x7b') (bound depth : Nat) (rest : List Char) :
    Parser.value bound depth (c :: rest) = Parser.scalar (c :: rest) := by
  cases bound with
  | zero => rw [Parser.value, skip_of_head solid]
  | succ bound =>
      rw [Parser.value, skip_of_head solid]
      split
      next same => exact absurd (List.cons.inj same).1 array
      next same => exact absurd (List.cons.inj same).1 object
      next => rfl

theorem value_array (bound depth : Nat) (rest : List Char) :
    Parser.value (bound + 1) depth ('[' :: rest) =
      (Parser.sequence (Parser.value bound (depth - 1)) ']' (bound + 1) rest).map
        fun (items, rest) => (if depth = 0 then .unreadable else .array items, rest) := by
  rw [Parser.value, skip_of_head rfl]
  rfl

theorem value_object (bound depth : Nat) (rest : List Char) :
    Parser.value (bound + 1) depth ('\x7b' :: rest) =
      (Parser.sequence (Parser.member (Parser.value bound (depth - 1))) '\x7d' (bound + 1)
        rest).map fun (members, rest) =>
          (if depth = 0 then .unreadable else Parser.objectOf members, rest) := by
  rw [Parser.value, skip_of_head rfl]
  rfl

/-- An integer starts with a sign or a digit. -/
theorem render_integer_head (value : Int) :
    ∃ c tail, Number.render (.integer value) = c :: tail ∧
      ∀ other, Digits.decimal? other = none → other ≠ '-' → c ≠ other := by
  obtain ⟨digits, numeral⟩ := Digits.exists_isNumeral value.natAbs
  obtain ⟨first, more, rfl⟩ := List.exists_cons_of_ne_nil numeral.nonempty
  rw [Number.render, Number.digitText, numeral.written]
  by_cases negative : value < 0
  · rw [if_pos negative]
    exact ⟨'-', _, rfl, fun other _ different same => different same.symm⟩
  · rw [if_neg negative]
    exact ⟨_, _, rfl, fun other nondigit _ =>
      Digits.digitChar_ne (numeral.small first List.mem_cons_self) nondigit⟩

theorem solid_of_numeral {c : Char}
    (other : ∀ other, Digits.decimal? other = none → other ≠ '-' → c ≠ other) :
    Parser.isBlank c = false := by
  simp [Parser.isBlank, other ' ' rfl (by decide), other '\n' rfl (by decide),
    other '\t' rfl (by decide), other '\r' rfl (by decide)]

theorem value_integer {value : Int} (low : -(2 ^ 63) ≤ value) (high : value < 2 ^ 64)
    (bound depth : Nat) {rest : List Char} (ends : Ends rest) :
    Parser.value bound depth (Number.render (.integer value) ++ rest) =
      some (.number (.integer value), rest) := by
  have read := number_render low high ends
  obtain ⟨c, tail, starts, other⟩ := render_integer_head value
  rw [starts, List.cons_append] at read ⊢
  rw [value_token (solid_of_numeral other) (other _ rfl (by decide)) (other _ rfl (by decide)),
    Parser.scalar.eq_5, read]
  · rfl
  · exact fun _ same => other _ rfl (by decide) (List.cons.inj same).1
  · exact fun _ same => other _ rfl (by decide) (List.cons.inj same).1
  · exact fun _ same => other _ rfl (by decide) (List.cons.inj same).1
  · exact fun _ same => other _ rfl (by decide) (List.cons.inj same).1

theorem value_string (text : String) (bound depth : Nat) (rest : List Char) :
    Parser.value bound depth (renderText text ++ rest) = some (.string text, rest) := by
  have read := string_renderText text rest
  rw [renderText_append] at read ⊢
  rw [value_token rfl (by decide) (by decide), Parser.scalar.eq_4, read]
  rfl

/-- No value starts with a blank or closes anything. -/
theorem renderChars_head {value : Json} (integral : value.isIntegral = true) :
    ∃ c tail, renderChars value = c :: tail ∧ Parser.isBlank c = false ∧ c ≠ ']' := by
  cases value with
  | null => exact ⟨'n', _, rfl, rfl, by decide⟩
  | bool b => cases b <;> exact ⟨_, _, rfl, rfl, by decide⟩
  | number number =>
      cases number with
      | real => cases integral
      | integer value =>
          obtain ⟨c, tail, starts, other⟩ := render_integer_head value
          exact ⟨c, tail, starts, solid_of_numeral other, other _ rfl (by decide)⟩
  | string text =>
      rw [renderChars, renderText]
      exact ⟨'\"', _, rfl, rfl, by decide⟩
  | array items =>
      cases items with
      | nil => exact ⟨'[', _, rfl, rfl, by decide⟩
      | cons first rest => exact ⟨'[', _, renderChars_array first rest, rfl, by decide⟩
  | object members =>
      cases members with
      | nil => exact ⟨'\x7b', _, rfl, rfl, by decide⟩
      | cons first rest => exact ⟨'\x7b', _, renderChars_object first rest, rfl, by decide⟩
  | unreadable => cases integral

theorem length_renderChars_pos {value : Json} (integral : value.isIntegral = true) :
    0 < (renderChars value).length := by
  obtain ⟨c, tail, starts, _⟩ := renderChars_head integral
  rw [starts]
  exact Nat.succ_pos _

/-- An array is read, as far as a reader goes down, if its items are. -/
theorem value_renderChars_array {items : List Json} (integral : areIntegral items = true)
    {bound : Nat} (room : (renderChars (.array items)).length ≤ bound + 1) (depth : Nat)
    (reads : ∀ item ∈ items, (renderChars item).length ≤ bound → ∀ rest, Ends rest →
      Parser.value bound (depth - 1) (renderChars item ++ rest) =
        some (item.cut (depth - 1), rest))
    (rest : List Char) :
    Parser.value (bound + 1) depth (renderChars (.array items) ++ rest) =
      some (cut depth (.array items), rest) := by
  cases items with
  | nil =>
      rw [show renderChars (.array []) ++ rest = '[' :: ']' :: rest from rfl, value_array,
        sequence_nil (.inl rfl)]
      cases depth <;> rfl
  | cons first more =>
      rw [areIntegral_iff] at integral
      rw [renderChars_array, List.length_cons, List.length_append, List.length_singleton] at room
      have longest := length_part_le renderChars first more
      have many := length_more_le renderChars first more
      have parts : ∀ item ∈ first :: more, ∀ rest, Ends rest →
          Parser.value bound (depth - 1) (renderChars item ++ rest) =
            some (item.cut (depth - 1), rest) := by
        intro item mem
        have short := longest item mem
        exact reads item mem (by omega)
      rw [renderChars_array, List.cons_append, List.append_assoc, List.singleton_append,
        value_array, sequence_joined (cut (depth - 1)) (.inl rfl) first more parts
          (renderChars_head (integral first List.mem_cons_self)) (by omega)]
      cases depth with
      | zero => rfl
      | succ depth =>
          rw [cut, cutItems_eq]
          rfl

/-- An object is read, as far as a reader goes down, if the values of its members are. -/
theorem value_renderChars_object {members : List (String × Json)}
    {bound : Nat} (room : (renderChars (.object members)).length ≤ bound + 1) (depth : Nat)
    (reads : ∀ member ∈ members, (renderChars member.2).length ≤ bound → ∀ rest, Ends rest →
      Parser.value bound (depth - 1) (renderChars member.2 ++ rest) =
        some (member.2.cut (depth - 1), rest))
    (rest : List Char) :
    Parser.value (bound + 1) depth (renderChars (.object members) ++ rest) =
      some (cut depth (.object members), rest) := by
  cases members with
  | nil =>
      rw [show renderChars (.object []) ++ rest = '\x7b' :: '\x7d' :: rest from rfl,
        value_object, sequence_nil (.inr rfl)]
      cases depth <;> rfl
  | cons first more =>
      rw [renderChars_object, List.length_cons, List.length_append, List.length_singleton] at room
      have longest := length_part_le memberText first more
      have many := length_more_le memberText first more
      have parts : ∀ member ∈ first :: more, ∀ rest, Ends rest →
          Parser.member (Parser.value bound (depth - 1)) (memberText member ++ rest) =
            some ((some member.1, member.2.cut (depth - 1)), rest) := by
        intro member mem rest ends
        have short := longest member mem
        rw [memberText, List.length_append, List.length_cons] at short
        exact member_memberText (reads member mem (by omega) rest ends)
      rw [renderChars_object, List.cons_append, List.append_assoc, List.singleton_append,
        value_object, sequence_joined (fun member => (some member.1, member.2.cut (depth - 1)))
          (.inr rfl) first more parts ⟨'\"', _, renderText_append _ _, rfl, by decide⟩ (by omega)]
      cases depth with
      | zero => rfl
      | succ depth =>
          have object := objectOf_written (cutMembers depth (first :: more))
          rw [cutMembers_eq, List.map_map] at object
          rw [cut, cutMembers_eq, ← object]
          rfl

theorem value_renderChars {value : Json} (integral : value.isIntegral = true) {bound : Nat}
    (room : (renderChars value).length ≤ bound) (depth : Nat) {rest : List Char}
    (ends : Ends rest) :
    Parser.value bound depth (renderChars value ++ rest) = some (value.cut depth, rest) := by
  induction value using Json.induction generalizing bound depth rest with
  | null =>
      rw [show renderChars .null ++ rest = 'n' :: 'u' :: 'l' :: 'l' :: rest from rfl,
        value_token rfl (by decide) (by decide)]
      cases depth <;> rfl
  | bool b =>
      cases b with
      | true =>
          rw [show renderChars (.bool true) ++ rest = 't' :: 'r' :: 'u' :: 'e' :: rest from rfl,
            value_token rfl (by decide) (by decide)]
          cases depth <;> rfl
      | false =>
          rw [show renderChars (.bool false) ++ rest = 'f' :: 'a' :: 'l' :: 's' :: 'e' :: rest
            from rfl, value_token rfl (by decide) (by decide)]
          cases depth <;> rfl
  | number number =>
      cases number with
      | real => cases integral
      | integer value =>
          simp only [isIntegral, Bool.and_eq_true, decide_eq_true_eq] at integral
          rw [renderChars, value_integer integral.1 integral.2 bound depth ends]
          cases depth <;> rfl
  | string text =>
      rw [renderChars, value_string]
      cases depth <;> rfl
  | array items ih =>
      obtain ⟨bound, rfl⟩ := Nat.exists_eq_succ_of_ne_zero (Nat.ne_of_gt (Nat.lt_of_lt_of_le
        (length_renderChars_pos integral) room))
      have each := areIntegral_iff.mp integral
      apply value_renderChars_array integral room
      intro item mem short rest ends
      exact ih item mem (each item mem) short (depth - 1) ends
  | object members ih =>
      obtain ⟨bound, rfl⟩ := Nat.exists_eq_succ_of_ne_zero (Nat.ne_of_gt (Nat.lt_of_lt_of_le
        (length_renderChars_pos integral) room))
      have each := haveIntegral_iff.mp integral
      apply value_renderChars_object room
      intro member mem short rest ends
      exact ih member mem (each member mem) short (depth - 1) ends
  | unreadable => cases integral

/-- The text of a value is read as the value, as far as a reader goes down. -/
theorem parse?_render {value : Json} (integral : value.isIntegral = true) :
    parse? value.render = some (value.cut depthLimit) := by
  have ends : Ends [] := by
    intro c mem
    cases mem
  have read := value_renderChars integral (Nat.le_refl _) depthLimit ends
  rw [List.append_nil] at read
  rw [parse?, render, String.length_ofList, String.toList_ofList, read]
  rfl

end CacheFill.Json
