import CacheFill.Json.Parser
import CacheFill.Json.Printer
import CacheFill.Proofs.Text.Numerals

/-!
The tokens of JSON text are read as they were written: strings whatever characters they hold, and
integers of 64 bits in front of anything that cannot go on with them.
-/

set_option autoImplicit false

namespace CacheFill.Json

/-! Strings -/

namespace Parser

theorem units_plain {c : Char} (unquoted : c ≠ '\"') (unescaped : c ≠ '\\')
    (printable : ¬ c.toNat < 0x20) (rest : List Char) :
    units (c :: rest) = (units rest).map fun (tail, rest) => (c.toNat :: tail, rest) := by
  rw [units.eq_5 c rest unquoted (fun _ _ _ _ _ same => absurd same unescaped)
    (fun _ _ same => absurd same unescaped), if_neg (not_or.mpr ⟨unescaped, printable⟩)]

theorem units_escape {letter c : Char} (unescaped : unescape? letter = some c) (rest : List Char) :
    units ('\\' :: letter :: rest) =
      (units rest).map fun (tail, rest) => (c.toNat :: tail, rest) := by
  have notUnicode : letter ≠ 'u' := by
    rintro rfl
    cases unescaped
  rw [units.eq_4 letter rest fun _ _ _ _ _ same => absurd same notUnicode, unescaped]
  cases units rest <;> rfl

theorem units_unicode {a b c d : Char} {unit : Nat} (digits : hex4? a b c d = some unit)
    (rest : List Char) :
    units ('\\' :: 'u' :: a :: b :: c :: d :: rest) =
      (units rest).map fun (tail, rest) => (unit :: tail, rest) := by
  rw [units.eq_3, digits]
  cases units rest <;> rfl

theorem charactersOf?_cons {unit : Nat} (low : ¬ isLowSurrogate unit = true)
    (high : ¬ isHighSurrogate unit = true) (rest : List Nat) :
    charactersOf? (unit :: rest) = (charactersOf? rest).map (Char.ofNat unit :: ·) := by
  cases rest with
  | nil => rw [charactersOf?.eq_3, if_neg high, if_neg low]
  | cons next rest => rw [charactersOf?.eq_2, if_neg high, if_neg low]

end Parser

/-- A control character is written by the four digits of its number. -/
theorem hex4?_control {code : Nat} (control : code < 0x20) :
    ∃ a b c d, Digits.render 16 4 code = [a, b, c, d] ∧ Parser.hex4? a b c d = some code := by
  have digit (n : Nat) : Digits.hexadecimal? (n % 16).digitChar = some (n % 16) :=
    Digits.hexadecimal?_digitChar (Nat.mod_lt _ (by decide))
  refine ⟨_, _, _, _, rfl, ?_⟩
  simp only [Parser.hex4?, digit, Option.bind_eq_bind, Option.bind_some, Digits.value,
    List.foldl_cons, List.foldl_nil, Option.pure_def, Option.some.injEq]
  omega

theorem units_escapeCharacter (c : Char) (rest : List Char) :
    Parser.units (escapeCharacter c ++ rest) =
      (Parser.units rest).map fun (tail, rest) => (c.toNat :: tail, rest) := by
  unfold escapeCharacter
  split_ifs with quote backspace feed newline return_ tab control
  · apply Parser.units_escape
    rcases quote with rfl | rfl <;> rfl
  · subst backspace
    exact Parser.units_escape rfl rest
  · subst feed
    exact Parser.units_escape rfl rest
  · subst newline
    exact Parser.units_escape rfl rest
  · subst return_
    exact Parser.units_escape rfl rest
  · subst tab
    exact Parser.units_escape rfl rest
  · obtain ⟨a, b, d, e, written, read⟩ := hex4?_control control
    rw [written]
    exact Parser.units_unicode read rest
  · exact Parser.units_plain (fun same => quote (.inl same)) (fun same => quote (.inr same))
      control rest

theorem units_escaped (characters rest : List Char) :
    Parser.units (characters.flatMap escapeCharacter ++ '\"' :: rest) =
      some (characters.map Char.toNat, rest) := by
  induction characters with
  | nil => rfl
  | cons c characters ih =>
      rw [List.flatMap_cons, List.append_assoc, units_escapeCharacter, ih]
      rfl

theorem charactersOf?_toNat (characters : List Char) :
    Parser.charactersOf? (characters.map Char.toNat) = some characters := by
  induction characters with
  | nil => rfl
  | cons c characters ih =>
      have valid : c.toNat < 0xd800 ∨ 0xdfff < c.toNat ∧ c.toNat < 0x110000 := c.valid
      rw [List.map_cons, Parser.charactersOf?_cons, ih, Char.ofNat_toNat]
      · rfl
      · simp only [Parser.isLowSurrogate, Bool.and_eq_true, decide_eq_true_eq]
        omega
      · simp only [Parser.isHighSurrogate, Bool.and_eq_true, decide_eq_true_eq]
        omega

theorem renderText_append (text : String) (rest : List Char) :
    renderText text ++ rest = '\"' :: (text.toList.flatMap escapeCharacter ++ '\"' :: rest) := by
  rw [renderText, List.append_assoc, List.cons_append, List.singleton_append]

theorem string_renderText (text : String) (rest : List Char) :
    Parser.string (renderText text ++ rest) = some (some text, rest) := by
  rw [renderText_append, Parser.string, units_escaped]
  simp only [Option.map_some, charactersOf?_toNat, String.ofList_toList]

/-! Numbers -/

/-- What may follow a value: nothing, or a character that separates or closes. -/
def Ends (rest : List Char) : Prop := ∀ c ∈ rest.head?, c = ',' ∨ c = ']' ∨ c = '\x7d'

theorem Ends.stops {rest : List Char} (ends : Ends rest) : Digits.Stops rest := by
  intro c mem
  rcases ends c mem with rfl | rfl | rfl <;> rfl

theorem Ends.no_fraction {rest : List Char} (ends : Ends rest) :
    Parser.fraction rest = some (none, rest) := by
  apply Parser.fraction.eq_2
  rintro more rfl
  rcases ends _ rfl with same | same | same <;> cases same

theorem Ends.no_exponent {rest : List Char} (ends : Ends rest) :
    Parser.exponent rest = some (none, rest) := by
  cases rest with
  | nil => rfl
  | cons c rest =>
      unfold Parser.exponent
      dsimp only
      rw [if_neg]
      rcases ends c rfl with rfl | rfl | rfl <;> decide

theorem digits_numeral {number : Nat} {digits : List Nat} (numeral : Digits.IsNumeral number digits)
    {rest : List Char} (ends : Ends rest) :
    Parser.digits (digits.map Nat.digitChar ++ rest) = some (digits, rest) := by
  unfold Parser.digits
  rw [Digits.span_map numeral.small ends.stops]
  obtain ⟨first, more, rfl⟩ := List.exists_cons_of_ne_nil numeral.nonempty
  rfl

theorem whole_numeral {number : Nat} {digits : List Nat} (numeral : Digits.IsNumeral number digits)
    {rest : List Char} (ends : Ends rest) :
    Parser.whole (digits.map Nat.digitChar ++ rest) = some (digits, rest) := by
  obtain ⟨first, more, rfl⟩ := List.exists_cons_of_ne_nil numeral.nonempty
  by_cases zero : first = 0
  · subst zero
    obtain rfl := numeral.leading rfl
    have alone : more = [] := by simpa using numeral.written
    subst alone
    rfl
  · rw [Parser.whole.eq_2]
    · exact digits_numeral numeral ends
    · intro _ same
      exact Digits.digitChar_ne_zero (numeral.small first List.mem_cons_self) zero
        (List.cons.inj same).1

theorem sign_numeral {number : Nat} {digits : List Nat} (numeral : Digits.IsNumeral number digits)
    (rest : List Char) :
    Parser.sign (digits.map Nat.digitChar ++ rest) = (false, digits.map Nat.digitChar ++ rest) := by
  obtain ⟨first, more, rfl⟩ := List.exists_cons_of_ne_nil numeral.nonempty
  apply Parser.sign.eq_2
  intro _ same
  exact Digits.digitChar_ne (numeral.small first List.mem_cons_self) rfl (List.cons.inj same).1

theorem ofWritten?_integer {value : Int} (low : -(2 ^ 63) ≤ value) (high : value < 2 ^ 64)
    {digits : List Nat} (numeral : Digits.IsNumeral value.natAbs digits) :
    Number.ofWritten? ⟨value < 0, digits, none, none⟩ = some (.integer value) := by
  have fits : Number.integer? (value < 0) value.natAbs = some (.integer value) := by
    unfold Number.integer?
    by_cases negative : value < 0
    · have nonzero : value.natAbs ≠ 0 := by omega
      have small : value.natAbs ≤ 1 <<< 63 := by
        change value.natAbs ≤ 9223372036854775808
        omega
      have same : -(value.natAbs : Int) = value := by omega
      simp only [negative, decide_true, if_true, nonzero, if_false, small, same]
    · have small : value.natAbs < UInt64.size := by
        change value.natAbs < 18446744073709551616
        omega
      have same : (value.natAbs : Int) = value := by omega
      simp [negative, small, same]
  unfold Number.ofWritten?
  simp only [numeral.value, fits]

theorem number_render {value : Int} (low : -(2 ^ 63) ≤ value) (high : value < 2 ^ 64)
    {rest : List Char} (ends : Ends rest) :
    Parser.number (Number.render (.integer value) ++ rest) = some (some (.integer value), rest) := by
  obtain ⟨digits, numeral⟩ := Digits.exists_isNumeral value.natAbs
  have signed : Parser.sign (Number.render (.integer value) ++ rest) =
      (decide (value < 0), digits.map Nat.digitChar ++ rest) := by
    rw [Number.render, Number.digitText, numeral.written]
    by_cases negative : value < 0
    · simp [negative, Parser.sign]
    · simpa [negative] using sign_numeral numeral rest
  unfold Parser.number
  rw [signed]
  simp only [whole_numeral numeral ends, ends.no_fraction, ends.no_exponent,
    ofWritten?_integer low high numeral, Option.bind_eq_bind, Option.bind_some, Option.pure_def]

end CacheFill.Json
