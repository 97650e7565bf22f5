import Mathlib.Tactic.Lemma
import PEInspect.Json.Printer
import PEInspect.Json.Reader

/-!
# Quoted texts

What is written for a text between quotation marks is read back. The writer spells each character as
itself or as escapes of one or two 16-bit units, the reader first collects the units
(`readUnits_escapeChar`) and then joins the surrogate pairs among them (`joinUnits_charUnits`). The
first step loses nothing of what follows, so texts are read back by induction on their characters
(`readText_printed`).
-/

namespace PEInspect.Json

/-- The units of a character: itself, or a surrogate pair beyond the basic plane. -/
def charUnits (c : Char) : List Nat :=
  if c.toNat < 0x10000 then [c.toNat]
  else [0xD800 + (c.toNat - 0x10000) / 0x400, 0xDC00 + (c.toNat - 0x10000) % 0x400]

/-- Characters are no surrogates, and there is a last one. -/
lemma scalar (c : Char) : c.toNat < 0xD800 ∨ 0xDFFF < c.toNat ∧ c.toNat < 0x110000 :=
  c.valid

/-! ## Reading units -/

/-- A hexadecimal digit is read as its value. -/
lemma hexValue?_hexDigit {n : Nat} (small : n < 16) : hexValue? (Text.hexDigit n) = some n := by
  have all : ∀ n < 16, hexValue? (Text.hexDigit n) = some n := by decide
  exact all n small

/-- Four hexadecimal digits write any 16-bit unit. -/
lemma readUnits_escapeUnit {n : Nat} (small : n < 0x10000) (rest : List Char) :
    readUnits (escapeUnit n ++ rest) = (readUnits rest).map fun found => (n :: found.1, found.2) := by
  have digits : Text.hexDigits 4 n = [Text.hexDigit (n / 16 / 16 / 16 % 16),
      Text.hexDigit (n / 16 / 16 % 16), Text.hexDigit (n / 16 % 16), Text.hexDigit (n % 16)] := rfl
  have unit : hexUnit? (Text.hexDigit (n / 16 / 16 / 16 % 16)) (Text.hexDigit (n / 16 / 16 % 16))
      (Text.hexDigit (n / 16 % 16)) (Text.hexDigit (n % 16)) = some n := by
    simp only [hexUnit?, hexValue?_hexDigit (Nat.mod_lt _ (by decide : 0 < 16)), Option.bind_eq_bind,
      Option.bind_some]
    exact congrArg some (by omega)
  rw [escapeUnit, digits]
  simp only [List.cons_append, List.nil_append, readUnits, unit]
  cases readUnits rest <;> rfl

/-- A letter behind a backslash. -/
lemma readUnits_short {c : Char} {n : Nat} (letter : c ≠ 'u') (short : shortEscape? c = some n)
    (rest : List Char) : readUnits ('\\' :: c :: rest) =
      (readUnits rest).map fun found => (n :: found.1, found.2) := by
  rw [readUnits, short]
  · cases readUnits rest <;> rfl
  · rintro _ _ _ _ _ rfl
    exact absurd rfl letter

/-- A character that stands for itself. -/
lemma readUnits_plain {c : Char} (quote : c ≠ '"') (slash : c ≠ '\\') (shown : ' ' ≤ c)
    (rest : List Char) :
    readUnits (c :: rest) = (readUnits rest).map fun found => (c.toNat :: found.1, found.2) := by
  have printable : ¬ c.toNat < 0x20 := Nat.not_lt.mpr shown
  rw [readUnits, if_neg printable]
  · cases readUnits rest <;> rfl
  · exact quote
  · rintro _ _ _ _ _ rfl
    exact absurd rfl slash
  · rintro _ _ rfl
    exact absurd rfl slash

/-- A character of the lower range is one unit. -/
lemma charUnits_low {c : Char} (low : c.toNat < 0x10000) : charUnits c = [c.toNat] := by
  rw [charUnits, if_pos low]

/-- What is written for a character is read as its units. -/
lemma readUnits_escapeChar (c : Char) (rest : List Char) :
    readUnits (escapeChar c ++ rest) =
      (readUnits rest).map fun found => (charUnits c ++ found.1, found.2) := by
  rw [escapeChar]
  split
  · rename_i marked
    rcases marked with rfl | rfl
    · exact readUnits_short (by decide) rfl rest
    · exact readUnits_short (by decide) rfl rest
  · rename_i unmarked
    obtain ⟨quote, slash⟩ := not_or.mp unmarked
    split
    · rename_i line
      subst line
      exact readUnits_short (by decide) rfl rest
    split
    · rename_i line
      subst line
      exact readUnits_short (by decide) rfl rest
    split
    · rename_i tab
      subst tab
      exact readUnits_short (by decide) rfl rest
    split
    · rename_i feed
      subst feed
      exact readUnits_short (by decide) rfl rest
    split
    · rename_i back
      subst back
      exact readUnits_short (by decide) rfl rest
    split
    · rename_i shown
      have low : c.toNat < 0x10000 := Nat.lt_of_le_of_lt shown.2 (by decide)
      rw [charUnits_low low]
      exact readUnits_plain quote slash shown.1 rest
    split
    · rename_i low
      rw [charUnits_low low]
      exact readUnits_escapeUnit low rest
    -- Beyond the basic plane there are two units to read.
    · rename_i high
      have bound := scalar c
      rw [charUnits, if_neg high, List.append_assoc, readUnits_escapeUnit (by omega),
        readUnits_escapeUnit (by omega), Option.map_map]
      rfl

/-- The units of an escaped text are read up to its closing quote. -/
lemma readUnits_printed (s rest : List Char) :
    readUnits (s.flatMap escapeChar ++ '"' :: rest) = some (s.flatMap charUnits, rest) := by
  induction s with
  | nil => rfl
  | cons c s ih =>
    rw [List.flatMap_cons, List.append_assoc, readUnits_escapeChar, ih]
    rfl

/-! ## Joining units -/

/-- The unit of a character stands for the character. -/
lemma charOfUnit_toNat (c : Char) : charOfUnit c.toNat = c := by
  have bound := scalar c
  rw [charOfUnit, if_neg (by omega), Char.ofNat_toNat]

/-- A character of the basic plane is joined to nothing. -/
lemma joinUnits_toNat (c : Char) (units : List Nat) :
    joinUnits (c.toNat :: units) = c :: joinUnits units := by
  have alone : isHighSurrogate c.toNat = false := by
    have bound := scalar c
    simp only [isHighSurrogate, Bool.and_eq_false_iff, decide_eq_false_iff_not]
    omega
  cases units with
  | nil => rw [joinUnits, joinUnits, charOfUnit_toNat]
  | cons next units =>
    rw [joinUnits, alone, charOfUnit_toNat]
    rfl

/-- The units of a character are joined to it. -/
lemma joinUnits_charUnits (c : Char) (units : List Nat) :
    joinUnits (charUnits c ++ units) = c :: joinUnits units := by
  by_cases low : c.toNat < 0x10000
  · rw [charUnits_low low]
    exact joinUnits_toNat c units
  · have bound := scalar c
    have first : isHighSurrogate (0xD800 + (c.toNat - 0x10000) / 0x400) = true := by
      simp only [isHighSurrogate, Bool.and_eq_true, decide_eq_true_eq]
      omega
    have second : isLowSurrogate (0xDC00 + (c.toNat - 0x10000) % 0x400) = true := by
      simp only [isLowSurrogate, Bool.and_eq_true, decide_eq_true_eq]
      omega
    have same : 0x10000 + (0xD800 + (c.toNat - 0x10000) / 0x400 - 0xD800) * 0x400 +
        (0xDC00 + (c.toNat - 0x10000) % 0x400 - 0xDC00) = c.toNat := by
      omega
    rw [charUnits, if_neg low, List.cons_append, List.cons_append, joinUnits, first, second, same,
      Char.ofNat_toNat]
    rfl

/-- The units of a text are joined to the text. -/
lemma joinUnits_flatMap (s : List Char) : joinUnits (s.flatMap charUnits) = s := by
  induction s with
  | nil => rfl
  | cons c s ih => rw [List.flatMap_cons, joinUnits_charUnits, ih]

/-- A text that has been written is read back, whatever follows it. -/
lemma readText_printed (s : String) (rest : List Char) :
    readText (s.toList.flatMap escapeChar ++ '"' :: rest) = some (s, rest) := by
  rw [readText, readUnits_printed, Option.map_some]
  dsimp only
  rw [joinUnits_flatMap, String.ofList_toList]

end PEInspect.Json
