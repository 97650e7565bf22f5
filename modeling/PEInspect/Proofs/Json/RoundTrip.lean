import Mathlib.Data.List.Induction
import PEInspect.Proofs.Annotations.Index
import PEInspect.Proofs.Json.Texts

/-!
# JSON round trip

Values of null, truth values, whole numbers, texts, lists and tables are read back from the JSON text
that is written for them, in one line as well as in any layout with blanks for a margin
(`read_written`). What follows a value in a document cannot be taken for a part of it (`Closed`), so
the proof goes by induction on the value, with the list of its items and the list of its entries
below it. The fuel of the reader is counted in characters of the text, and the room for nesting in
levels of the value (`Fits`).
-/

namespace PEInspect.Json

open Document

/-! ## Values -/

/-- A value of nothing but null, truth values, whole numbers that are not too long, texts, lists, and
tables in which each key stands once, with lists and tables on at most so many levels. -/
inductive Fits : Nat → Value → Prop where
  | null {levels} : Fits levels .null
  | bool {levels b} : Fits levels (.bool b)
  | int {levels i} : Text.isLongNumber i = false → Fits levels (.int i)
  | text {levels s} : Fits levels (.text s)
  | list {levels items} :
    (∀ v ∈ items, Fits levels v) →
    Fits (levels + 1) (.list items)
  | table {levels} {entries : List (String × Value)} :
    (entries.map Prod.fst).Nodup →
    (∀ e ∈ entries, Fits levels e.2) →
    Fits (levels + 1) (.table entries)

/-- A layout leaves nothing but blanks between the parts of a value. -/
def Layout.IsBlank : Layout → Prop
  | .compact => True
  | .indented unit => ∀ c ∈ unit, isBlank c = true

/-! ## Blanks -/

section Blanks

variable {gap s : List Char} {c : Char} {layout : Layout}

/-- Blanks in front of a text are skipped. -/
lemma skipBlanks_append (blank : ∀ c ∈ gap, isBlank c = true) :
    skipBlanks (gap ++ s) = skipBlanks s :=
  List.dropWhile_append_of_pos blank

/-- Nothing is skipped in front of something that is no blank. -/
lemma skipBlanks_cons (shown : isBlank c = false) : skipBlanks (c :: s) = c :: s := by
  rw [skipBlanks, List.dropWhile_cons, if_neg (by rw [shown]; exact Bool.false_ne_true)]

/-- A break consists of blanks. -/
lemma isBlank_break (blank : layout.IsBlank) (depth : Nat) :
    ∀ c ∈ layout.break depth, isBlank c = true := by
  cases layout with
  | compact => exact fun _ mem => absurd mem List.not_mem_nil
  | indented unit =>
    refine List.forall_mem_cons.mpr ⟨rfl, fun c mem => ?_⟩
    obtain ⟨part, among, inside⟩ := List.mem_flatten.mp mem
    rw [List.eq_of_mem_replicate among] at inside
    exact blank c inside

/-- A break in front of something is skipped. -/
lemma skipBlanks_break (blank : layout.IsBlank) (depth : Nat) (shown : isBlank c = false) :
    skipBlanks (layout.break depth ++ c :: s) = c :: s := by
  rw [skipBlanks_append (isBlank_break blank depth), skipBlanks_cons shown]

/-- Between two items there is a comma, and then blanks. -/
lemma exists_separator (blank : layout.IsBlank) (depth : Nat) :
    ∃ gap, layout.separator depth = ',' :: gap ∧ ∀ c ∈ gap, isBlank c = true := by
  cases layout with
  | compact => exact ⟨[' '], rfl, List.forall_mem_singleton.mpr rfl⟩
  | indented unit => exact ⟨_, rfl, isBlank_break blank depth⟩

end Blanks

/-! ## What follows a value -/

/-- A number in front of a text does not go on into it. -/
def Closed (rest : List Char) : Prop :=
  ∀ c ∈ rest.head?, c.isDigit = false ∧ c ≠ '.' ∧ c ≠ 'e' ∧ c ≠ 'E'

/-- The end of a text ends a number. -/
lemma closed_nil : Closed [] := by
  rintro c ⟨⟩

/-- A comma ends a number. -/
lemma closed_comma (s : List Char) : Closed (',' :: s) := by
  rintro c ⟨⟩
  decide

/-- A separator ends a number. -/
lemma closed_separator (layout : Layout) (depth : Nat) (s : List Char) :
    Closed (layout.separator depth ++ s) := by
  cases layout with
  | compact => exact closed_comma _
  | indented unit => exact closed_comma _

/-- A bracket on a line of its own ends a value. -/
lemma closed_break (layout : Layout) (depth : Nat) {close : Char} (s : List Char)
    (bracket : close = ']' ∨ close = '}') : Closed (layout.break depth ++ close :: s) := by
  cases layout with
  | compact => rcases bracket with rfl | rfl <;> (rintro c ⟨⟩; decide)
  | indented unit =>
    rintro c ⟨⟩
    decide

/-! ## Numbers -/

section Numbers

variable {rest : List Char}

/-- Digits are read up to the end of a number. -/
lemma takeWhile_digits {digits : List Char} (all : ∀ c ∈ digits, c.isDigit = true)
    (closed : Closed rest) :
    (digits ++ rest).takeWhile Char.isDigit = digits ∧
      (digits ++ rest).dropWhile Char.isDigit = rest := by
  rw [List.takeWhile_append_of_pos all, List.dropWhile_append_of_pos all]
  cases rest with
  | nil => exact ⟨List.append_nil digits, rfl⟩
  | cons c rest =>
    have other := (closed c rfl).1
    simp [other]

/-- A number that has ended has no fraction. -/
lemma readFraction_closed (closed : Closed rest) : readFraction rest = ([], rest) := by
  cases rest with
  | nil => rfl
  | cons c rest =>
    have point := (closed c rfl).2.1
    rw [readFraction]
    rintro _ ⟨⟩
    exact point rfl

/-- A number that has ended has no exponent. -/
lemma readExponent_closed (closed : Closed rest) : readExponent rest = (none, rest) := by
  cases rest with
  | nil => rfl
  | cons c rest =>
    have letter := (closed c rfl).2.2
    exact if_neg (not_or.mpr letter)

/-- The digits of a number are read as the number. -/
lemma decimal_toDigits (n : Nat) : decimal (Nat.toDigits 10 n) = n := by
  have same : decimal (Nat.toDigits 10 n) = Nat.ofDigitChars 10 (Nat.toDigits 10 n) 0 := by
    rw [Nat.ofDigitChars_eq_foldl, decimal]
    simp only [Nat.mul_comm]
    rfl
  rw [same, Nat.ofDigitChars_ten_toDigits]

/-- Only zero is written with a zero in front. -/
lemma toDigits_leading (n : Nat) :
    n = 0 ∨ ∃ d digits, Nat.toDigits 10 n = d :: digits ∧ d ≠ '0' := by
  induction n using Nat.strongRecOn with
  | ind n ih =>
    by_cases small : n < 10
    · by_cases zero : n = 0
      · exact .inl zero
      · refine .inr ⟨n.digitChar, [], Nat.toDigits_of_lt_base small, ?_⟩
        rwa [Ne, Nat.digitChar_eq_zero]
    · right
      rw [Nat.toDigits_of_base_le (by decide) (Nat.le_of_not_lt small)]
      obtain none_ | ⟨d, digits, front, lead⟩ := ih (n / 10) (by omega)
      · omega
      · exact ⟨d, digits ++ [(n % 10).digitChar], by rw [front, List.cons_append], lead⟩

/-- A number below a power of ten has at most as many digits. -/
lemma length_toDigits {n k : Nat} (some_ : 0 < k) (below : ¬ Nat.pow 10 k ≤ n) :
    (Nat.toDigits 10 n).length ≤ k :=
  (Nat.length_toDigits_le_iff (by decide) some_).mpr (Nat.not_le.mp below)

/-- A number that does not have too many digits is read back. -/
lemma readMagnitude_printed {n : Nat} (short : (Nat.toDigits 10 n).length ≤ Text.maxDigits)
    (negative : Bool) (closed : Closed rest) :
    readMagnitude negative (Nat.toDigits 10 n ++ rest) =
      .ok (.int (if negative then -n else n), rest) := by
  have digits : ∀ c ∈ Nat.toDigits 10 n, c.isDigit = true := fun c mem =>
    Nat.isDigit_of_mem_toDigits (by decide : 0 < 10) (by decide) mem
  obtain ⟨take, drop⟩ := takeWhile_digits digits closed
  have whole : Text.checkDigits (Nat.toDigits 10 n) (fun ds => (decimal ds : Int)) = .ok (n : Int) := by
    rw [Text.checkDigits, if_neg (Nat.not_lt.mpr short), decimal_toDigits]
  rw [readMagnitude, take, drop]
  -- Of all numbers only zero starts with a zero, so no digit is left behind as a second number.
  split
  rename_i pair front behind part
  have same : front = Nat.toDigits 10 n ∧ behind = rest := by
    obtain rfl | ⟨d, tail, digits, lead⟩ := toDigits_leading n
    · cases part
      exact ⟨rfl, rfl⟩
    · rw [digits] at part ⊢
      split at part
      · rename_i zero
        cases zero
        exact absurd rfl lead
      · cases part
        exact ⟨rfl, rfl⟩
  obtain ⟨rfl, rfl⟩ := same
  simp only [readFraction_closed closed, readExponent_closed closed, whole, List.isEmpty_iff,
    Nat.toDigits_ne_nil, if_false]
  rfl

/-- A character that a number starts with starts nothing else. -/
lemma not_digit {c d : Char} (digit : d.isDigit = true) (other : c.isDigit = false) : d ≠ c := by
  rintro rfl
  rw [digit] at other
  cases other

/-- A text that starts with a digit is read as a number. -/
lemma readScalar_digit {d : Char} (digit : d.isDigit = true) (s : List Char) :
    readScalar (d :: s) = readMagnitude false (d :: s) := by
  rw [readScalar]
  all_goals
    rintro _ ⟨⟩
    exact absurd digit (by decide)

/-- A text that starts with a minus and a digit is read as a negative number. -/
lemma readScalar_minus {d : Char} (digit : d.isDigit = true) (s : List Char) :
    readScalar ('-' :: d :: s) = readMagnitude true (d :: s) := by
  rw [readScalar]
  rintro _ ⟨⟩
  exact absurd digit (by decide)

/-- A whole number is written as a digit and more, or behind a minus. -/
lemma exists_digits (n : Nat) :
    ∃ d digits, Nat.toDigits 10 n = d :: digits ∧ d.isDigit = true := by
  cases text : Nat.toDigits 10 n with
  | nil => exact absurd text Nat.toDigits_ne_nil
  | cons d digits =>
    have mem : d ∈ Nat.toDigits 10 n := text ▸ List.mem_cons_self
    exact ⟨d, digits, rfl, Nat.isDigit_of_mem_toDigits (by decide : 0 < 10) (by decide) mem⟩

/-- A whole number that is not too long is read back. -/
lemma readScalar_printed {i : Int} (short : Text.isLongNumber i = false) (closed : Closed rest) :
    readScalar (printInt i ++ rest) = .ok (.int i, rest) := by
  have length : (Nat.toDigits 10 i.natAbs).length ≤ Text.maxDigits :=
    length_toDigits (by decide) (of_decide_eq_false short)
  have read (negative : Bool) := readMagnitude_printed length negative closed
  obtain ⟨d, digits, text, digit⟩ := exists_digits i.natAbs
  rw [text] at read
  rw [printInt, text]
  split
  · have same : -(i.natAbs : Int) = i := by omega
    rw [List.cons_append, List.cons_append, readScalar_minus digit, ← List.cons_append, read,
      if_pos rfl, same]
  · have same : (i.natAbs : Int) = i := by omega
    rw [List.cons_append, readScalar_digit digit, ← List.cons_append, read,
      if_neg Bool.false_ne_true, same]

/-- A whole number starts with a minus or with a digit. -/
lemma exists_start (i : Int) : ∃ c s, printInt i = c :: s ∧ (c = '-' ∨ c.isDigit = true) := by
  obtain ⟨d, digits, text, digit⟩ := exists_digits i.natAbs
  rw [printInt, text]
  split
  · exact ⟨'-', _, rfl, .inl rfl⟩
  · exact ⟨d, digits, rfl, .inr digit⟩

end Numbers

/-! ## Values in front of something -/

/-- A value is read back from the text that is written for it, with enough fuel and enough room for
its levels. Its text starts with something that is neither a blank nor a closing bracket. -/
structure ReadsBack (layout : Layout) (levels : Nat) (v : Value) : Prop where
  start : ∀ depth, ∃ c s, print layout depth v = c :: s ∧ isBlank c = false ∧ c ≠ ']'
  read : ∀ {fuel room depth rest}, 2 * (print layout depth v).length ≤ fuel → levels ≤ room →
    Closed rest → readValue fuel room (print layout depth v ++ rest) = .ok (v, rest)

section Values

variable {layout : Layout} {levels : Nat} {v : Value}

/-- The text of a value is not empty. -/
lemma ReadsBack.length (back : ReadsBack layout levels v) (depth : Nat) :
    0 < (print layout depth v).length := by
  obtain ⟨c, s, text, -⟩ := back.start depth
  rw [text]
  exact Nat.succ_pos _

/-- Blanks in front of a value are skipped. -/
lemma ReadsBack.skip (back : ReadsBack layout levels v) {gap : List Char}
    (blank : ∀ c ∈ gap, isBlank c = true) (depth : Nat) (rest : List Char) :
    skipBlanks (gap ++ (print layout depth v ++ rest)) = print layout depth v ++ rest := by
  obtain ⟨c, s, text, shown, -⟩ := back.start depth
  rw [skipBlanks_append blank, text, List.cons_append, skipBlanks_cons shown]

/-- One blank in front of the text of a value is skipped. -/
lemma ReadsBack.skip_one (back : ReadsBack layout levels v) (depth : Nat) (rest : List Char) :
    skipBlanks (' ' :: (print layout depth v ++ rest)) = print layout depth v ++ rest :=
  back.skip (List.forall_mem_singleton.mpr rfl) depth rest

/-- What starts neither a text nor a list nor a table is read as a scalar. -/
lemma readsBack_scalar {c : Char} {s : List Char} (text : ∀ depth, print layout depth v = c :: s)
    (shown : isBlank c = false) (apart : c ∉ [']', '"', '[', '\x7b'])
    (scalar : ∀ rest, Closed rest → readScalar (c :: s ++ rest) = .ok (v, rest)) :
    ReadsBack layout levels v := by
  refine ⟨fun depth => ⟨c, s, text depth, shown, ?_⟩, ?_⟩
  · rintro rfl
    exact apart (by decide)
  intro fuel room depth rest enough _ closed
  rw [text] at enough ⊢
  cases fuel with
  | zero => exact absurd enough (by simp)
  | succ fuel =>
    rw [List.cons_append, readValue]
    · exact scalar rest closed
    all_goals
      rintro _ ⟨⟩
      exact apart (by decide)

/-- Texts are read back. -/
lemma readsBack_text (s : String) : ReadsBack layout levels (.text s) := by
  refine ⟨fun depth => ⟨'"', _, rfl, rfl, by decide⟩, ?_⟩
  intro fuel room depth rest enough _ _
  cases fuel with
  | zero => exact absurd enough (by simp [print, printText])
  | succ fuel =>
    rw [print, printText, List.cons_append, List.cons_append, List.append_assoc, readValue,
      List.singleton_append, readText_printed]
    rfl

/-- Whole numbers without too many digits are read back. -/
lemma readsBack_int {i : Int} (short : Text.isLongNumber i = false) :
    ReadsBack layout levels (.int i) := by
  have scalar (rest) (closed : Closed rest) := readScalar_printed short closed
  obtain ⟨c, s, text, start⟩ := exists_start i
  rw [text] at scalar
  have marks : ([']', '"', '[', '\x7b'].all fun mark => !mark.isDigit) = true := by decide
  refine readsBack_scalar (fun _ => text) ?_ (fun among => ?_) scalar
  · rcases start with rfl | digit
    · rfl
    · simp [isBlank, not_digit digit]
  · rcases start with rfl | digit
    · exact absurd among (by decide)
    · have other := List.all_eq_true.mp marks c among
      rw [digit] at other
      exact Bool.false_ne_true other

/-! ## Lists -/

/-- The items of a list are closed by what follows them. -/
lemma closed_items (layout : Layout) (depth outer : Nat) (items : List Value) (rest : List Char) :
    Closed (printItems layout depth items ++ (layout.break outer ++ ']' :: rest)) := by
  cases items with
  | nil => exact closed_break layout outer rest (.inl rfl)
  | cons v items =>
    rw [printItems, List.append_assoc, List.append_assoc]
    exact closed_separator layout depth _

/-- The items of a list are read back up to the closing bracket. -/
lemma readItems_printed (blank : layout.IsBlank) (depth outer : Nat) {room : Nat}
    (deep : levels ≤ room) (rest : List Char) {items : List Value} {v : Value} {fuel : Nat}
    (back : ∀ x ∈ v :: items, ReadsBack layout levels x)
    (enough : 2 * (print layout depth v ++ printItems layout depth items).length < fuel) :
    readItems fuel room (print layout depth v ++ (printItems layout depth items ++
      (layout.break outer ++ ']' :: rest))) = .ok (v :: items, rest) := by
  induction items generalizing v fuel with
  | nil =>
    cases fuel with
    | zero => exact absurd enough (Nat.not_lt_zero _)
    | succ fuel =>
      have first := back v List.mem_cons_self
      rw [List.length_append] at enough
      rw [readItems, first.read (by omega) deep (closed_items layout depth outer [] rest),
        printItems, List.nil_append]
      simp only [bind, Except.bind, skipBlanks_break blank outer (show isBlank ']' = false from rfl)]
      rfl
  | cons x items ih =>
    cases fuel with
    | zero => exact absurd enough (Nat.not_lt_zero _)
    | succ fuel =>
      have first := back v List.mem_cons_self
      have second := back x (List.mem_cons_of_mem v List.mem_cons_self)
      have some_ := first.length depth
      obtain ⟨gap, comma, blanks⟩ := exists_separator blank depth
      simp only [printItems, comma, List.length_append, List.length_cons] at enough
      have later : readItems fuel room _ = _ :=
        ih (fun y mem => back y (List.mem_cons_of_mem v mem)) (by rw [List.length_append]; omega)
      rw [readItems, first.read (by omega) deep (closed_items layout depth outer (x :: items) rest),
        printItems, comma]
      simp only [bind, Except.bind, List.cons_append, List.append_assoc,
        skipBlanks_cons (show isBlank ',' = false from rfl), second.skip blanks]
      rw [later]
      rfl

/-- A list is read back if its items are. -/
lemma readsBack_list (blank : layout.IsBlank) {items : List Value}
    (back : ∀ v ∈ items, ReadsBack layout levels v) :
    ReadsBack layout (levels + 1) (.list items) := by
  cases items with
  | nil =>
    refine ⟨fun depth => ⟨'[', _, rfl, rfl, by decide⟩, ?_⟩
    intro fuel room depth rest enough deep _
    cases fuel with
    | zero => exact absurd enough (by simp [print])
    | succ fuel =>
      rw [print, List.cons_append, readValue, if_neg (by omega)]
      rfl
  | cons v items =>
    refine ⟨fun depth => ⟨'[', _, rfl, rfl, by decide⟩, ?_⟩
    intro fuel room depth rest enough deep _
    cases fuel with
    | zero => exact absurd enough (by simp [print])
    | succ fuel =>
      have first := back v List.mem_cons_self
      simp only [print, List.length_append, List.length_cons] at enough
      have within : readItems fuel (room - 1) _ = .ok (v :: items, rest) :=
        readItems_printed blank (depth + 1) depth (Nat.le_sub_one_of_lt deep) rest back
          (by rw [List.length_append]; omega)
      rw [print]
      simp only [List.append_assoc, List.cons_append, List.nil_append]
      rw [readValue, if_neg (by omega), first.skip (isBlank_break blank (depth + 1))]
      -- The first item does not look like the end of the list.
      obtain ⟨c, s, text, -, open_⟩ := first.start (depth + 1)
      rw [text] at within ⊢
      simp only [bind, Except.bind]
      split
      · rename_i close
        cases close
        exact absurd rfl open_
      · rw [within]
        rfl

/-! ## Tables -/

/-- The entries of a table end a number in front of them. -/
lemma closed_entries (layout : Layout) (depth outer : Nat) (entries : List (String × Value))
    (rest : List Char) :
    Closed (printEntries layout depth entries ++ (layout.break outer ++ '\x7d' :: rest)) := by
  cases entries with
  | nil => exact closed_break layout outer rest (.inr rfl)
  | cons e entries =>
    rw [printEntries, List.append_assoc, List.append_assoc, List.append_assoc]
    exact closed_separator layout depth _

/-- A text is written between quotes, with its characters escaped. -/
lemma printText_append (s : String) (rest : List Char) :
    printText s ++ rest = '"' :: (s.toList.flatMap escapeChar ++ '"' :: rest) := by
  rw [printText, List.cons_append, List.cons_append, List.append_assoc, List.singleton_append]

/-- A key and its value are read back, and then what follows decides. -/
lemma readEntries_entry {depth room fuel : Nat} {rest : List Char} (k : String)
    (first : ReadsBack layout levels v) (deep : levels ≤ room)
    (enough : 2 * (print layout depth v).length ≤ fuel) (closed : Closed rest) :
    readEntries (fuel + 1) room (printText k ++ ':' :: ' ' :: (print layout depth v ++ rest)) =
      match skipBlanks rest with
      | '\x7d' :: rest => .ok ([(k, v)], rest)
      | ',' :: rest => do
        let (pairs, rest) ← readEntries fuel room (skipBlanks rest)
        return ((k, v) :: pairs, rest)
      | _ => .error .malformed := by
  have value := first.read enough deep closed
  rw [printText_append, readEntries, readText_printed]
  simp only [bind, Except.bind, Defect.ofOption_some,
    skipBlanks_cons (show isBlank ':' = false from rfl), first.skip_one, value]
  rfl

/-- The entries of a table are read back up to the closing brace. -/
lemma readEntries_printed (blank : layout.IsBlank) (depth outer : Nat) {room : Nat}
    (deep : levels ≤ room) (rest : List Char) {entries : List (String × Value)} {k : String}
    {v : Value} {fuel : Nat} (back : ∀ e ∈ (k, v) :: entries, ReadsBack layout levels e.2)
    (enough : 2 * (print layout depth v ++ printEntries layout depth entries).length < fuel) :
    readEntries fuel room (printText k ++ ':' :: ' ' :: (print layout depth v ++
      (printEntries layout depth entries ++ (layout.break outer ++ '\x7d' :: rest)))) =
        .ok ((k, v) :: entries, rest) := by
  induction entries generalizing k v fuel with
  | nil =>
    cases fuel with
    | zero => exact absurd enough (Nat.not_lt_zero _)
    | succ fuel =>
      have first : ReadsBack layout levels v := back (k, v) List.mem_cons_self
      rw [List.length_append] at enough
      rw [readEntries_entry k first deep (by omega) (closed_entries layout depth outer [] rest),
        printEntries, List.nil_append, skipBlanks_break blank outer rfl]
      rfl
  | cons e entries ih =>
    cases fuel with
    | zero => exact absurd enough (Nat.not_lt_zero _)
    | succ fuel =>
      obtain ⟨k', v'⟩ := e
      have first : ReadsBack layout levels v := back (k, v) List.mem_cons_self
      have second : ReadsBack layout levels v' :=
        back (k', v') (List.mem_cons_of_mem _ List.mem_cons_self)
      have some_ := first.length depth
      obtain ⟨gap, comma, blanks⟩ := exists_separator blank depth
      simp only [printEntries, comma, List.length_append, List.length_cons] at enough
      have later : readEntries fuel room _ = _ :=
        ih (fun e mem => back e (List.mem_cons_of_mem _ mem)) (by rw [List.length_append]; omega)
      have quote (s : List Char) : skipBlanks (gap ++ (printText k' ++ s)) = printText k' ++ s := by
        rw [skipBlanks_append blanks, printText_append, skipBlanks_cons rfl]
      rw [readEntries_entry k first deep (by omega)
        (closed_entries layout depth outer ((k', v') :: entries) rest), printEntries, comma]
      simp only [List.cons_append, List.append_assoc,
        skipBlanks_cons (show isBlank ',' = false from rfl), quote]
      rw [later]
      rfl

/-- Pairs with keys of their own are entries already. -/
lemma ofPairs_of_nodup {pairs : List (String × Value)} (nodup : (pairs.map Prod.fst).Nodup) :
    Entries.ofPairs pairs = pairs := by
  induction pairs using List.reverseRecOn with
  | nil => rfl
  | append_singleton pairs e ih =>
    rw [List.map_append, List.nodup_append] at nodup
    obtain ⟨before, -, apart⟩ := nodup
    have new : pairs.lookup e.1 = none := Entries.lookup_eq_none.mpr fun mem =>
      apart e.1 mem e.1 List.mem_cons_self rfl
    rw [Entries.ofPairs, List.foldl_append, ← Entries.ofPairs, ih before]
    exact Entries.insert_of_lookup_none new

/-- A table is read back if its values are, and if each key stands once. -/
lemma readsBack_table (blank : layout.IsBlank) {entries : List (String × Value)}
    (nodup : (entries.map Prod.fst).Nodup)
    (back : ∀ e ∈ entries, ReadsBack layout levels e.2) :
    ReadsBack layout (levels + 1) (.table entries) := by
  cases entries with
  | nil =>
    refine ⟨fun depth => ⟨'\x7b', _, rfl, rfl, by decide⟩, ?_⟩
    intro fuel room depth rest enough deep _
    cases fuel with
    | zero => exact absurd enough (by simp [print])
    | succ fuel =>
      rw [print, List.cons_append, readValue, if_neg (by omega)]
      rfl
  | cons e entries =>
    obtain ⟨k, v⟩ := e
    refine ⟨fun depth => ⟨'\x7b', _, rfl, rfl, by decide⟩, ?_⟩
    intro fuel room depth rest enough deep _
    cases fuel with
    | zero => exact absurd enough (by simp [print])
    | succ fuel =>
      simp only [print, List.length_append, List.length_cons] at enough
      have within : readEntries fuel (room - 1) _ = .ok ((k, v) :: entries, rest) :=
        readEntries_printed blank (depth + 1) depth (Nat.le_sub_one_of_lt deep) rest back
          (by rw [List.length_append]; omega)
      rw [print]
      simp only [List.append_assoc, List.cons_append, List.nil_append]
      rw [readValue, if_neg (by omega), skipBlanks_append (isBlank_break blank (depth + 1))]
      rw [printText_append] at within ⊢
      rw [skipBlanks_cons rfl]
      simp only [bind, Except.bind]
      split
      · rename_i close
        exact absurd (List.cons.inj close).1 (by decide)
      · rw [within]
        dsimp only
        rw [ofPairs_of_nodup nodup]
        rfl

end Values

/-! ## Documents -/

section Documents

variable {layout : Layout} {levels : Nat} {v : Value}

/-- Values that fit are read back. -/
lemma Fits.readsBack (fits : Fits levels v) (blank : layout.IsBlank) :
    ReadsBack layout levels v := by
  induction fits with
  | null =>
    exact readsBack_scalar (c := 'n') (fun _ => rfl) rfl (by decide) fun _ _ => rfl
  | @bool _ b =>
    cases b with
    | true => exact readsBack_scalar (c := 't') (fun _ => rfl) rfl (by decide) fun _ _ => rfl
    | false => exact readsBack_scalar (c := 'f') (fun _ => rfl) rfl (by decide) fun _ _ => rfl
  | int short => exact readsBack_int short
  | text => exact readsBack_text _
  | list _ ih => exact readsBack_list blank ih
  | table nodup _ ih => exact readsBack_table blank nodup ih

/-- A list of values with a form has one. -/
lemma formed_items {items : List Value} (formed : ∀ x ∈ items, firstFormless? x = none) :
    firstFormlessItem? items = none := by
  induction items with
  | nil => rfl
  | cons x items ih =>
    obtain ⟨first, later⟩ := List.forall_mem_cons.mp formed
    rw [firstFormlessItem?, first, Option.none_or, ih later]

/-- A table of values with a form has one. -/
lemma formed_entries {entries : List (String × Value)}
    (formed : ∀ e ∈ entries, firstFormless? e.2 = none) : firstFormlessField? entries = none := by
  induction entries with
  | nil => rfl
  | cons e entries ih =>
    obtain ⟨first, later⟩ := List.forall_mem_cons.mp formed
    rw [firstFormlessField?, first, Option.none_or, ih later]

/-- Values that fit have a JSON form. -/
lemma Fits.formed (fits : Fits levels v) : firstFormless? v = none := by
  induction fits with
  | null | bool | text => rfl
  | int short => rw [firstFormless?, if_neg (by rw [short]; exact Bool.false_ne_true)]
  | list _ ih => exact formed_items ih
  | table _ _ ih => exact formed_entries ih

/-- A value that fits into the depth of documents is read back from the JSON text that is written for
it. -/
theorem read_written (fits : Fits maxDepth v) (blank : layout.IsBlank) :
    ∃ text, write layout v = .ok text ∧ read text = .ok v := by
  have back := fits.readsBack blank
  obtain ⟨c, s, start, shown, -⟩ := back.start 0
  refine ⟨String.ofList (print layout 0 v), by rw [write, fits.formed], ?_⟩
  have enough := Nat.le_add_right (2 * (print layout 0 v).length) 2
  have whole := back.read enough (Nat.le_refl maxDepth) closed_nil
  rw [List.append_nil] at whole
  have skip : skipBlanks (print layout 0 v) = print layout 0 v := by
    rw [start, skipBlanks_cons shown]
  rw [read, String.toList_ofList]
  dsimp only
  rw [skip, whole]
  rfl

end Documents

end PEInspect.Json
