import ArrayBlob.Json.Reader
import ArrayBlob.Json.Writer

/-!
# Reading back what is written

Every value reads back from its written form. The one thing asked of the value is that the digits
behind the points of its numbers are digits. The statements for the parts of a value are about any
text that goes on behind the part and cannot lengthen it, so that they compose.
-/

namespace ArrayBlob
namespace Json

/-! ## Digits -/

/-- The digits of a number in its written form. -/
def digitsOf (n : Nat) : List Nat :=
  (Nat.toDigits 10 n).map digitValue

theorem digitValue_digitChar {digit : Nat} (small : digit < 10) :
    digitValue (Nat.digitChar digit) = digit :=
  Nat.toNat_digitChar_sub_48_of_lt_ten small

theorem appendDigits_append (start : Nat) (left right : List Nat) :
    Number.appendDigits start (left ++ right)
      = Number.appendDigits (Number.appendDigits start left) right := by
  unfold Number.appendDigits
  rw [List.foldl_append]

theorem digitsOf_of_lt {n : Nat} (small : n < 10) : digitsOf n = [n] := by
  unfold digitsOf
  rw [Nat.toDigits_of_lt_base small, List.map_singleton, digitValue_digitChar small]

theorem digitsOf_of_le {n : Nat} (large : 10 ≤ n) :
    digitsOf n = digitsOf (n / 10) ++ [n % 10] := by
  unfold digitsOf
  rw [Nat.toDigits_of_base_le (by decide) large, List.map_append, List.map_singleton,
    digitValue_digitChar (Nat.mod_lt _ (by decide))]

theorem appendDigits_digitsOf (n : Nat) : Number.appendDigits 0 (digitsOf n) = n := by
  induction n using Nat.strongRecOn with
  | ind n ih =>
    by_cases small : n < 10
    · rw [digitsOf_of_lt small]
      simp [Number.appendDigits]
    · rw [digitsOf_of_le (Nat.le_of_not_lt small), appendDigits_append, ih (n / 10) (by omega)]
      simp only [Number.appendDigits, List.foldl_cons, List.foldl_nil]
      omega

/-- Only zero is written with a leading zero. -/
theorem head_digitsOf {n : Nat} (positive : 0 < n) :
    ∃ first rest, digitsOf n = first :: rest ∧ first ≠ 0 := by
  induction n using Nat.strongRecOn with
  | ind n ih =>
    by_cases small : n < 10
    · exact ⟨n, [], digitsOf_of_lt small, by omega⟩
    · obtain ⟨first, rest, shape, nonzero⟩ := ih (n / 10) (by omega) (by omega)
      refine ⟨first, rest ++ [n % 10], ?_, nonzero⟩
      rw [digitsOf_of_le (Nat.le_of_not_lt small), shape, List.cons_append]

/-- The text does not go on with a digit. -/
def NoDigit (rest : List Char) : Prop :=
  ∀ c ∈ rest.head?, c.isDigit = false

theorem readDigits_append {digits rest : List Char} (all : ∀ c ∈ digits, c.isDigit = true)
    (ends : NoDigit rest) : readDigits (digits ++ rest) = (digits.map digitValue, rest) := by
  unfold readDigits
  rw [List.takeWhile_append_of_pos all, List.dropWhile_append_of_pos all]
  cases rest with
  | nil => simp
  | cons c rest =>
    have first : c.isDigit = false := ends c rfl
    simp [first]

theorem isDigit_of_mem_toDigits {n : Nat} : ∀ c ∈ Nat.toDigits 10 n, c.isDigit = true :=
  fun _ member => Nat.isDigit_of_mem_toDigits (by decide) (by decide) member

theorem readDigits_toDigits (n : Nat) {rest : List Char} (ends : NoDigit rest) :
    readDigits (Nat.toDigits 10 n ++ rest) = (digitsOf n, rest) :=
  readDigits_append isDigit_of_mem_toDigits ends

theorem digitsOf_ne_nil (n : Nat) : digitsOf n ≠ [] := by
  unfold digitsOf
  simp

theorem readSomeDigits_eq {chars rest : List Char} {digits : List Nat}
    (read : readDigits chars = (digits, rest)) (some : digits ≠ []) :
    readSomeDigits chars = .some (digits, rest) := by
  unfold readSomeDigits
  rw [read]
  cases digits with
  | nil => exact absurd rfl some
  | cons digit digits => rfl

theorem readWhole_toDigits (n : Nat) {rest : List Char} (ends : NoDigit rest) :
    readWhole (Nat.toDigits 10 n ++ rest) = some (n, rest) := by
  unfold readWhole
  rw [readDigits_toDigits n ends]
  have value := appendDigits_digitsOf n
  rcases Nat.eq_zero_or_pos n with rfl | positive
  · rw [digitsOf_of_lt (by decide)]
    rfl
  · obtain ⟨first, more, shape, nonzero⟩ := head_digitsOf positive
    rw [shape] at value ⊢
    cases first with
    | zero => exact absurd rfl nonzero
    | succ first =>
      simp only [value]

/-! ## Numbers -/

/-- The text does not go on with a character of a number. -/
def EndsNumber (rest : List Char) : Prop :=
  ∀ c ∈ rest.head?, c.isDigit = false ∧ c ≠ '.' ∧ c ≠ 'e' ∧ c ≠ 'E'

theorem readFraction_write {digits : List Nat} {rest : List Char}
    (proper : ∀ digit ∈ digits, digit < 10) (ends : NoDigit rest)
    (point : ∀ c ∈ rest.head?, c ≠ '.') :
    readFraction (writeFraction digits ++ rest) = some (digits, rest) := by
  cases digits with
  | nil =>
    cases rest with
    | nil => rfl
    | cons c rest =>
      have first : c ≠ '.' := point c rfl
      simp only [writeFraction, List.nil_append]
      unfold readFraction
      split
      · next same =>
        cases same
        exact absurd rfl first
      · next => rfl
  | cons digit digits =>
    have all : ∀ c ∈ (digit :: digits).map Nat.digitChar, c.isDigit = true := by
      intro c member
      obtain ⟨value, listed, rfl⟩ := List.mem_map.1 member
      simp [Nat.isDigit_digitChar, proper value listed]
    have values : ((digit :: digits).map Nat.digitChar).map digitValue = digit :: digits := by
      rw [List.map_map]
      conv => rhs; rw [← List.map_id (digit :: digits)]
      apply List.map_congr_left
      intro value listed
      exact digitValue_digitChar (proper value listed)
    have read := readDigits_append all ends
    rw [values] at read
    exact readSomeDigits_eq read (by simp)

theorem readPower_write (power : Int) {rest : List Char} (ends : NoDigit rest) :
    readPower ((if power < 0 then '-' else '+') :: (Nat.toDigits 10 power.natAbs ++ rest))
      = some (power, rest) := by
  have read := readSomeDigits_eq (readDigits_toDigits power.natAbs ends) (digitsOf_ne_nil _)
  have value := appendDigits_digitsOf power.natAbs
  by_cases negative : power < 0
  · rw [if_pos negative]
    simp only [readPower, read, Option.map_some, value, if_true]
    congr 2
    omega
  · rw [if_neg negative]
    simp only [readPower, read, Option.map_some, value, Bool.false_eq_true, if_false]
    congr 2
    omega

theorem readExponent_write (exponent : Option Int) {rest : List Char} (ends : EndsNumber rest) :
    readExponent (writeExponent exponent ++ rest) = some (exponent, rest) := by
  cases exponent with
  | none =>
    cases rest with
    | nil => rfl
    | cons c rest =>
      obtain ⟨-, -, lower, upper⟩ := ends c rfl
      simp [writeExponent, readExponent, lower, upper]
  | some power =>
    have noDigit : NoDigit rest := fun c member => (ends c member).1
    have read := readPower_write power noDigit
    simp only [writeExponent, List.cons_append]
    rw [readExponent, if_pos (Or.inl rfl), read]
    rfl

theorem readUnsigned_write (negative : Bool) (whole : Nat) {fraction : List Nat}
    (exponent : Option Int) {rest : List Char} (proper : ∀ digit ∈ fraction, digit < 10)
    (ends : EndsNumber rest) :
    readUnsigned negative
        (Nat.toDigits 10 whole ++ (writeFraction fraction ++ (writeExponent exponent ++ rest)))
      = some (number ⟨negative, whole, fraction, exponent⟩, rest) := by
  have power : ∀ c ∈ (writeExponent exponent ++ rest).head?, c.isDigit = false ∧ c ≠ '.' := by
    intro c member
    cases exponent with
    | none => exact ⟨(ends c member).1, (ends c member).2.1⟩
    | some power =>
      cases member
      decide
  have point : NoDigit (writeFraction fraction ++ (writeExponent exponent ++ rest)) := by
    intro c member
    cases fraction with
    | nil => exact (power c member).1
    | cons digit digits =>
      cases member
      decide
  have noDigit : NoDigit (writeExponent exponent ++ rest) := fun c member => (power c member).1
  unfold readUnsigned
  rw [readWhole_toDigits whole point]
  simp only [bind, Option.bind]
  rw [readFraction_write proper noDigit fun c member => (power c member).2]
  simp only [readExponent_write exponent ends]
  rfl

/-- A written number reads back as the number. -/
theorem readNumber_write {literal : Number} {rest : List Char}
    (proper : ∀ digit ∈ literal.fraction, digit < 10) (ends : EndsNumber rest) :
    readNumber (writeNumber literal ++ rest) = some (number literal, rest) := by
  obtain ⟨negative, whole, fraction, exponent⟩ := literal
  unfold writeNumber
  cases negative with
  | true =>
    simp only [if_true, List.cons_append, List.append_assoc]
    exact readUnsigned_write true whole exponent proper ends
  | false =>
    simp only [Bool.false_eq_true, if_false, List.append_assoc]
    rw [← readUnsigned_write false whole exponent proper ends]
    obtain ⟨c, more, shape⟩ : ∃ c more, Nat.toDigits 10 whole = c :: more :=
      List.exists_cons_of_ne_nil Nat.toDigits_ne_nil
    have digit : c.isDigit = true := isDigit_of_mem_toDigits c (by rw [shape]; simp)
    rw [shape]
    unfold readNumber
    split
    · next same =>
      cases same
      exact absurd digit (by decide)
    · rfl

/-! ## Strings -/

theorem hexUnit_small {code : Nat} (small : code < 0x20) :
    hexUnit? '0' '0' (hexDigit (code / 16 % 16)) (hexDigit (code % 16))
      = some (UInt16.ofNat code) := by
  revert code
  decide

theorem readUnits_simple {letter c : Char} (escape : simpleEscape? letter = some c)
    (units : List UInt16) (rest : List Char) :
    readUnits units ('\\' :: letter :: rest)
      = readUnits ((Utf16.encodeChar c).reverse ++ units) rest := by
  have notUnit : letter ≠ 'u' := by
    rintro rfl
    have refused : simpleEscape? 'u' = none := by decide
    rw [refused] at escape
    cases escape
  rw [readUnits.eq_def]
  simp [notUnit, escape]

theorem readUnits_unit {a b c d : Char} {unit : UInt16} (escape : hexUnit? a b c d = some unit)
    (units : List UInt16) (rest : List Char) :
    readUnits units ('\\' :: 'u' :: a :: b :: c :: d :: rest) = readUnits (unit :: units) rest := by
  rw [readUnits.eq_def]
  simp [escape]

theorem readUnits_plain {c : Char} (quote : c ≠ '"') (slash : c ≠ '\\') (visible : ¬c.toNat < 0x20)
    (units : List UInt16) (rest : List Char) :
    readUnits units (c :: rest) = readUnits ((Utf16.encodeChar c).reverse ++ units) rest := by
  rw [readUnits.eq_def]
  simp [quote, slash, visible]

/-- A written character is read as the units of the character. -/
theorem readUnits_writeChar (units : List UInt16) (c : Char) (rest : List Char) :
    readUnits units (writeChar c ++ rest)
      = readUnits ((Utf16.encodeChar c).reverse ++ units) rest := by
  unfold writeChar
  by_cases quote : c = '"'
  · subst quote
    exact readUnits_simple (by decide) units rest
  by_cases slash : c = '\\'
  · subst slash
    exact readUnits_simple (by decide) units rest
  by_cases backspace : c = '\x08'
  · subst backspace
    exact readUnits_simple (by decide) units rest
  by_cases tab : c = '\t'
  · subst tab
    exact readUnits_simple (by decide) units rest
  by_cases newline : c = '\n'
  · subst newline
    exact readUnits_simple (by decide) units rest
  by_cases feed : c = '\x0c'
  · subst feed
    exact readUnits_simple (by decide) units rest
  by_cases carriage : c = '\r'
  · subst carriage
    exact readUnits_simple (by decide) units rest
  rw [if_neg quote, if_neg slash, if_neg backspace, if_neg tab, if_neg newline, if_neg feed,
    if_neg carriage]
  by_cases control : c.toNat < 0x20
  · rw [if_pos control]
    have high : c.toNat / 4096 % 16 = 0 ∧ c.toNat / 256 % 16 = 0 := by omega
    have plain : Utf16.encodeChar c = [UInt16.ofNat c.toNat] := by
      rw [Utf16.encodeChar, if_pos (by omega)]
    have unit := hexUnit_small control
    rw [unitEscape, high.1, high.2, plain]
    exact readUnits_unit unit units rest
  · rw [if_neg control]
    exact readUnits_plain quote slash control units rest

theorem readUnits_write (units : List UInt16) (chars rest : List Char) :
    readUnits units (chars.flatMap writeChar ++ '"' :: rest)
      = some (units.reverse ++ Utf16.encode chars, rest) := by
  induction chars generalizing units with
  | nil =>
    rw [List.flatMap_nil, List.nil_append, readUnits.eq_def]
    simp [Utf16.encode]
  | cons c chars ih =>
    rw [List.flatMap_cons, List.append_assoc, readUnits_writeChar, ih]
    simp [Utf16.encode]

/-- A written string reads back as the string. -/
theorem readString_write (text : Option String) (rest : List Char) :
    ∃ chars, writeString text ++ rest = '"' :: chars ∧ readString chars = some (text, rest) := by
  cases text with
  | some text =>
    refine ⟨text.toList.flatMap writeChar ++ '"' :: rest, ?_, ?_⟩
    · simp [writeString]
    · rw [readString, readUnits_write]
      simp
  | none =>
    refine ⟨unitEscape 0xD800 ++ '"' :: rest, ?_, ?_⟩
    · simp [writeString]
    · have unit : hexUnit? 'd' '8' '0' '0' = some 0xD800 := by decide
      have escape : unitEscape 0xD800 = ['\\', 'u', 'd', '8', '0', '0'] := by decide
      have closed : readUnits [0xD800] ('"' :: rest) = some ([0xD800], rest) := by
        rw [readUnits.eq_def]
        simp
      have lone : Utf16.decode [0xD800] = none := by decide
      rw [escape, readString]
      simp only [List.cons_append, List.nil_append]
      rw [readUnits_unit unit, closed]
      simp [lone]

/-! ## Values -/

mutual

/-- The digits behind the points of a value are digits. -/
def Proper : Json → Prop
  | number literal => ∀ digit ∈ literal.fraction, digit < 10
  | array elements => ProperElements elements
  | object members => ProperMembers members
  | _ => True

/-- The digits behind the points of some values are digits. -/
def ProperElements : List Json → Prop
  | [] => True
  | element :: rest => Proper element ∧ ProperElements rest

/-- The digits behind the points of the values of some members are digits. -/
def ProperMembers : List (Option String × Json) → Prop
  | [] => True
  | (_, value) :: rest => Proper value ∧ ProperMembers rest

end

/-- A text that goes on behind a value. -/
def EndsValue (rest : List Char) : Prop :=
  rest = [] ∨ ∃ c more, rest = c :: more ∧ (c = ',' ∨ c = ']' ∨ c = '\x7d')

theorem EndsValue.endsNumber {rest : List Char} (ends : EndsValue rest) : EndsNumber rest := by
  intro c member
  rcases ends with rfl | ⟨first, more, rfl, choice⟩
  · cases member
  · cases member
    rcases choice with rfl | rfl | rfl <;> decide

theorem skipSpaces_cons {c : Char} (visible : isSpace c = false) (rest : List Char) :
    skipSpaces (c :: rest) = c :: rest := by
  simp [skipSpaces, visible]

theorem isSpace_of_start {c : Char} (start : c.isDigit = true ∨ c = '-') : isSpace c = false := by
  rcases start with digit | rfl
  · unfold isSpace
    by_cases blank : c = ' ' ∨ c = '\t' ∨ c = '\n' ∨ c = '\r'
    · rcases blank with rfl | rfl | rfl | rfl <;> simp at digit
    · simp_all
  · rfl

/-- A written number starts with a digit or a minus sign. -/
theorem writeNumber_eq_cons (literal : Number) :
    ∃ c more, writeNumber literal = c :: more ∧ (c.isDigit = true ∨ c = '-') := by
  obtain ⟨negative, whole, fraction, exponent⟩ := literal
  cases negative with
  | true => exact ⟨_, _, rfl, Or.inr rfl⟩
  | false =>
    obtain ⟨c, more, shape⟩ : ∃ c more, Nat.toDigits 10 whole = c :: more :=
      List.exists_cons_of_ne_nil Nat.toDigits_ne_nil
    refine ⟨c, more ++ (writeFraction fraction ++ writeExponent exponent), ?_,
      Or.inl (isDigit_of_mem_toDigits c (by rw [shape]; simp))⟩
    simp [writeNumber, shape]

/-- A text that starts with a digit or a minus sign is read as a number. -/
theorem readValue_number {depth : Nat} {c : Char} {rest : List Char}
    (start : c.isDigit = true ∨ c = '-') :
    readValue (depth + 1) (c :: rest) = readNumber (c :: rest) := by
  rw [readValue, skipSpaces_cons (isSpace_of_start start)]
  split <;> simp_all

/-- A written value starts with a character that is neither a blank nor closes an array. -/
theorem write_eq_cons (json : Json) :
    ∃ c more, write json = c :: more ∧ isSpace c = false ∧ c ≠ ']' := by
  cases json with
  | null => exact ⟨_, _, rfl, by decide, by decide⟩
  | bool value => cases value <;> exact ⟨_, _, rfl, by decide, by decide⟩
  | number literal =>
    obtain ⟨c, more, shape, start⟩ := writeNumber_eq_cons literal
    exact ⟨c, more, by rw [write, shape], isSpace_of_start start, by
      rintro rfl
      revert start
      decide⟩
  | string text => cases text <;> exact ⟨_, _, rfl, by decide, by decide⟩
  | array elements => exact ⟨_, _, rfl, by decide, by decide⟩
  | object members => exact ⟨_, _, rfl, by decide, by decide⟩

theorem EndsValue.close {c : Char} (rest : List Char) (choice : c = ',' ∨ c = ']' ∨ c = '\x7d') :
    EndsValue (c :: rest) :=
  Or.inr ⟨c, rest, rfl, choice⟩

/-- Written elements start with a character that is neither a blank nor closes an array. -/
theorem writeElements_eq_cons (element : Json) (elements : List Json) (rest : List Char) :
    ∃ c more, writeElements (element :: elements) ++ rest = c :: more ∧ isSpace c = false
      ∧ c ≠ ']' := by
  obtain ⟨c, more, shape, visible, inside⟩ := write_eq_cons element
  cases elements with
  | nil => exact ⟨c, more ++ rest, by rw [writeElements, shape, List.cons_append], visible, inside⟩
  | cons next elements =>
    exact ⟨c, _, by rw [writeElements, shape]; rfl, visible, inside⟩

/-- Written members start with the quote of a name. -/
theorem writeMembers_eq_cons (member : Option String × Json) (members : List (Option String × Json))
    (rest : List Char) :
    ∃ more, writeMembers (member :: members) ++ rest = '"' :: more := by
  obtain ⟨name, value⟩ := member
  cases members <;> cases name <;> exact ⟨_, by rw [writeMembers, writeString]; rfl⟩

mutual

/-- A written value reads back as the value, whatever goes on behind it. -/
theorem readValue_write (json : Json) {depth : Nat} {rest : List Char} (proper : Proper json)
    (deep : (write json).length < depth) (ends : EndsValue rest) :
    readValue depth (write json ++ rest) = some (json, rest) := by
  match depth, deep with
  | depth + 1, deep =>
    match json with
    | null =>
      rw [readValue]
      rfl
    | bool true =>
      rw [readValue]
      rfl
    | bool false =>
      rw [readValue]
      rfl
    | number literal =>
      obtain ⟨c, more, shape, start⟩ := writeNumber_eq_cons literal
      have read := readNumber_write (by simpa only [Proper] using proper) ends.endsNumber
      rw [shape, List.cons_append] at read
      rw [write, shape, List.cons_append, readValue_number start, read]
    | string text =>
      obtain ⟨chars, shape, read⟩ := readString_write text rest
      rw [write, shape, readValue, skipSpaces_cons (by decide)]
      simp only [read, Option.map_some]
    | array [] =>
      rw [readValue]
      rfl
    | array (element :: elements) =>
      have size : (writeElements (element :: elements)).length + 1 < depth := by
        simp only [write, List.length_cons, List.length_append, List.length_nil] at deep
        omega
      have read := readElements_write element elements [] rest
        (by simpa only [Proper] using proper) size
      obtain ⟨c, more, shape, visible, inside⟩ :=
        writeElements_eq_cons element elements (']' :: rest)
      rw [write, List.cons_append, List.append_assoc, List.cons_append, List.nil_append, readValue,
        skipSpaces_cons (by decide)]
      rw [shape] at read ⊢
      simp only [skipSpaces_cons visible]
      split
      · next same =>
        cases same
        exact absurd rfl inside
      · rw [read]
        rfl
    | object [] =>
      rw [readValue]
      rfl
    | object (member :: members) =>
      have size : (writeMembers (member :: members)).length + 1 < depth := by
        simp only [write, List.length_cons, List.length_append, List.length_nil] at deep
        omega
      have read := readMembers_write member members [] rest
        (by simpa only [Proper] using proper) size
      obtain ⟨more, shape⟩ := writeMembers_eq_cons member members ('\x7d' :: rest)
      rw [write, List.cons_append, List.append_assoc, List.cons_append, List.nil_append, readValue,
        skipSpaces_cons (by decide)]
      rw [shape] at read ⊢
      simp only [skipSpaces_cons (show isSpace '"' = false by decide)]
      exact read
termination_by depth

/-- Written elements read back behind those already found. -/
theorem readElements_write (element : Json) (elements : List Json) {depth : Nat}
    (found : List Json) (rest : List Char) (proper : ProperElements (element :: elements))
    (deep : (writeElements (element :: elements)).length + 1 < depth) :
    readElements depth found (writeElements (element :: elements) ++ ']' :: rest)
      = some (array (found.reverse ++ element :: elements), rest) := by
  match depth, deep with
  | depth + 1, deep =>
    obtain ⟨first, others⟩ := proper
    match elements with
    | [] =>
      rw [writeElements] at deep ⊢
      have read := readValue_write element first (Nat.lt_of_succ_lt_succ deep)
        (EndsValue.close rest (Or.inr (Or.inl rfl)))
      rw [readElements, read]
      simp [skipSpaces_cons (show isSpace ']' = false by decide)]
    | next :: elements =>
      rw [writeElements] at deep ⊢
      rw [List.length_append, List.length_cons] at deep
      have room : (write element).length < depth := by omega
      have read := readValue_write element first room
        (EndsValue.close (writeElements (next :: elements) ++ ']' :: rest) (Or.inl rfl))
      have room : (writeElements (next :: elements)).length + 1 < depth := by omega
      have more := readElements_write next elements (element :: found) rest others room
      rw [List.append_assoc, List.cons_append, readElements, read]
      simp only [skipSpaces_cons (show isSpace ',' = false by decide), more]
      simp
termination_by depth

/-- Written members read back behind those already found. -/
theorem readMembers_write (member : Option String × Json) (members : List (Option String × Json))
    {depth : Nat} (found : List (Option String × Json)) (rest : List Char)
    (proper : ProperMembers (member :: members))
    (deep : (writeMembers (member :: members)).length + 1 < depth) :
    readMembers depth found (writeMembers (member :: members) ++ '\x7d' :: rest)
      = some (object (found.reverse ++ member :: members), rest) := by
  match depth, deep with
  | depth + 1, deep =>
    obtain ⟨name, value⟩ := member
    obtain ⟨first, others⟩ := proper
    match members with
    | [] =>
      rw [writeMembers] at deep ⊢
      rw [List.length_append, List.length_cons] at deep
      obtain ⟨chars, shape, text⟩ := readString_write name (':' :: (write value ++ '\x7d' :: rest))
      have room : (write value).length < depth := by omega
      have read := readValue_write value first room
        (EndsValue.close rest (Or.inr (Or.inr rfl)))
      rw [List.append_assoc, List.cons_append, shape, readMembers,
        skipSpaces_cons (by decide)]
      simp only [text, skipSpaces_cons (show isSpace ':' = false by decide), read,
        skipSpaces_cons (show isSpace '\x7d' = false by decide)]
      simp
    | next :: members =>
      rw [writeMembers] at deep ⊢
      rw [List.length_append, List.length_cons, List.length_append, List.length_cons] at deep
      obtain ⟨chars, shape, text⟩ := readString_write name
        (':' :: (write value ++ ',' :: (writeMembers (next :: members) ++ '\x7d' :: rest)))
      have room : (write value).length < depth := by omega
      have read := readValue_write value first room
        (EndsValue.close (writeMembers (next :: members) ++ '\x7d' :: rest) (Or.inl rfl))
      have room : (writeMembers (next :: members)).length + 1 < depth := by omega
      have more := readMembers_write next members ((name, value) :: found) rest others room
      rw [List.append_assoc, List.cons_append, List.append_assoc, List.cons_append, shape,
        readMembers, skipSpaces_cons (by decide)]
      simp only [text, skipSpaces_cons (show isSpace ':' = false by decide), read,
        skipSpaces_cons (show isSpace ',' = false by decide), more]
      simp
termination_by depth

end

/-- A written value reads back as the value. -/
theorem read_write {json : Json} (proper : Proper json) : read (write json) = some json := by
  have value := readValue_write json proper (Nat.lt_succ_self _) (Or.inl rfl)
  rw [List.append_nil] at value
  rw [read, value]
  rfl

end Json
end ArrayBlob
