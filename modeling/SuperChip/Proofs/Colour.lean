import Mathlib.Data.List.Basic
import SuperChip.Bare.Colour

set_option autoImplicit false

namespace SuperChip

namespace Text

/-- Whether a character is the hexadecimal digit of a value, in either case. -/
def IsHexDigit (c : Char) (value : Nibble) : Prop :=
  c = Nat.digitChar value.val ∨ c = (Nat.digitChar value.val).toUpper

instance (c : Char) (value : Nibble) : Decidable (IsHexDigit c value) :=
  inferInstanceAs (Decidable (_ ∨ _))

theorem toNat_lt_of_hexDigit? {c : Char} {value : Nibble} (digit : hexDigit? c = some value) :
    c.toNat < 128 := by
  simp only [hexDigit?, Char.le_def, UInt32.le_iff_toNat_le] at digit
  change c.val.toNat < 128
  split at digit
  · next range => exact Nat.lt_of_le_of_lt range.2 (by decide)
  · split at digit
    · next range => exact Nat.lt_of_le_of_lt range.2 (by decide)
    · split at digit
      · next range => exact Nat.lt_of_le_of_lt range.2 (by decide)
      · contradiction

theorem toNat_lt_of_isHexDigit {c : Char} {value : Nibble} (digit : IsHexDigit c value) :
    c.toNat < 128 := by
  rcases digit with rfl | rfl <;> revert value <;> decide

/-- Which digit a character is needs to be tried for the ASCII characters only. -/
theorem hexDigit?_eq_some_iff {c : Char} {value : Nibble} :
    hexDigit? c = some value ↔ IsHexDigit c value := by
  have each : ∀ code < 128, ∀ value : Nibble,
      hexDigit? (Char.ofNat code) = some value ↔ IsHexDigit (Char.ofNat code) value := by
    decide +kernel
  have ascii (small : c.toNat < 128) : hexDigit? c = some value ↔ IsHexDigit c value := by
    simpa only [Char.ofNat_toNat] using each c.toNat small value
  constructor
  · intro digit
    exact (ascii (toNat_lt_of_hexDigit? digit)).mp digit
  · intro digit
    exact (ascii (toNat_lt_of_isHexDigit digit)).mpr digit

theorem mapM_eq_some_iff {α β : Type} {f : α → Option β} {values : List α} {results : List β} :
    values.mapM f = some results ↔ values.map f = results.map some := by
  induction values generalizing results with
  | nil =>
    rw [List.mapM_nil]
    cases results <;> simp
  | cons value rest ih =>
    rw [List.mapM_cons]
    cases results with
    | nil => cases f value <;> cases rest.mapM f <;> simp
    | cons result others =>
      rw [List.map_cons, List.map_cons, List.cons.injEq, ← ih]
      cases f value <;> cases rest.mapM f <;> simp

end Text

namespace Colour

/-- What may stand in front of the digits. -/
def marks : List String := ["", "0x", "#"]

/-- Whether two characters are the digits of a byte. -/
def IsPair (high low : Char) (byte : UInt8) : Prop :=
  ∃ upper lower : Nibble, Text.IsHexDigit high upper ∧ Text.IsHexDigit low lower ∧
    byte.toNat = 16 * upper.val + lower.val

/-- Whether a text is made as a colour is: a mark or none, and six digits. -/
def WellFormed (text : String) : Prop :=
  ∃ mark ∈ marks, ∃ digits : List Char, text = mark ++ String.ofList digits ∧
    digits.length = 6 ∧ ∀ digit ∈ digits, digit ∈ "0123456789abcdefABCDEF".toList

/-- Whether a text spells a colour, with a pair of digits for each part of it. -/
def Spells (text : String) (colour : Colour) : Prop :=
  ∃ mark ∈ marks, ∃ a b c d e f : Char, text = mark ++ String.ofList [a, b, c, d, e, f] ∧
    IsPair a b colour.red ∧ IsPair c d colour.green ∧ IsPair e f colour.blue

theorem toNat_channel (high low : Nibble) : (channel high low).toNat = 16 * high.val + low.val := by
  rw [channel, UInt8.toNat_ofNat', Nat.mod_eq_of_lt (by omega)]

theorem eq_channel_iff {byte : UInt8} {high low : Nibble} :
    byte = channel high low ↔ byte.toNat = 16 * high.val + low.val := by
  rw [← UInt8.toNat_inj, toNat_channel]

theorem isPair_iff {high low : Char} {byte : UInt8} :
    IsPair high low byte ↔ ∃ upper lower, Text.hexDigit? high = some upper ∧
      Text.hexDigit? low = some lower ∧ byte = channel upper lower := by
  simp only [IsPair, Text.hexDigit?_eq_some_iff, eq_channel_iff]

theorem parse_eq_ok_iff {text : String} {colour : Colour} :
    parse text = .ok colour ↔ ∃ a b c d e f, unmarked text.toList = [a, b, c, d, e, f] ∧
      IsPair a b colour.red ∧ IsPair c d colour.green ∧ IsPair e f colour.blue := by
  simp only [isPair_iff]
  constructor
  · intro parsed
    rw [parse] at parsed
    split at parsed
    · next values =>
      obtain rfl := Except.ok.inj parsed
      have each := Text.mapM_eq_some_iff.mp values
      simp only [List.map_cons, List.map_nil, List.map_eq_cons_iff, List.map_eq_nil_iff] at each
      obtain ⟨a, _, chars, isA, b, _, rfl, isB, c, _, rfl, isC, d, _, rfl, isD, e, _, rfl, isE,
        f, _, rfl, isF, rfl⟩ := each
      exact ⟨a, b, c, d, e, f, chars, ⟨_, _, isA, isB, rfl⟩, ⟨_, _, isC, isD, rfl⟩,
        ⟨_, _, isE, isF, rfl⟩⟩
    · contradiction
  · rintro ⟨a, b, c, d, e, f, chars, ⟨_, _, isA, isB, red⟩, ⟨_, _, isC, isD, green⟩,
      ⟨_, _, isE, isF, blue⟩⟩
    simp only [parse, chars, List.mapM_cons, List.mapM_nil, isA, isB, isC, isD, isE, isF]
    simp [← red, ← green, ← blue]

theorem parse_eq_error {text : String} (refused : ∀ colour, parse text ≠ .ok colour) :
    parse text = .error ⟨text⟩ := by
  cases outcome : parse text with
  | ok colour => exact absurd outcome (refused colour)
  | error error =>
    rw [parse] at outcome
    split at outcome
    · contradiction
    · exact outcome.symm

/-- Every text is a mark, or none, and what is left without it. -/
theorem exists_mark (text : String) :
    ∃ mark ∈ marks, text = mark ++ String.ofList (unmarked text.toList) := by
  simp only [← String.toList_inj, String.toList_append, String.toList_ofList]
  unfold unmarked
  split
  · next digits chars => exact ⟨"0x", by decide, chars⟩
  · next digits chars => exact ⟨"#", by decide, chars⟩
  · exact ⟨"", by decide, rfl⟩

theorem unmarked_append {mark : String} (isMark : mark ∈ marks) {digits : List Char}
    (hex : ∀ digit ∈ digits, (Text.hexDigit? digit).isSome) :
    unmarked (mark ++ String.ofList digits).toList = digits := by
  rw [String.toList_append, String.toList_ofList]
  simp only [marks, List.mem_cons, List.not_mem_nil, or_false] at isMark
  rcases isMark with rfl | rfl | rfl
  · change unmarked digits = digits
    unfold unmarked
    split
    · have isX := hex 'x' (by simp)
      contradiction
    · have isHash := hex '#' (by simp)
      contradiction
    · rfl
  · rfl
  · rfl

theorem isSome_of_isPair {high low : Char} {byte : UInt8} (pair : IsPair high low byte) :
    (Text.hexDigit? high).isSome ∧ (Text.hexDigit? low).isSome := by
  obtain ⟨_, _, isHigh, isLow, -⟩ := isPair_iff.mp pair
  rw [isHigh, isLow]
  exact ⟨rfl, rfl⟩

/-- Parsing finds the colour that a text spells, and none else. -/
theorem parse_eq_ok_iff_spells {text : String} {colour : Colour} :
    parse text = .ok colour ↔ Spells text colour := by
  rw [parse_eq_ok_iff]
  constructor
  · rintro ⟨a, b, c, d, e, f, chars, red, green, blue⟩
    obtain ⟨mark, isMark, split⟩ := exists_mark text
    rw [chars] at split
    exact ⟨mark, isMark, a, b, c, d, e, f, split, red, green, blue⟩
  · rintro ⟨mark, isMark, a, b, c, d, e, f, rfl, red, green, blue⟩
    refine ⟨a, b, c, d, e, f, unmarked_append isMark ?_, red, green, blue⟩
    simp [isSome_of_isPair red, isSome_of_isPair green, isSome_of_isPair blue]

theorem exists_isPair {high low : Char} (isHigh : (Text.hexDigit? high).isSome)
    (isLow : (Text.hexDigit? low).isSome) : ∃ byte, IsPair high low byte := by
  obtain ⟨upper, isUpper⟩ := Option.isSome_iff_exists.mp isHigh
  obtain ⟨lower, isLower⟩ := Option.isSome_iff_exists.mp isLow
  exact ⟨_, isPair_iff.mpr ⟨upper, lower, isUpper, isLower, rfl⟩⟩

/-- Parsing succeeds if six digits are left without the mark. -/
theorem exists_parse_iff {text : String} :
    (∃ colour, parse text = .ok colour) ↔ (unmarked text.toList).length = 6 ∧
      ∀ digit ∈ unmarked text.toList, (Text.hexDigit? digit).isSome := by
  simp only [parse_eq_ok_iff]
  constructor
  · rintro ⟨colour, a, b, c, d, e, f, chars, red, green, blue⟩
    rw [chars]
    refine ⟨rfl, ?_⟩
    simp [isSome_of_isPair red, isSome_of_isPair green, isSome_of_isPair blue]
  · generalize unmarked text.toList = digits
    rintro ⟨six, hex⟩
    simp only [List.length_eq_succ_iff, List.length_eq_zero_iff] at six
    obtain ⟨a, _, rfl, b, _, rfl, c, _, rfl, d, _, rfl, e, _, rfl, f, _, rfl, rfl⟩ := six
    simp only [List.forall_mem_cons] at hex
    obtain ⟨isA, isB, isC, isD, isE, isF, -⟩ := hex
    obtain ⟨red, isRed⟩ := exists_isPair isA isB
    obtain ⟨green, isGreen⟩ := exists_isPair isC isD
    obtain ⟨blue, isBlue⟩ := exists_isPair isE isF
    exact ⟨⟨red, green, blue⟩, a, b, c, d, e, f, rfl, isRed, isGreen, isBlue⟩

theorem mem_alphabet_iff {c : Char} :
    c ∈ "0123456789abcdefABCDEF".toList ↔ (Text.hexDigit? c).isSome := by
  constructor
  · have each : "0123456789abcdefABCDEF".toList.all fun c => (Text.hexDigit? c).isSome := by decide
    exact List.all_eq_true.mp each c
  · simp only [Option.isSome_iff_exists, Text.hexDigit?_eq_some_iff]
    rintro ⟨value, rfl | rfl⟩ <;> revert value <;> decide

theorem wellFormed_iff {text : String} : WellFormed text ↔ ∃ colour, parse text = .ok colour := by
  simp only [exists_parse_iff, WellFormed, mem_alphabet_iff]
  constructor
  · rintro ⟨mark, isMark, digits, rfl, six, hex⟩
    rw [unmarked_append isMark hex]
    exact ⟨six, hex⟩
  · rintro ⟨six, hex⟩
    obtain ⟨mark, isMark, split⟩ := exists_mark text
    exact ⟨mark, isMark, _, split, six, hex⟩

/-- A digit of a byte, in upper case or not. -/
def digit (inUpper : Bool) (value : Nibble) : Char :=
  if inUpper then (Nat.digitChar value.val).toUpper else Nat.digitChar value.val

/-- The digits of a colour, each in upper case or not. -/
def digits (inUpper : Fin 6 → Bool) (colour : Colour) : String :=
  String.ofList [
    digit (inUpper 0) (Fin.ofNat 16 (colour.red.toNat / 16)),
    digit (inUpper 1) (Fin.ofNat 16 colour.red.toNat),
    digit (inUpper 2) (Fin.ofNat 16 (colour.green.toNat / 16)),
    digit (inUpper 3) (Fin.ofNat 16 colour.green.toNat),
    digit (inUpper 4) (Fin.ofNat 16 (colour.blue.toNat / 16)),
    digit (inUpper 5) (Fin.ofNat 16 colour.blue.toNat)]

theorem isHexDigit_digit (inUpper : Bool) (value : Nibble) :
    Text.IsHexDigit (digit inUpper value) value := by
  cases inUpper
  · exact .inl rfl
  · exact .inr rfl

theorem isPair_digits (highUpper lowUpper : Bool) (byte : UInt8) :
    IsPair (digit highUpper (Fin.ofNat 16 (byte.toNat / 16)))
      (digit lowUpper (Fin.ofNat 16 byte.toNat)) byte := by
  refine ⟨_, _, isHexDigit_digit _ _, isHexDigit_digit _ _, ?_⟩
  have bound := byte.toNat_lt
  simp only [Fin.ofNat]
  omega

theorem spells_digits {mark : String} (isMark : mark ∈ marks) (inUpper : Fin 6 → Bool)
    (colour : Colour) : Spells (mark ++ digits inUpper colour) colour :=
  ⟨mark, isMark, _, _, _, _, _, _, rfl, isPair_digits _ _ _, isPair_digits _ _ _,
    isPair_digits _ _ _⟩

end Colour

namespace Bare

theorem pos?_of_isValid {text : String} {place : String.Pos.Raw} (valid : place.IsValid text) :
    text.pos? place = some (text.pos place valid) := by
  have valid' : place.isValidForSlice text.toSlice = true :=
    String.Pos.Raw.isValidForSlice_eq_true_iff.mpr
      (String.Pos.Raw.isValidForSlice_toSlice_iff.mpr valid)
  rw [String.pos?, String.Slice.pos?, dif_pos valid']
  rfl

theorem extract_append (front middle back : String) :
    (front ++ middle ++ back).toByteArray.extract front.utf8ByteSize
      (front.utf8ByteSize + middle.utf8ByteSize) = middle.toByteArray := by
  have size : front.utf8ByteSize + middle.utf8ByteSize = (front ++ middle).toByteArray.size := by
    rw [String.size_toByteArray, String.utf8ByteSize_append]
  rw [String.toByteArray_append, size, ByteArray.extract_append_size_left,
    String.toByteArray_append, ByteArray.size_append,
    ByteArray.extract_append_eq_right String.size_toByteArray.symm rfl]

/-- The part between two others can be cut out by the numbers of its first and last byte. -/
theorem slice?_append (front middle back : String) :
    slice? (front ++ middle ++ back) front.utf8ByteSize
      (front.utf8ByteSize + middle.utf8ByteSize) = some middle := by
  have start : String.Pos.Raw.IsValid (front ++ middle ++ back) ⟨front.utf8ByteSize⟩ :=
    String.Pos.Raw.isValid_iff_exists_append.mpr ⟨front, middle ++ back, String.append_assoc, rfl⟩
  have stop : String.Pos.Raw.IsValid (front ++ middle ++ back)
      ⟨front.utf8ByteSize + middle.utf8ByteSize⟩ := by
    refine String.Pos.Raw.isValid_iff_exists_append.mpr ⟨front ++ middle, back, rfl, ?_⟩
    rw [String.rawEndPos, String.utf8ByteSize_append]
  have order : String.pos _ _ start ≤ String.pos _ _ stop :=
    String.Pos.le_iff.mpr (Nat.le_add_right front.utf8ByteSize _)
  rw [slice?, pos?_of_isValid start, pos?_of_isValid stop]
  simp only [Option.bind_eq_bind, Option.bind_some, String.slice?, order, dif_pos,
    Option.pure_def, Option.some.injEq]
  apply String.toByteArray_inj.mp
  rw [← extract_append front middle back, String.Slice.toByteArray_copy]
  simp

example : slice? "aé" 0 2 = none := by decide

theorem isHexDigit_eq (c : Char) : isHexDigit c = (Text.hexDigit? c).isSome := by
  simp only [isHexDigit, Text.hexDigit?, ← Bool.decide_and]
  by_cases decimal : '0' ≤ c ∧ c ≤ '9'
  · simp [decimal]
  · by_cases inUpper : 'A' ≤ c ∧ c ≤ 'F' <;> by_cases inLower : 'a' ≤ c ∧ c ≤ 'f' <;>
      simp [decimal, inUpper, inLower]

theorem utf8Size_of_isSome {c : Char} (hex : (Text.hexDigit? c).isSome) : c.utf8Size = 1 := by
  obtain ⟨value, digit⟩ := Option.isSome_iff_exists.mp hex
  have small := Text.toNat_lt_of_hexDigit? digit
  exact Char.utf8Size_eq_one_iff.mpr (UInt32.le_iff_toNat_le.mpr (Nat.le_of_lt_succ small))

/-- Digits take a byte each. -/
theorem utf8ByteSize_ofList {digits : List Char}
    (hex : ∀ digit ∈ digits, (Text.hexDigit? digit).isSome) :
    (String.ofList digits).utf8ByteSize = digits.length := by
  induction digits with
  | nil => rfl
  | cons digit rest ih =>
    rw [List.forall_mem_cons] at hex
    rw [String.ofList_cons, String.utf8ByteSize_append, String.utf8ByteSize_singleton,
      utf8Size_of_isSome hex.1, ih hex.2, List.length_cons, Nat.add_comm]

theorem stripPrefix?_eq_none {mark text : String}
    (unlike : ∀ rest, text.toList ≠ mark.toList ++ rest) : stripPrefix? mark text = none := by
  rw [stripPrefix?, Option.map_eq_none_iff, Option.eq_none_iff_forall_ne_some]
  intro rest found
  exact unlike rest (List.isPrefixOf?_eq_some_iff_append_eq.mp found).symm

/-- Stripping one mark, the longer one first, leaves what is not the mark. -/
theorem stripPrefix?_or (text : String) :
    ((stripPrefix? "0x" text).or (stripPrefix? "#" text)).getD text =
      String.ofList (Colour.unmarked text.toList) := by
  obtain ⟨chars, rfl⟩ : ∃ chars, text = String.ofList chars := ⟨_, String.ofList_toList.symm⟩
  rw [String.toList_ofList]
  unfold Colour.unmarked
  split
  · simp only [stripPrefix?, String.toList_ofList]
    rfl
  · simp only [stripPrefix?, String.toList_ofList]
    rfl
  · next noZero noHash =>
    have without0x : stripPrefix? "0x" (String.ofList chars) = none :=
      stripPrefix?_eq_none fun rest same => noZero rest (String.toList_ofList.symm.trans same)
    have withoutHash : stripPrefix? "#" (String.ofList chars) = none :=
      stripPrefix?_eq_none fun rest same => noHash rest (String.toList_ofList.symm.trans same)
    rw [without0x, withoutHash]
    rfl

theorem hexByte?_of_isPair {high low : Char} {byte : UInt8} (pair : Colour.IsPair high low byte) :
    hexByte? (String.ofList [high, low]) = some byte := by
  obtain ⟨upper, lower, isHigh, isLow, rfl⟩ := Colour.isPair_iff.mp pair
  have unsigned : high ≠ '+' := by
    rintro rfl
    contradiction
  rw [hexByte?, String.toList_ofList]
  split
  · next same =>
    exact absurd (List.cons.inj same).1 unsigned
  · have bound : 16 * upper.val + lower.val < 256 := by omega
    simp [List.mapM_cons, isHigh, isLow, Colour.channel, bound]

/-- Behind digits, a pair of them is cut out by how many are in front of it. -/
theorem channel?_ofList (text : String) (front back : List Char) {high low : Char} {byte : UInt8}
    (hex : ∀ digit ∈ front, (Text.hexDigit? digit).isSome)
    (pair : Colour.IsPair high low byte) :
    channel? text (String.ofList (front ++ ([high, low] ++ back))) front.length = pure byte := by
  have pairHex : ∀ digit ∈ [high, low], (Text.hexDigit? digit).isSome := by
    simp [Colour.isSome_of_isPair pair]
  have cut := slice?_append (String.ofList front) (String.ofList [high, low]) (String.ofList back)
  rw [utf8ByteSize_ofList hex, utf8ByteSize_ofList pairHex, ← String.ofList_append,
    ← String.ofList_append, List.append_assoc] at cut
  change slice? _ front.length (front.length + 2) = _ at cut
  rw [channel?, cut, Option.bind_eq_bind, Option.bind_some, hexByte?_of_isPair pair]
  rfl

/-- Six bytes that are all digits are six digits. -/
theorem refused_iff {digits : List Char} :
    ((String.ofList digits).utf8ByteSize ≠ 6 ∨
        ¬ (String.ofList digits).toList.all isHexDigit) ↔
      ¬ (digits.length = 6 ∧ ∀ digit ∈ digits, (Text.hexDigit? digit).isSome) := by
  rw [String.toList_ofList, List.all_eq_true, ← not_and_or]
  simp only [isHexDigit_eq]
  refine not_congr (and_congr_left fun hex => ?_)
  rw [utf8ByteSize_ofList hex]

/-- Reading a colour from bytes is parsing it, and no cut fails. -/
theorem colour?_eq (text : String) : (colour? text).run = some (Colour.parse text) := by
  rw [colour?, stripPrefix?_or]
  by_cases accepted : ∃ colour, Colour.parse text = .ok colour
  · have hex := Colour.exists_parse_iff.mp accepted
    obtain ⟨colour, parsed⟩ := accepted
    rw [parsed]
    obtain ⟨a, b, c, d, e, f, chars, isRed, isGreen, isBlue⟩ := Colour.parse_eq_ok_iff.mp parsed
    simp only [if_neg (mt refused_iff.mp (not_not_intro hex))]
    rw [chars]
    have front : ∀ digit ∈ [a, b, c, d], (Text.hexDigit? digit).isSome := by
      simp [Colour.isSome_of_isPair isRed, Colour.isSome_of_isPair isGreen]
    have red : channel? text (String.ofList [a, b, c, d, e, f]) 0 = pure colour.red :=
      channel?_ofList text [] [c, d, e, f] (List.forall_mem_nil _) isRed
    have green : channel? text (String.ofList [a, b, c, d, e, f]) 2 = pure colour.green :=
      channel?_ofList text [a, b] [e, f] (List.forall_mem_append.mp front).1 isGreen
    have blue : channel? text (String.ofList [a, b, c, d, e, f]) 4 = pure colour.blue :=
      channel?_ofList text [a, b, c, d] [] front isBlue
    rw [red, green, blue]
    rfl
  · have refused := Colour.parse_eq_error fun colour parsed => accepted ⟨colour, parsed⟩
    rw [Colour.exists_parse_iff] at accepted
    simp only [if_pos (refused_iff.mpr accepted), refused]
    rfl

end Bare

namespace Colour

/-- Parsing a text: it succeeds for the well formed texts, the colour is the one that the pairs of
digits spell, any other text comes back as the error, no cut of the bytes fails on the way, and every
colour can be read back from its digits, whatever the cases of them and whatever the mark. -/
theorem parse_accepts_exactly_the_grammar :
    (∀ text, (∃ colour, parse text = .ok colour) ↔ WellFormed text) ∧
      (∀ text colour, parse text = .ok colour ↔ Spells text colour) ∧
      (∀ text, ¬ WellFormed text → parse text = .error ⟨text⟩) ∧
      (∀ text, (Bare.colour? text).run = some (parse text)) ∧
      ∀ mark ∈ marks, ∀ inUpper colour, parse (mark ++ digits inUpper colour) = .ok colour := by
  refine ⟨fun text => wellFormed_iff.symm, fun text colour => parse_eq_ok_iff_spells,
    fun text malformed => ?_, Bare.colour?_eq, fun mark isMark inUpper colour => ?_⟩
  · exact parse_eq_error fun colour parsed => malformed (wellFormed_iff.mpr ⟨colour, parsed⟩)
  · exact parse_eq_ok_iff_spells.mpr (spells_digits isMark inUpper colour)

example : parse "+12345" = .error ⟨"+12345"⟩ := by decide

end Colour

end SuperChip
