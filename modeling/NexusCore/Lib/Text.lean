import Mathlib.Data.List.Infix
import Mathlib.Data.List.TakeWhile
import Mathlib.Data.UInt
import Mathlib.Tactic.Common

/-!
# Text and decimal numbers

The string operations that are used as data: prefixes, substrings, trimming by the
Unicode white space property, and decimal numbers read back from where they were
printed. Strings are taken as their lists of characters.
-/

namespace NexusCore.Lib

namespace Text

/-- The characters with the Unicode `White_Space` property. -/
def isWhitespace (c : Char) : Bool :=
  (9 ≤ c.toNat && c.toNat ≤ 13) || c.toNat == 32 || c.toNat == 0x85 || c.toNat == 0xA0 ||
    c.toNat == 0x1680 || (0x2000 ≤ c.toNat && c.toNat ≤ 0x200A) || c.toNat == 0x2028 ||
    c.toNat == 0x2029 || c.toNat == 0x202F || c.toNat == 0x205F || c.toNat == 0x3000

/-- Remove white space at both ends. -/
def trim (s : String) : String :=
  .ofList ((s.toList.dropWhile isWhitespace).reverse.dropWhile isWhitespace).reverse

/-- White space around a text makes no difference. -/
theorem trim_padded {front back : String} (before : ∀ c ∈ front.toList, isWhitespace c)
    (after : ∀ c ∈ back.toList, isWhitespace c) (s : String) :
    trim (front ++ s ++ back) = trim s := by
  have front' : front.toList.dropWhile isWhitespace = [] := List.dropWhile_eq_nil_iff.2 before
  have back' : back.toList.dropWhile isWhitespace = [] := List.dropWhile_eq_nil_iff.2 after
  have reversed : back.toList.reverse.dropWhile isWhitespace = [] :=
    List.dropWhile_eq_nil_iff.2 fun c mem => after c (List.mem_reverse.1 mem)
  unfold trim
  rw [String.toList_append, String.toList_append, List.append_assoc, List.dropWhile_append, front']
  simp only [List.isEmpty_nil, if_true, List.dropWhile_append, back']
  cases kept : s.toList.dropWhile isWhitespace with
  | nil => rfl
  | cons c rest => simp [List.dropWhile_append, reversed]

theorem trim_blank {s : String} (blank : ∀ c ∈ s.toList, isWhitespace c) : trim s = "" := by
  have dropped : s.toList.dropWhile isWhitespace = [] := List.dropWhile_eq_nil_iff.2 blank
  simp [trim, dropped]

/-- The maximal runs of characters other than white space. -/
def splitWhitespace (s : String) : List String :=
  ((s.toList.splitOnP isWhitespace).filter (!·.isEmpty)).map .ofList

/-- The text after a prefix. -/
def stripPrefix (front s : String) : Option String :=
  if front.toList.isPrefixOf s.toList then
    some (.ofList (s.toList.drop front.toList.length))
  else
    none

/-- Whether a text occurs inside another one. -/
def contains (s part : String) : Bool := decide (part.toList <:+: s.toList)

/-- Cut a text at a byte offset, which must be between two characters. -/
def splitAtByte : List Char → Nat → Option (List Char × List Char)
  | cs, 0 => some ([], cs)
  | [], _ + 1 => none
  | c :: cs, n + 1 =>
    if c.utf8Size ≤ n + 1 then
      (splitAtByte cs (n + 1 - c.utf8Size)).map fun (front, rest) => (c :: front, rest)
    else
      none

/-- The text between two byte offsets; `none` when one of them is out of range or inside a
character. -/
def slice (s : String) (start stop : Nat) : Option String := do
  guard (start ≤ stop)
  let (_, rest) ← splitAtByte s.toList start
  let (middle, _) ← splitAtByte rest (stop - start)
  return .ofList middle

/-- The byte offset of the first occurrence of a text. -/
def find (part : String) (s : String) : Option Nat :=
  go 0 s.toList
where
  go (offset : Nat) : List Char → Option Nat
    | [] => if part.isEmpty then some offset else none
    | c :: cs =>
      if part.toList.isPrefixOf (c :: cs) then some offset else go (offset + c.utf8Size) cs

@[simp] theorem stripPrefix_append (front s : String) :
    stripPrefix front (front ++ s) = some s := by
  simp [stripPrefix]

/-- A decimal number without sign. -/
def parseDigits (digits : List Char) : Option Nat :=
  if digits ≠ [] ∧ digits.all Char.isDigit then
    some (Nat.ofDigitChars 10 digits 0)
  else
    none

/-- Skip a plus sign in front. -/
def skipSign : List Char → List Char
  | '+' :: rest => rest
  | all => all

/-- An unsigned 32-bit number: digits with an optional plus sign, within the range. -/
def parseU32 (s : String) : Option UInt32 :=
  match parseDigits (skipSign s.toList) with
  | some n => if h : n < 2 ^ 32 then some (.ofNatLT n h) else none
  | none => none

theorem all_isDigit_toDigits (n : Nat) : (Nat.toDigits 10 n).all Char.isDigit := by
  rw [List.all_eq_true]
  intro c hc
  exact Nat.isDigit_of_mem_toDigits (by decide) (by decide) hc

@[simp] theorem parseDigits_toDigits (n : Nat) : parseDigits (Nat.toDigits 10 n) = some n := by
  simp [parseDigits, all_isDigit_toDigits, Nat.ofDigitChars_ten_toDigits]

theorem not_mem_toString {c : Char} (n : Nat) (other : c.isDigit = false) :
    c ∉ (toString n).toList := by
  intro mem
  rw [Nat.toString_eq_repr, Nat.toList_repr] at mem
  have digit := List.all_eq_true.1 (all_isDigit_toDigits n) c mem
  rw [other] at digit
  cases digit

theorem toString_injective {n n' : Nat} (same : (toString n).toList = (toString n').toList) :
    n = n' := by
  rw [Nat.toString_eq_repr, Nat.toString_eq_repr, Nat.toList_repr, Nat.toList_repr] at same
  have parsed := congrArg parseDigits same
  rw [parseDigits_toDigits, parseDigits_toDigits] at parsed
  exact Option.some.inj parsed

theorem skipSign_toDigits (n : Nat) : skipSign (Nat.toDigits 10 n) = Nat.toDigits 10 n := by
  unfold skipSign
  split
  · rename_i rest h
    have digit := all_isDigit_toDigits n
    simp [h] at digit
  · rfl

/-- A number is read back from where it was printed. -/
@[simp] theorem parseU32_repr (n : UInt32) : parseU32 n.toNat.repr = some n := by
  have digits : n.toNat.repr.toList = Nat.toDigits 10 n.toNat := by simp
  simp only [parseU32, digits, skipSign_toDigits, parseDigits_toDigits]
  rw [dif_pos n.toNat_lt, UInt32.ofNatLT_toNat]

/-- A number printed with zeros in front, up to a width. -/
def padded (width n : Nat) : String :=
  .ofList (List.replicate (width - (Nat.toDigits 10 n).length) '0' ++ Nat.toDigits 10 n)

/-- Texts with different ends of one length are different. -/
theorem append_ne {front front' back back' : String}
    (length : back.toList.length = back'.toList.length) (other : back ≠ back') :
    front ++ back ≠ front' ++ back' := by
  intro same
  have lists := congrArg String.toList same
  simp only [String.toList_append] at lists
  exact other (String.toList_injective (List.append_inj' lists length).2)

/-- A separator that stands in neither front splits a list in one way. -/
theorem append_cons_inj {α : Type} {c : α} {front front' back back' : List α} (plain : c ∉ front)
    (plain' : c ∉ front') (same : front ++ c :: back = front' ++ c :: back') :
    front = front' ∧ back = back' := by
  rcases List.append_eq_append_iff.1 same with ⟨between, rfl, rest⟩ | ⟨between, rfl, rest⟩
  all_goals cases between <;> grind

/-- The part behind the last separator of a text is all that follows it. -/
theorem append_slash_inj {front front' back back' : String} (plain : '/' ∉ back.toList)
    (plain' : '/' ∉ back'.toList) (same : front ++ "/" ++ back = front' ++ "/" ++ back') :
    front = front' ∧ back = back' := by
  have lists : back.toList.reverse ++ '/' :: front.toList.reverse =
      back'.toList.reverse ++ '/' :: front'.toList.reverse := by
    simpa using congrArg (fun text => text.toList.reverse) same
  obtain ⟨backs, fronts⟩ := append_cons_inj (by simpa using plain) (by simpa using plain') lists
  exact ⟨String.toList_injective (List.reverse_injective fronts),
    String.toList_injective (List.reverse_injective backs)⟩

/-- A printed number ends with a digit. -/
theorem getLast?_padded (width n : Nat) (c : Char) (h : (padded width n).toList.getLast? = some c) :
    c.isDigit := by
  have digits := List.all_eq_true.1 (all_isDigit_toDigits n)
  have mem := List.mem_of_getLast? h
  simp only [padded, String.toList_ofList, List.mem_append, List.mem_replicate] at mem
  rcases mem with ⟨-, rfl⟩ | mem
  · rfl
  · exact digits c mem

theorem padded_injective (width : Nat) {m n : Nat} (h : padded width m = padded width n) :
    m = n := by
  have value : ∀ k, Nat.ofDigitChars 10 (padded width k).toList 0 = k := by
    intro k
    simp [padded, Nat.ofDigitChars_append, Nat.ofDigitChars_ten_toDigits]
  rw [← value m, h, value n]

end Text

end NexusCore.Lib
