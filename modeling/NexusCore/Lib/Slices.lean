import Mathlib.Data.Option.Basic
import NexusCore.Lib.Text

/-!
# Slices of a text by byte offsets

An offset cuts a text unless a character lies across it. A slice exists exactly when both of its
offsets cut the text, and has as many bytes as lie between them.
-/

namespace NexusCore.Lib

namespace Text

/-- The bytes of the UTF-8 form of some characters. -/
def byteSize (cs : List Char) : Nat := (cs.map Char.utf8Size).sum

@[simp, grind =] theorem byteSize_nil : byteSize [] = 0 := rfl

@[simp, grind =] theorem byteSize_cons (c : Char) (cs : List Char) :
    byteSize (c :: cs) = c.utf8Size + byteSize cs := rfl

@[simp, grind =] theorem byteSize_append (cs ds : List Char) :
    byteSize (cs ++ ds) = byteSize cs + byteSize ds := by
  simp [byteSize]

theorem utf8ByteSize_ofList (cs : List Char) : (String.ofList cs).utf8ByteSize = byteSize cs := by
  induction cs with
  | nil => rfl
  | cons c cs ih =>
    rw [String.ofList_cons, String.utf8ByteSize_append, String.utf8ByteSize_singleton, ih]
    rfl

theorem byteSize_toList (s : String) : byteSize s.toList = s.utf8ByteSize := by
  rw [← utf8ByteSize_ofList, String.ofList_toList]

/-- A character lies across a byte offset. -/
def Straddles (cs : List Char) (n : Nat) : Prop :=
  ∃ front c rest, cs = front ++ c :: rest ∧ byteSize front < n ∧ n < byteSize front + c.utf8Size

theorem not_straddles_zero (cs : List Char) : ¬ Straddles cs 0 := by
  rintro ⟨front, c, rest, -, before, -⟩
  omega

/-- Behind the first character, or across it. -/
theorem straddles_cons {c : Char} {cs : List Char} {n : Nat} : Straddles (c :: cs) n ↔
    (0 < n ∧ n < c.utf8Size) ∨ (c.utf8Size ≤ n ∧ Straddles cs (n - c.utf8Size)) := by
  constructor
  · rintro ⟨_ | ⟨d, front⟩, e, rest, same, before, after⟩
    · obtain ⟨rfl, rfl⟩ := List.cons.inj same
      simp only [byteSize_nil] at before after
      omega
    · obtain ⟨rfl, rfl⟩ := List.cons.inj same
      simp only [byteSize_cons] at before after
      refine .inr ⟨by omega, front, e, rest, rfl, by omega, by omega⟩
  · rintro (⟨positive, inside⟩ | ⟨behind, front, e, rest, rfl, before, after⟩)
    · exact ⟨[], c, cs, rfl, positive, by simpa using inside⟩
    · refine ⟨c :: front, e, rest, rfl, ?_, ?_⟩
      · rw [byteSize_cons]
        omega
      · rw [byteSize_cons]
        omega

theorem straddles_append {front rest : List Char} {n : Nat} (behind : byteSize front ≤ n) :
    Straddles (front ++ rest) n ↔ Straddles rest (n - byteSize front) := by
  induction front generalizing n with
  | nil => simp
  | cons c front ih =>
    rw [byteSize_cons] at behind
    rw [List.cons_append, straddles_cons, ih (by omega), byteSize_cons, Nat.sub_sub]
    constructor
    · rintro (⟨-, inside⟩ | ⟨-, straddles⟩)
      · omega
      · exact straddles
    · intro straddles
      exact .inr ⟨by omega, straddles⟩

/-- The offsets between two characters are those that cut a text. -/
theorem splitAtByte_isSome {cs : List Char} {n : Nat} :
    (splitAtByte cs n).isSome ↔ n ≤ byteSize cs ∧ ¬ Straddles cs n := by
  fun_induction splitAtByte cs n with
  | case1 cs => simp [not_straddles_zero]
  | case2 n => simp
  | case3 c cs n fits ih =>
    rw [Option.isSome_map, ih, straddles_cons, byteSize_cons]
    constructor
    · rintro ⟨inside, free⟩
      refine ⟨by omega, ?_⟩
      rintro (⟨-, short⟩ | ⟨-, straddles⟩)
      · omega
      · exact free straddles
    · rintro ⟨inside, free⟩
      exact ⟨by omega, fun straddles => free (.inr ⟨fits, straddles⟩)⟩
  | case4 c cs n long =>
    have across : Straddles (c :: cs) (n + 1) := straddles_cons.2 (.inl ⟨by omega, by omega⟩)
    simp [across]

theorem splitAtByte_spec {cs front rest : List Char} {n : Nat}
    (split : splitAtByte cs n = some (front, rest)) : cs = front ++ rest ∧ byteSize front = n := by
  fun_induction splitAtByte cs n generalizing front rest with
  | case1 cs =>
    cases split
    exact ⟨rfl, rfl⟩
  | case2 n => cases split
  | case3 c cs n fits ih =>
    obtain ⟨⟨front', rest'⟩, there, pair⟩ := Option.map_eq_some_iff.1 split
    cases pair
    obtain ⟨rfl, size⟩ := ih there
    refine ⟨rfl, ?_⟩
    rw [byteSize_cons]
    omega
  | case4 c cs n long => cases split

theorem slice_isSome {s : String} {start stop : Nat} : (slice s start stop).isSome ↔
    start ≤ stop ∧ stop ≤ s.utf8ByteSize ∧ ¬ Straddles s.toList start ∧ ¬ Straddles s.toList stop := by
  rw [← byteSize_toList]
  by_cases ordered : start ≤ stop
  · cases split : splitAtByte s.toList start with
    | none =>
      have uncut : ¬ (start ≤ byteSize s.toList ∧ ¬ Straddles s.toList start) := by
        rw [← splitAtByte_isSome, split]
        simp
      simp only [slice, ordered, split]
      constructor
      · intro some
        simp at some
      · rintro ⟨-, inside, free, -⟩
        exact absurd ⟨by omega, free⟩ uncut
    | some parts =>
      obtain ⟨front, rest⟩ := parts
      obtain ⟨same, size⟩ := splitAtByte_spec split
      have cut : ¬ Straddles s.toList start :=
        (splitAtByte_isSome.1 (by rw [split]; rfl)).2
      have inner : (slice s start stop).isSome ↔ (splitAtByte rest (stop - start)).isSome := by
        cases middle : splitAtByte rest (stop - start) <;> simp [slice, ordered, split, middle]
      rw [inner, splitAtByte_isSome, same, byteSize_append, straddles_append (n := stop) (by omega),
        ← same, size]
      constructor
      · rintro ⟨inside, free⟩
        exact ⟨ordered, by omega, cut, free⟩
      · rintro ⟨-, inside, -, free⟩
        exact ⟨by omega, free⟩
  · have none : slice s start stop = none := by
      simp only [slice, ordered, guard_false]
      rfl
    simp [none, ordered]

theorem slice_utf8ByteSize {s part : String} {start stop : Nat}
    (sliced : slice s start stop = some part) : part.utf8ByteSize = stop - start := by
  by_cases ordered : start ≤ stop
  · cases split : splitAtByte s.toList start with
    | none => simp [slice, ordered, split] at sliced
    | some parts =>
      obtain ⟨front, rest⟩ := parts
      cases middle : splitAtByte rest (stop - start) with
      | none => simp [slice, ordered, split, middle] at sliced
      | some pieces =>
        obtain ⟨piece, after⟩ := pieces
        obtain rfl : String.ofList piece = part := by
          simpa [slice, ordered, split, middle] using sliced
        rw [utf8ByteSize_ofList]
        exact (splitAtByte_spec middle).2
  · simp [slice, ordered] at sliced

/-- A text that is found lies inside. -/
theorem find_spec {part s : String} {index : Nat} (found : find part s = some index) :
    index + part.utf8ByteSize ≤ s.utf8ByteSize := by
  rw [← byteSize_toList, ← byteSize_toList]
  have inside : ∀ (cs : List Char) (offset : Nat), find.go part offset cs = some index →
      index + byteSize part.toList ≤ offset + byteSize cs := by
    intro cs
    induction cs with
    | nil =>
      intro offset found
      rw [find.go] at found
      split_ifs at found with empty
      cases found
      have none : part = "" := String.isEmpty_iff.1 empty
      simp [none]
    | cons c cs ih =>
      intro offset found
      rw [find.go] at found
      split_ifs at found with front
      · cases found
        obtain ⟨rest, same⟩ := List.isPrefixOf_iff_prefix.1 front
        rw [← same, byteSize_append]
        omega
      · have later := ih _ found
        rw [byteSize_cons]
        omega
  have whole := inside s.toList 0 found
  omega

/-- A text with a character that another one lacks is not found in it. -/
theorem find_eq_none {part s : String} {c : Char} (mem : c ∈ part.toList) (lacks : c ∉ s.toList) :
    find part s = none := by
  have nonempty : part.isEmpty = false := by
    rw [Bool.eq_false_iff]
    intro empty
    simp [String.isEmpty_iff.1 empty] at mem
  have nowhere : ∀ (cs : List Char) (offset : Nat), c ∉ cs → find.go part offset cs = none := by
    intro cs
    induction cs with
    | nil => simp [find.go, nonempty]
    | cons d cs ih =>
      intro offset lacks
      have other : ¬ part.toList.isPrefixOf (d :: cs) = true := by
        intro front
        exact lacks ((List.isPrefixOf_iff_prefix.1 front).subset mem)
      rw [find.go, if_neg other]
      exact ih _ fun later => lacks (List.mem_cons_of_mem d later)
  exact nowhere s.toList 0 lacks

/-- A text without white space at its ends is left as it is. -/
theorem trim_eq_self {s : String} (head : ∀ c ∈ s.toList.head?, isWhitespace c = false)
    (last : ∀ c ∈ s.toList.getLast?, isWhitespace c = false) : trim s = s := by
  have kept : ∀ cs : List Char, (∀ c ∈ cs.head?, isWhitespace c = false) →
      cs.dropWhile isWhitespace = cs := by
    intro cs visible
    cases cs with
    | nil => rfl
    | cons c cs => rw [List.dropWhile_cons, visible c rfl, if_neg Bool.false_ne_true]
  rw [← List.head?_reverse] at last
  rw [trim, kept _ head, kept _ last, List.reverse_reverse, String.ofList_toList]

end Text

end NexusCore.Lib
