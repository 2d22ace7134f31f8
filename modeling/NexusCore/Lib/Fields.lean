import NexusCore.Lib.Slices

/-!
# Separated fields

A text that lists its fields between separators, with white space around them, the empty ones
skipped. The fields that are read are exactly those that can be written: not empty, without white
space at their ends and without the separator.
-/

namespace NexusCore.Lib

namespace Text

/-- The parts between the separators. -/
def splitOn (sep : Char) (s : String) : List String := (s.toList.splitOn sep).map .ofList

/-- What stands before and after the first separator. -/
def splitOnce (sep : Char) (s : String) : Option (String × String) :=
  if sep ∈ s.toList then
    some (.ofList (s.toList.takeWhile (· ≠ sep)), .ofList ((s.toList.dropWhile (· ≠ sep)).drop 1))
  else
    none

/-- The parts between the separators, trimmed, without the empty ones. -/
def fields (sep : Char) (s : String) : List String :=
  ((splitOn sep s).map trim).filter (!·.isEmpty)

/-- Two texts with a separator between them. -/
def beside (sep : Char) (front back : String) : String := .ofList (front.toList ++ sep :: back.toList)

def join (sep : Char) : List String → String
  | [] => ""
  | [part] => part
  | part :: rest => beside sep part (join sep rest)

section Trimmed

/-- No white space stands at the ends. -/
def Trimmed (s : String) : Prop := trim s = s

instance (s : String) : Decidable (Trimmed s) := inferInstanceAs (Decidable (trim s = s))

variable {s front back : String} {sep c : Char}

theorem head_dropWhile {α : Type} {p : α → Bool} {xs : List α} {x : α}
    (first : x ∈ (xs.dropWhile p).head?) : p x = false := by
  have rule := List.head?_dropWhile_not p xs
  rw [Option.mem_def.1 first] at rule
  exact rule

theorem toList_trim : (trim s).toList =
    ((s.toList.dropWhile isWhitespace).reverse.dropWhile isWhitespace).reverse := by
  rw [trim, String.toList_ofList]

theorem trim_isPrefix : (trim s).toList <+: s.toList.dropWhile isWhitespace := by
  rw [toList_trim, ← List.reverse_suffix, List.reverse_reverse]
  exact List.dropWhile_suffix _

theorem mem_of_mem_trim (mem : c ∈ (trim s).toList) : c ∈ s.toList :=
  (List.dropWhile_suffix _).subset (trim_isPrefix.subset mem)

/-- No white space is left at the ends. -/
theorem visible_trim (s : String) : (∀ c ∈ (trim s).toList.head?, isWhitespace c = false) ∧
    ∀ c ∈ (trim s).toList.getLast?, isWhitespace c = false := by
  constructor
  · intro c first
    have kept : c ∈ (s.toList.dropWhile isWhitespace).head? → isWhitespace c = false := head_dropWhile
    refine kept ?_
    obtain ⟨rest, same⟩ := trim_isPrefix (s := s)
    rw [← same, List.head?_append, Option.mem_def.1 first]
    rfl
  · intro c last
    rw [toList_trim, List.getLast?_reverse] at last
    exact head_dropWhile last

theorem trimmed_trim (s : String) : Trimmed (trim s) :=
  trim_eq_self (visible_trim s).1 (visible_trim s).2

theorem trimmed_iff : Trimmed s ↔ (∀ c ∈ s.toList.head?, isWhitespace c = false) ∧
    ∀ c ∈ s.toList.getLast?, isWhitespace c = false := by
  constructor
  · intro same
    rw [← same]
    exact visible_trim s
  · intro visible
    exact trim_eq_self visible.1 visible.2

@[simp] theorem toList_beside : (beside sep front back).toList = front.toList ++ sep :: back.toList :=
  String.toList_ofList

theorem trimmed_beside (mark : isWhitespace sep = false) (before : Trimmed front)
    (after : Trimmed back) : Trimmed (beside sep front back) := by
  rw [trimmed_iff] at before after ⊢
  rw [toList_beside]
  constructor
  · intro c first
    cases start : front.toList with
    | nil =>
      rw [start] at first
      cases first
      exact mark
    | cons d rest =>
      rw [start] at first
      cases first
      exact before.1 c (by rw [start]; rfl)
  · intro c last
    rw [List.getLast?_append, List.getLast?_cons] at last
    cases stop : back.toList.getLast? with
    | none =>
      rw [stop] at last
      cases last
      exact mark
    | some d =>
      rw [stop] at last
      cases last
      exact after.2 d stop

theorem beside_ne_empty : beside sep front back ≠ "" := by
  intro same
  have lists := congrArg String.toList same
  simp at lists

theorem mem_beside : c ∈ (beside sep front back).toList ↔
    c ∈ front.toList ∨ c = sep ∨ c ∈ back.toList := by
  simp

end Trimmed

section Once

variable {s front back : String} {sep : Char}

/-- What stands before the first separator does not contain it. -/
theorem splitOnce_eq_some : splitOnce sep s = some (front, back) ↔
    s = beside sep front back ∧ sep ∉ front.toList := by
  constructor
  · intro split
    unfold splitOnce at split
    split_ifs at split with mem
    obtain ⟨rfl, rfl⟩ := Prod.mk.inj (Option.some.inj split)
    have kept : (s.toList.dropWhile (· ≠ sep)) ≠ [] := by
      simpa using mem
    obtain ⟨c, rest, there⟩ := List.exists_cons_of_ne_nil kept
    have first : c = sep := by
      have front : c ∈ (s.toList.dropWhile (· ≠ sep)).head? := by
        rw [there]
        rfl
      simpa using head_dropWhile front
    constructor
    · apply String.toList_injective
      rw [toList_beside, String.toList_ofList, String.toList_ofList, there, List.drop_one,
        List.tail_cons]
      subst first
      rw [← there, List.takeWhile_append_dropWhile]
    · rw [String.toList_ofList]
      intro inside
      simpa using List.mem_takeWhile_imp inside
  · rintro ⟨rfl, free⟩
    have before : ∀ c ∈ front.toList, decide (c ≠ sep) = true := by
      intro c mem
      rw [decide_eq_true_iff]
      rintro rfl
      exact free mem
    unfold splitOnce
    rw [if_pos (mem_beside.2 (.inr (.inl rfl))), toList_beside,
      List.takeWhile_append_of_pos before, List.dropWhile_append_of_pos before]
    simp

end Once

section Fields

variable {s part : String} {parts : List String} {sep c : Char}

theorem join_ne_empty (named : ∀ part ∈ parts, part ≠ "") (some : parts ≠ []) :
    join sep parts ≠ "" := by
  fun_cases join sep parts with
  | case1 => exact absurd rfl some
  | case2 part => exact named part (List.mem_singleton_self part)
  | case3 => exact beside_ne_empty

theorem trimmed_join (mark : isWhitespace sep = false) (clean : ∀ part ∈ parts, Trimmed part) :
    Trimmed (join sep parts) := by
  fun_induction join sep parts with
  | case1 => decide
  | case2 part => exact clean part (List.mem_singleton_self part)
  | case3 part rest _ ih =>
    rw [List.forall_mem_cons] at clean
    exact trimmed_beside mark clean.1 (ih clean.2)

/-- Only the separators are added to the characters of the parts. -/
theorem mem_join (mem : c ∈ (join sep parts).toList) :
    c = sep ∨ ∃ part ∈ parts, c ∈ part.toList := by
  fun_induction join sep parts with
  | case1 => cases mem
  | case2 part => exact .inr ⟨part, List.mem_singleton_self part, mem⟩
  | case3 part rest _ ih =>
    rcases mem_beside.1 mem with own | same | later
    · exact .inr ⟨part, List.mem_cons_self, own⟩
    · exact .inl same
    · obtain same | ⟨other, among, inside⟩ := ih later
      · exact .inl same
      · exact .inr ⟨other, List.mem_cons_of_mem part among, inside⟩

theorem splitOn_join (free : ∀ part ∈ parts, sep ∉ part.toList) (some : parts ≠ []) :
    splitOn sep (join sep parts) = parts := by
  unfold splitOn
  fun_induction join sep parts with
  | case1 => exact absurd rfl some
  | case2 part =>
    rw [List.splitOn_eq_singleton (free part (List.mem_singleton_self part)), List.map_singleton,
      String.ofList_toList]
  | case3 part rest more ih =>
    rw [List.forall_mem_cons] at free
    have more : rest ≠ [] := fun none => more none
    rw [toList_beside, List.splitOn_append_cons_self_of_not_mem free.1, List.map_cons,
      String.ofList_toList, ih free.2 more]

/-- What can be written as a field. -/
def Field (sep : Char) (s : String) : Prop := Trimmed s ∧ s ≠ "" ∧ sep ∉ s.toList

theorem fields_join (clean : ∀ part ∈ parts, Field sep part) :
    fields sep (join sep parts) = parts := by
  cases parts with
  | nil => rfl
  | cons part rest =>
    unfold fields
    rw [splitOn_join (fun part mem => (clean part mem).2.2) (List.cons_ne_nil part rest),
      List.map_congr_left fun part mem => (clean part mem).1, List.map_id',
      List.filter_eq_self]
    intro part mem
    simpa using (clean part mem).2.1

theorem mem_splitOn {cs part : List Char} (mem : part ∈ cs.splitOn sep) :
    sep ∉ part ∧ part ⊆ cs := by
  induction cs generalizing part with
  | nil =>
    obtain rfl : part = [] := by simpa using mem
    simp
  | cons d rest ih =>
    rw [List.splitOn_cons_eq_if_modifyHead] at mem
    obtain ⟨first, others, there⟩ := List.exists_cons_of_ne_nil (List.splitOn_ne_nil sep rest)
    rw [there, List.modifyHead_cons] at mem
    split_ifs at mem with same
    · rcases List.mem_cons.1 mem with rfl | later
      · simp
      · obtain ⟨free, inside⟩ := ih (there ▸ later)
        exact ⟨free, fun c own => List.mem_cons_of_mem d (inside own)⟩
    · rcases List.mem_cons.1 mem with rfl | later
      · obtain ⟨free, inside⟩ := ih (there ▸ List.mem_cons_self)
        have other : sep ≠ d := fun eq => same (beq_iff_eq.2 eq.symm)
        exact ⟨List.not_mem_cons_of_ne_of_not_mem other free, List.cons_subset_cons d inside⟩
      · obtain ⟨free, inside⟩ := ih (there ▸ List.mem_cons_of_mem first later)
        exact ⟨free, fun c own => List.mem_cons_of_mem d (inside own)⟩

/-- What is read is a field, and its characters are those of the text. -/
theorem of_mem_fields (mem : part ∈ fields sep s) :
    Field sep part ∧ part.toList ⊆ s.toList := by
  obtain ⟨listed, some⟩ := List.mem_filter.1 mem
  obtain ⟨whole, among, rfl⟩ := List.mem_map.1 listed
  obtain ⟨cs, split, rfl⟩ := List.mem_map.1 among
  obtain ⟨free, inside⟩ := mem_splitOn split
  have own : ∀ c ∈ (trim (.ofList cs)).toList, c ∈ cs := by
    intro c mem
    simpa using mem_of_mem_trim mem
  refine ⟨⟨trimmed_trim _, by simpa using some, fun mem => free (own sep mem)⟩, ?_⟩
  intro c mem
  exact inside (own c mem)

end Fields

end Text

end NexusCore.Lib
