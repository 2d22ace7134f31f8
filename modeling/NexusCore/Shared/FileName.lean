import Mathlib.Data.List.TakeWhile
import Mathlib.Tactic.Common
import NexusCore.Lib.Text

/-!
# The parts of a file name

A file name is split at its last dot into the stem and the extension, unless nothing stands before
that dot.
-/

namespace NexusCore.Path

open NexusCore.Lib

/-- What stands before and after the last dot. -/
def splitLastDot : List Char → Option (List Char × List Char)
  | [] => none
  | c :: rest =>
    match splitLastDot rest with
    | some (before, after) => some (c :: before, after)
    | none => if c = '.' then some ([], rest) else none

/-- The stem of a file name, and its extension if it has one. -/
def splitFileName (name : String) : String × Option String :=
  if name = ".." then
    (name, none)
  else
    match splitLastDot name.toList with
    | none => (name, none)
    | some ([], _) => (name, none)
    | some (before, after) => (.ofList before, some (.ofList after))

def fileStem (name : String) : String := (splitFileName name).1

def extension (name : String) : Option String := (splitFileName name).2

section Split

variable {name before after : List Char}

theorem splitLastDot_eq_none : splitLastDot name = none ↔ '.' ∉ name := by
  induction name with
  | nil => simp [splitLastDot]
  | cons c rest ih =>
    rw [splitLastDot]
    cases later : splitLastDot rest with
    | some parts =>
      have dot : '.' ∈ rest := by
        by_contra free
        rw [ih.2 free] at later
        cases later
      simp [dot]
    | none =>
      have free := ih.1 later
      simp [free, eq_comm]

theorem splitLastDot_append (free : '.' ∉ after) :
    splitLastDot (before ++ '.' :: after) = some (before, after) := by
  induction before with
  | nil => simp [splitLastDot, splitLastDot_eq_none.2 free]
  | cons c rest ih => simp [splitLastDot, ih]

theorem of_splitLastDot (split : splitLastDot name = some (before, after)) :
    name = before ++ '.' :: after ∧ '.' ∉ after := by
  induction name generalizing before with
  | nil => cases split
  | cons c rest ih =>
    rw [splitLastDot] at split
    cases later : splitLastDot rest with
    | some parts =>
      rw [later] at split
      obtain ⟨front, back⟩ := parts
      cases split
      obtain ⟨same, free⟩ := ih later
      exact ⟨by rw [same]; rfl, free⟩
    | none =>
      rw [later] at split
      have free := splitLastDot_eq_none.1 later
      by_cases dot : c = '.'
      · simp only [dot, if_true, Option.some.injEq, Prod.mk.injEq] at split
        obtain ⟨rfl, rfl⟩ := split
        exact ⟨by rw [dot]; rfl, free⟩
      · simp [dot] at split

/-- The parts of a name with an extension. -/
theorem splitFileName_of_some {stem name ext : String}
    (parts : splitFileName name = (stem, some ext)) :
    name = stem ++ "." ++ ext ∧ stem ≠ "" ∧ '.' ∉ ext.toList := by
  have dots : name ≠ ".." := by
    intro dots
    rw [splitFileName, if_pos dots] at parts
    cases parts
  rw [splitFileName, if_neg dots] at parts
  cases split : splitLastDot name.toList with
  | none =>
    rw [split] at parts
    cases parts
  | some halves =>
    rw [split] at parts
    obtain ⟨before, after⟩ := halves
    cases before with
    | nil => cases parts
    | cons c front =>
      cases parts
      obtain ⟨same, free⟩ := of_splitLastDot split
      refine ⟨String.toList_injective ?_, ?_, by simpa using free⟩
      · simpa using same
      · intro nothing
        simpa using congrArg String.toList nothing

/-- A dot in front of a text without dots ends the stem. -/
theorem splitFileName_append {stem ext : String} (nonempty : stem ≠ "")
    (dots : stem ++ "." ++ ext ≠ "..") (free : '.' ∉ ext.toList) :
    splitFileName (stem ++ "." ++ ext) = (stem, some ext) := by
  have split : splitLastDot (stem ++ "." ++ ext).toList = some (stem.toList, ext.toList) := by
    have same : (stem ++ "." ++ ext).toList = stem.toList ++ '.' :: ext.toList := by simp
    rw [same, splitLastDot_append free]
  rw [splitFileName, if_neg dots, split]
  cases front : stem.toList with
  | nil => exact absurd (String.toList_eq_nil_iff.1 front) nonempty
  | cons c rest =>
    change (String.ofList (c :: rest), some (String.ofList ext.toList)) = _
    rw [← front, String.ofList_toList, String.ofList_toList]

/-- Without an extension, what has no dot can be appended to the name. -/
theorem splitFileName_of_none {stem name back : String} (parts : splitFileName name = (stem, none))
    (normal : name ≠ "..") (free : '.' ∉ back.toList) :
    stem = name ∧ splitFileName (name ++ back) = (name ++ back, none) := by
  rw [splitFileName, if_neg normal] at parts
  have apart : name ++ back ≠ ".." := by
    intro dots
    have chars : name.toList ++ back.toList = ['.', '.'] := by
      rw [← String.toList_append, dots]
      rfl
    have nothing : back.toList = [] := by
      refine List.eq_nil_iff_forall_not_mem.2 fun c mem => ?_
      have dot : c ∈ ['.', '.'] := chars ▸ List.mem_append_right _ mem
      have same : c = '.' := by simpa using dot
      exact free (same ▸ mem)
    rw [nothing, List.append_nil] at chars
    exact normal (String.toList_injective chars)
  cases split : splitLastDot name.toList with
  | none =>
    rw [split] at parts
    have same : name = stem := congrArg Prod.fst parts
    have free' : '.' ∉ (name ++ back).toList := by
      rw [String.toList_append, List.mem_append]
      exact not_or.2 ⟨splitLastDot_eq_none.1 split, free⟩
    rw [splitFileName, if_neg apart, splitLastDot_eq_none.2 free']
    exact ⟨same.symm, rfl⟩
  | some halves =>
    rw [split] at parts
    obtain ⟨before, after⟩ := halves
    cases before with
    | cons c front => cases parts
    | nil =>
      have whole : name = stem := congrArg Prod.fst parts
      obtain ⟨same, free'⟩ := of_splitLastDot split
      have split' : splitLastDot (name ++ back).toList = some ([], after ++ back.toList) := by
        rw [String.toList_append, same, List.append_assoc, List.cons_append]
        refine splitLastDot_append ?_
        rw [List.mem_append]
        exact not_or.2 ⟨free', free⟩
      rw [splitFileName, if_neg apart, split']
      exact ⟨whole.symm, rfl⟩

end Split

end NexusCore.Path
