import Mathlib.Data.List.Basic

/-!
# Paths

The few operations on Unix paths that the runtime uses. A path is its text; a relative
part of a path is shown without redundant separators.
-/

namespace NexusCore.Path

def isAbsolute (path : String) : Bool := path.toList.head? == some '/'

/-- An absolute second part replaces the first one. -/
def join (base part : String) : String :=
  if isAbsolute part then
    part
  else if base.toList.getLast? == some '/' then
    base ++ part
  else
    base ++ "/" ++ part

/-- Below a fixed directory, a relative part is appended to the same text. -/
theorem join_relative (base : String) :
    ∃ front, ∀ part, isAbsolute part = false → join base part = front ++ part := by
  by_cases slash : base.toList.getLast? = some '/'
  · refine ⟨base, ?_⟩
    intro part relative
    simp [join, relative, slash]
  · refine ⟨base ++ "/", ?_⟩
    intro part relative
    simp [join, relative, slash]

theorem join_of_getLast? {base part : String} (noSlash : base.toList.getLast? ≠ some '/')
    (relative : isAbsolute part = false) : join base part = base ++ "/" ++ part := by
  simp [join, relative, noSlash]

/-- Every relative part of a directory comes after the same text and a separator. -/
theorem join_file (base : String) :
    ∃ front, ∀ part, isAbsolute part = false → join base part = front ++ "/" ++ part := by
  by_cases slash : base.toList.getLast? = some '/'
  · obtain ⟨chars, split⟩ := List.getLast?_eq_some_iff.1 slash
    have text : base = .ofList chars ++ "/" := by
      apply String.toList_injective
      rw [split, String.toList_append, String.toList_ofList]
      rfl
    refine ⟨.ofList chars, ?_⟩
    intro part relative
    rw [join, if_neg (by simp [relative]), if_pos (by simp [slash]), ← text]
  · exact ⟨base, fun part relative => join_of_getLast? slash relative⟩

/-- The names a path is made of; empty ones and the current directory do not count. -/
def components (path : String) : List String :=
  (path.splitOn "/").filter fun name => name ≠ "" ∧ name ≠ "."

/-- A path with the given names, absolute like the path they come from. -/
private def render (absolute : Bool) (names : List String) : String :=
  (if absolute then "/" else "") ++ "/".intercalate names

def parent (path : String) : Option String :=
  match components path with
  | [] => none
  | names => some (render (isAbsolute path) names.dropLast)

/-- The rest of a path below a directory. -/
def stripPrefix (directory path : String) : Option String :=
  if isAbsolute directory == isAbsolute path &&
      (components directory).isPrefixOf (components path) then
    some (render false ((components path).drop (components directory).length))
  else
    none

end NexusCore.Path
