import Mathlib.Data.List.Perm.Basic
import NexusCore.Lib.Comparators
import NexusCore.Lib.Numbers
import NexusCore.Runtime.Judge

/-!
# Comparing numbers

1. Without order, two outputs are accepted if and only if their numbers can be paired such that no
   pair is further apart than the tolerance.
2. A value that is not a number is equal to every other one for the sort, which is a total preorder
   only where all other values are the same.
-/

namespace NexusCore.Runtime

open NexusCore.Lib

/-- The library with numbers of the IEEE 754 kind. The rounding of differences, the lower-case
mapping and the reading of numbers are left open. -/
abbrev numberStdlib (round : ℚ → Number) (toLowercase : String → String)
    (parse : String → Option Number) : Stdlib where
  toLowercase := toLowercase
  Float := Number
  ofBits := Number.ofBits
  parse := parse
  sub := Number.sub round
  abs := Number.abs
  le := Number.le
  partialCmp := Number.partialCmp

namespace Stdlib

section Reading

variable {std : Stdlib} {tokens printed : List String} {values : List std.Float}

theorem parseFloats_iff : std.parseFloats tokens = some values ↔
    List.Forall₂ (fun token value => std.parse token = some value) tokens values := by
  unfold parseFloats
  induction tokens generalizing values with
  | nil => cases values <;> simp
  | cons token tokens ih =>
    constructor
    · intro read
      simp only [List.mapM_cons, Option.bind_eq_bind, Option.bind_eq_some_iff,
        Option.pure_def] at read
      obtain ⟨value, first, others, rest, same⟩ := read
      cases same
      exact .cons first (ih.1 rest)
    · intro paired
      cases paired with
      | cons first rest => simp [first, ih.2 rest]

theorem parseFloats_iff_map :
    std.parseFloats tokens = some values ↔ tokens.map std.parse = values.map some := by
  rw [parseFloats_iff, ← List.forall₂_eq_eq_eq, List.forall₂_map_left_iff,
    List.forall₂_map_right_iff]

theorem length_parseFloats (read : std.parseFloats tokens = some values) :
    values.length = tokens.length :=
  (parseFloats_iff.1 read).length_eq.symm

/-- The tokens in another order give the numbers in another order. -/
theorem parseFloats_perm (read : std.parseFloats tokens = some values)
    (perm : printed.Perm tokens) :
    ∃ values', std.parseFloats printed = some values' ∧ values'.Perm values := by
  obtain ⟨values', paired, perm'⟩ := List.perm_comp_forall₂ perm (parseFloats_iff.1 read)
  exact ⟨values', parseFloats_iff.2 paired, perm'⟩

theorem compareFloatTokens_of_read {userTokens expectedTokens : List String}
    {config : RuntimeValidatorConfig} {user expected : List std.Float}
    (read : std.parseFloats userTokens = some user)
    (read' : std.parseFloats expectedTokens = some expected) :
    std.compareFloatTokens userTokens expectedTokens config ↔
      List.Forall₂ (fun lhs rhs =>
          std.le (std.abs (std.sub lhs rhs)) (std.ofBits config.floatEpsilon))
        (if config.isUnordered then std.sortFloats user else user)
        (if config.isUnordered then std.sortFloats expected else expected) := by
  have sizes : ∀ values : List std.Float,
      (if config.isUnordered then std.sortFloats values else values).length = values.length := by
    intro values
    split_ifs
    · exact List.length_mergeSort _
    · rfl
  rw [List.forall₂_iff_zip, sizes, sizes, length_parseFloats read, length_parseFloats read']
  unfold compareFloatTokens
  by_cases length : userTokens.length = expectedTokens.length
  · rw [if_neg (not_not.2 length), read, read']
    simp [length]
  · simp [length]

end Reading

section Pairing

variable {toLowercase : String → String} {parse : String → Option Number}
  {userTokens expectedTokens : List String} {config : RuntimeValidatorConfig}
  {user expected : List ℚ}

/-- A pairing goes with the order of what is paired. -/
theorem forall₂_perm_right {α β : Type} {R : α → β → Prop} {xs : List α} {ys zs : List β}
    (paired : List.Forall₂ R xs ys) (perm : ys.Perm zs) :
    ∃ ws, ws.Perm xs ∧ List.Forall₂ R ws zs := by
  have comp : Relation.Comp (List.Forall₂ R) List.Perm xs zs := ⟨ys, paired, perm⟩
  rw [List.forall₂_comp_perm_eq_perm_comp_forall₂] at comp
  obtain ⟨ws, there, paired'⟩ := comp
  exact ⟨ws, there.symm, paired'⟩

theorem sortFloats_finite {round : ℚ → Number} (values : List ℚ) :
    (numberStdlib round toLowercase parse).sortFloats (values.map .finite) =
      (values.mergeSort fun a b => decide (a ≤ b)).map Number.finite := by
  refine (List.map_mergeSort fun a _ b _ => ?_).symm
  rw [← Number.le_finite]
  rfl

theorem pairwise_mergeSort_le (values : List ℚ) :
    (values.mergeSort fun a b => decide (a ≤ b)).Pairwise (· ≤ ·) := by
  have sorted := @List.pairwise_mergeSort ℚ (fun a b => decide (a ≤ b))
    (fun a b c => by simpa using le_trans) (fun a b => by simpa using le_total a b) values
  exact sorted.imp of_decide_eq_true

/-- With exact differences, numbers are compared by how far apart they are. -/
theorem compareFloatTokens_finite
    (read : (numberStdlib .finite toLowercase parse).parseFloats userTokens =
      some (user.map .finite))
    (read' : (numberStdlib .finite toLowercase parse).parseFloats expectedTokens =
      some (expected.map .finite)) (unordered : config.isUnordered) :
    (numberStdlib .finite toLowercase parse).compareFloatTokens userTokens expectedTokens config ↔
      List.Forall₂ (Number.Within (.ofBits config.floatEpsilon))
        (user.mergeSort fun a b => decide (a ≤ b)) (expected.mergeSort fun a b => decide (a ≤ b)) := by
  rw [compareFloatTokens_of_read read read', if_pos unordered, if_pos unordered,
    sortFloats_finite, sortFloats_finite, List.forall₂_map_left_iff, List.forall₂_map_right_iff]
  rfl

/-- The comparison without order accepts if and only if some pairing of the numbers of the two
outputs keeps every pair within the tolerance. -/
theorem unordered_floats_iff
    (read : (numberStdlib .finite toLowercase parse).parseFloats userTokens =
      some (user.map .finite))
    (read' : (numberStdlib .finite toLowercase parse).parseFloats expectedTokens =
      some (expected.map .finite)) (unordered : config.isUnordered) :
    (numberStdlib .finite toLowercase parse).compareFloatTokens userTokens expectedTokens config ↔
      ∃ paired : List ℚ, paired.Perm user ∧
        List.Forall₂ (Number.Within (.ofBits config.floatEpsilon)) paired expected := by
  rw [compareFloatTokens_finite read read' unordered]
  constructor
  · intro near
    obtain ⟨paired, perm, near'⟩ := forall₂_perm_right near (List.mergeSort_perm expected _)
    exact ⟨paired, perm.trans (List.mergeSort_perm user _), near'⟩
  · intro ⟨paired, perm, near⟩
    obtain ⟨paired', perm', near'⟩ := forall₂_perm_right near
      (List.mergeSort_perm expected fun a b => decide (a ≤ b)).symm
    have perm'' := perm'.trans (perm.trans (List.mergeSort_perm user fun a b => decide (a ≤ b)).symm)
    have uncross : ∀ a a' b b' : ℚ, a ≤ a' → b ≤ b' → _ := fun a a' b b' =>
      @Number.Within.uncross (.ofBits config.floatEpsilon) a a' b b'
    exact forall₂_of_sorted uncross (pairwise_mergeSort_le user) (pairwise_mergeSort_le expected)
      perm'' near'

/-- Some tokens and what they are read as. -/
def sampleParse : String → Option Number
  | "1" => some (.finite 1)
  | "2" => some (.finite 2)
  | "NaN" => some .nan
  | _ => none

/-- Numbers in another order. -/
theorem unordered_floats_swapped :
    (numberStdlib .finite id sampleParse).compareFloatTokens ["2", "1"] ["1", "2"]
        { defaultValidatorConfig with isFloat := true, isUnordered := true } ↔
      ∃ paired : List ℚ, paired.Perm [2, 1] ∧
        List.Forall₂ (Number.Within (.ofBits 0)) paired [1, 2] :=
  unordered_floats_iff rfl rfl rfl

end Pairing

section Ordering

variable {round : ℚ → Number} {toLowercase : String → String} {parse : String → Option Number}
  {values : List Number}

/-- The comparison with a sort that may give up. -/
def compareFloatTokensBy (std : Stdlib)
    (sort : (std.Float → std.Float → Ordering) → List std.Float → Option (List std.Float))
    (userTokens expectedTokens : List String) (config : RuntimeValidatorConfig) : Option Bool :=
  if userTokens.length ≠ expectedTokens.length then
    some false
  else
    match std.parseFloats userTokens, std.parseFloats expectedTokens with
    | some user, some expected => do
      let user ← if config.isUnordered then sort std.floatOrdering user else some user
      let expected ← if config.isUnordered then sort std.floatOrdering expected else some expected
      return (user.zip expected).all fun (lhs, rhs) =>
        std.le (std.abs (std.sub lhs rhs)) (std.ofBits config.floatEpsilon)
    | _, _ => some false

theorem compareFloatTokensBy_mergeSort (std : Stdlib) (userTokens expectedTokens : List String)
    (config : RuntimeValidatorConfig) :
    std.compareFloatTokensBy (fun cmp values => some (values.mergeSort fun a b => cmp a b != .gt))
      userTokens expectedTokens config =
      some (std.compareFloatTokens userTokens expectedTokens config) := by
  unfold compareFloatTokensBy compareFloatTokens
  split_ifs with length unordered
  · rfl
  · cases std.parseFloats userTokens <;> cases std.parseFloats expectedTokens <;> rfl
  · cases std.parseFloats userTokens <;> cases std.parseFloats expectedTokens <;> rfl

theorem floatOrdering_ne_gt {a b : Number} (number : a ≠ .nan) (number' : b ≠ .nan) :
    (numberStdlib round toLowercase parse).floatOrdering a b ≠ .gt ↔ a.le b := by
  have compares : Number.partialCmp a b ≠ none := by
    rw [Ne, Number.partialCmp_eq_none]
    tauto
  obtain ⟨order, compared⟩ := Option.ne_none_iff_exists'.1 compares
  simp [floatOrdering, Number.le, compared]

theorem eq_of_floatOrdering {a b : Number} (number : a ≠ .nan) (number' : b ≠ .nan)
    (equal : (numberStdlib round toLowercase parse).floatOrdering a b = .eq) : a = b := by
  have compares : Number.partialCmp a b ≠ none := by
    rw [Ne, Number.partialCmp_eq_none]
    tauto
  obtain ⟨order, compared⟩ := Option.ne_none_iff_exists'.1 compares
  have same : order = .eq := by simpa [floatOrdering, compared] using equal
  exact (Number.partialCmp_eq_iff.1 (same ▸ compared)).1

/-- A value that is no number has a place beside every other one. -/
theorem floatOrdering_nan {a b : Number} (special : a = .nan ∨ b = .nan) :
    (numberStdlib round toLowercase parse).floatOrdering a b = .eq := by
  have none := Number.partialCmp_eq_none.2 special
  simp [floatOrdering, none]

theorem lawfulOn_of_numbers (numbers : Number.nan ∉ values) :
    LawfulOn (numberStdlib round toLowercase parse).floatOrdering values := by
  have number : ∀ a ∈ values, a ≠ .nan := fun a mem same => numbers (same ▸ mem)
  constructor
  · intro a _ b _
    have swap := Number.partialCmp_swap a b
    cases compared : Number.partialCmp a b <;> simp [floatOrdering, swap, compared]
  · intro a left b middle c right
    rw [floatOrdering_ne_gt (number a left) (number b middle),
      floatOrdering_ne_gt (number b middle) (number c right),
      floatOrdering_ne_gt (number a left) (number c right)]
    exact Number.le_trans
  · intro a left b middle c right equal equal'
    rwa [eq_of_floatOrdering (number a left) (number b middle) equal]

theorem floatOrdering_eq
    (apart : ∀ a ∈ values, ∀ b ∈ values, a ≠ Number.nan → b ≠ .nan → a = b) :
    ∀ a ∈ values, ∀ b ∈ values,
      (numberStdlib round toLowercase parse).floatOrdering a b = .eq := by
  intro a left b right
  by_cases special : a = .nan ∨ b = .nan
  · exact floatOrdering_nan special
  · push Not at special
    have same := Number.partialCmp_eq_iff.2 ⟨apart a left b right special.1 special.2, special.1⟩
    simp [floatOrdering, same]

/-- The comparator is a total preorder on numbers. With a value that is no number it is one only
where all other values are the same. -/
theorem lawfulOn_floatOrdering_iff :
    LawfulOn (numberStdlib round toLowercase parse).floatOrdering values ↔
      Number.nan ∉ values ∨ ∀ a ∈ values, ∀ b ∈ values, a ≠ .nan → b ≠ .nan → a = b := by
  constructor
  · intro lawful
    by_contra mixed
    push Not at mixed
    obtain ⟨special, a, left, b, right, number, number', differ⟩ := mixed
    have equal := lawful.equal a left _ special b right (floatOrdering_nan (.inr rfl))
      (floatOrdering_nan (.inl rfl))
    exact differ (eq_of_floatOrdering number number' equal)
  · intro apart
    rcases apart with numbers | apart
    · exact lawfulOn_of_numbers numbers
    · exact lawfulOn_of_eq (floatOrdering_eq apart)

/-- What a comparison of printed numbers asks of the order: it is a total preorder, no sort gives
up on the numbers in any order, and the verdict does not depend on the order they are printed in. -/
structure OrdersFloats (std : Stdlib) (tokens : List String) (values : List std.Float) : Prop where
  lawful : LawfulOn std.floatOrdering values
  returns : ∀ sort, SortsBy sort → ∀ printed : List std.Float, printed.Perm values →
    (sort std.floatOrdering printed).isSome
  independent : ∀ sort, SortsBy sort → ∀ printed, printed.Perm tokens →
    ∀ expectedTokens config, config.isUnordered →
      std.compareFloatTokensBy sort printed expectedTokens config =
        std.compareFloatTokensBy sort tokens expectedTokens config

/-- A value that is no number is not near any other one. -/
theorem all_near_false {user expected : List Number} {tolerance : Number}
    (length : user.length = expected.length) (special : Number.nan ∈ user) :
    ((user.zip expected).all fun (lhs, rhs) => ((lhs.sub round rhs).abs).le tolerance) = false := by
  obtain ⟨i, bound, here⟩ := List.getElem_of_mem special
  rw [List.all_eq_false]
  refine ⟨(user[i], expected[i]), ?_, ?_⟩
  · rw [← List.getElem_zip (h := by simp; omega)]
    exact List.getElem_mem _
  · rw [here]
    simp [Number.sub, Number.abs]

section Verdict

variable {std : Stdlib}
  {sort : (std.Float → std.Float → Ordering) → List std.Float → Option (List std.Float)}
  {tokens printed expectedTokens : List String} {config : RuntimeValidatorConfig}

theorem compareFloatTokensBy_of_read {user expected sorted : List std.Float}
    (length : tokens.length = expectedTokens.length) (read : std.parseFloats tokens = some user)
    (read' : std.parseFloats expectedTokens = some expected) (unordered : config.isUnordered)
    (made : sort std.floatOrdering user = some sorted) :
    std.compareFloatTokensBy sort tokens expectedTokens config =
      (sort std.floatOrdering expected).map fun expected =>
        (sorted.zip expected).all fun (lhs, rhs) =>
          std.le (std.abs (std.sub lhs rhs)) (std.ofBits config.floatEpsilon) := by
  unfold compareFloatTokensBy
  rw [if_neg (not_not.2 length), read, read']
  simp only [if_pos unordered, made, Option.bind_eq_bind, Option.bind_some, Option.pure_def,
    Option.map_eq_bind]
  rfl

/-- Where the numbers of the user are not sorted, the verdict does not look at them. -/
theorem compareFloatTokensBy_unread (same : printed.length = tokens.length)
    (other : tokens.length ≠ expectedTokens.length ∨ std.parseFloats expectedTokens = none) :
    std.compareFloatTokensBy sort printed expectedTokens config =
      std.compareFloatTokensBy sort tokens expectedTokens config := by
  unfold compareFloatTokensBy
  rw [same]
  rcases other with length | unread
  · rw [if_pos length, if_pos length]
  · rw [unread]
    cases std.parseFloats printed <;> cases std.parseFloats tokens <;> rfl

end Verdict

theorem independent_of_lawful {tokens printed expectedTokens : List String}
    {config : RuntimeValidatorConfig}
    {sort : (Number → Number → Ordering) → List Number → Option (List Number)}
    (sorts : SortsBy sort)
    (read : (numberStdlib round toLowercase parse).parseFloats tokens = some values)
    (lawful : LawfulOn (numberStdlib round toLowercase parse).floatOrdering values)
    (perm : printed.Perm tokens) (unordered : config.isUnordered) :
    (numberStdlib round toLowercase parse).compareFloatTokensBy sort printed expectedTokens config =
      (numberStdlib round toLowercase parse).compareFloatTokensBy sort tokens expectedTokens
        config := by
  obtain ⟨values', read', perm'⟩ := parseFloats_perm read perm
  by_cases length : tokens.length = expectedTokens.length
  · cases read'' : (numberStdlib round toLowercase parse).parseFloats expectedTokens with
    | none => exact compareFloatTokensBy_unread perm.length_eq (.inr read'')
    | some expected =>
      obtain ⟨sorted, made, -⟩ := sorts.ordered _ values lawful
      obtain ⟨sorted', made', -⟩ := sorts.ordered _ values' (lawful.perm perm')
      rw [compareFloatTokensBy_of_read length read read'' unordered made,
        compareFloatTokensBy_of_read (perm.length_eq.trans length) read' read'' unordered made']
      by_cases special : Number.nan ∈ values
      · cases other : sort (numberStdlib round toLowercase parse).floatOrdering expected with
        | none => rfl
        | some expected' =>
          -- whatever the order is, a value that is no number is compared with something
          have kept := sorts.perm _ _ _ made
          have kept' := (sorts.perm _ _ _ made').trans perm'
          have size : expected'.length = values.length := by
            rw [(sorts.perm _ _ _ other).length_eq, length_parseFloats read'',
              length_parseFloats read, length]
          exact congrArg some ((all_near_false (kept'.length_eq.trans size.symm)
            (kept'.mem_iff.2 special)).trans (all_near_false (kept.length_eq.trans size.symm)
            (kept.mem_iff.2 special)).symm)
      · have number : ∀ a ∈ values, a ≠ .nan := fun a mem same => special (same ▸ mem)
        have same := sorts.eq_of_perm lawful
          (fun a left b right => eq_of_floatOrdering (number a left) (number b right)) perm'
        rw [made, made'] at same
        cases same
        rfl
  · exact compareFloatTokensBy_unread perm.length_eq (.inl length)

/-- The order is fit for the numbers of an output if and only if none of its tokens is read as a
value that is no number, or all others are read as the same number. -/
theorem ordersFloats_iff {tokens : List String}
    (read : (numberStdlib round toLowercase parse).parseFloats tokens = some values) :
    OrdersFloats (numberStdlib round toLowercase parse) tokens values ↔
      Number.nan ∉ values ∨ ∀ a ∈ values, ∀ b ∈ values, a ≠ .nan → b ≠ .nan → a = b := by
  rw [← @lawfulOn_floatOrdering_iff round toLowercase parse values]
  constructor
  · intro orders
    exact orders.lawful
  · intro lawful
    refine ⟨lawful, ?_, ?_⟩
    · intro sort sorts printed perm
      obtain ⟨sorted, made, -⟩ := sorts.ordered _ printed (lawful.perm perm)
      rw [made]
      rfl
    · intro sort sorts printed perm expectedTokens config unordered
      exact independent_of_lawful sorts read lawful perm unordered

theorem ordersFloats_sample :
    OrdersFloats (numberStdlib .finite id sampleParse) ["NaN", "1"] [.nan, .finite 1] ↔
      Number.nan ∉ [Number.nan, .finite 1] ∨
        ∀ a ∈ [Number.nan, .finite 1], ∀ b ∈ [Number.nan, .finite 1], a ≠ .nan → b ≠ .nan → a = b :=
  ordersFloats_iff rfl

/-- Two numbers that differ are equal to what is no number. -/
theorem floats_not_ordered :
    ¬ OrdersFloats (numberStdlib .finite id sampleParse) ["2", "NaN", "1"]
      [.finite 2, .nan, .finite 1] := by
  intro orders
  have mixed := lawfulOn_floatOrdering_iff.1 orders.lawful
  have differ : (Number.finite 2) ≠ .finite 1 := by decide
  rcases mixed with numbers | apart
  · exact numbers (by decide)
  · exact differ (apart _ (by decide) _ (by decide) (by decide) (by decide))

end Ordering

end Stdlib

end NexusCore.Runtime
