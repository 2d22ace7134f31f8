import NexusCore.Lib.Layout
import NexusCore.Lib.Comparators
import NexusCore.Runtime.Judge

/-!
# What the comparison of outputs decides

Outputs are compared as texts or as sequences of tokens or as multisets of tokens.
-/

namespace NexusCore.Runtime

open NexusCore.Lib

/-- Some flag makes the comparison one of tokens. -/
def RuntimeValidatorConfig.ByTokens (config : RuntimeValidatorConfig) : Prop :=
  config.ignoreWhitespace ∨ config.isFloat ∨ config.isUnordered ∨ config.isTokenMode

namespace Stdlib

theorem sortTokens_eq_iff {xs ys : List String} : sortTokens xs = sortTokens ys ↔ xs.Perm ys := by
  constructor
  · intro same
    have left : (sortTokens xs).Perm xs := List.mergeSort_perm _ _
    have right : (sortTokens ys).Perm ys := List.mergeSort_perm _ _
    exact left.symm.trans (same ▸ right)
  · intro perm
    have ordered : ∀ tokens, (sortTokens tokens).Pairwise fun a b => decide (a ≤ b) := by
      intro tokens
      refine List.pairwise_mergeSort (fun a b c up up' => ?_) (fun a b => ?_) tokens
      · rw [decide_eq_true_eq] at *
        exact String.le_trans up up'
      · simpa using String.le_total a b
    refine List.Perm.eq_of_pairwise (fun a b _ _ up down => ?_) (ordered xs) (ordered ys) ?_
    · exact String.le_antisymm (of_decide_eq_true up) (of_decide_eq_true down)
    · exact (List.mergeSort_perm xs _).trans (perm.trans (List.mergeSort_perm ys _).symm)

variable (std : Stdlib) (config : RuntimeValidatorConfig)

/-- A text as the comparison takes it. -/
def folded (text : String) : String := if config.ignoreCase then std.toLowercase text else text

/-- The tokens of an output as the comparison takes them. -/
def foldedTokens (output : String) : List String :=
  (Text.splitWhitespace output).map (std.folded config)

variable {std config} {user expected : String}

theorem foldedTokens_of_laid {tokens : List String} {output : String}
    (laid : Text.Laid tokens output.toList) :
    std.foldedTokens config output = tokens.map (std.folded config) := by
  rw [foldedTokens, Text.laid_iff.1 laid]

theorem compareOutputs_strict (strict : ¬ config.ByTokens) :
    std.compareOutputs user expected config ↔
      std.folded config user = std.folded config expected := by
  unfold RuntimeValidatorConfig.ByTokens at strict
  push Not at strict
  obtain ⟨whitespace, float, unordered, tokenMode⟩ := strict
  simp only [Bool.not_eq_true] at whitespace float unordered tokenMode
  unfold compareOutputs folded
  rw [if_pos (by simp [whitespace, float, unordered, tokenMode])]
  split_ifs
  · exact beq_iff_eq
  · exact beq_iff_eq

theorem compareOutputs_tokens (byTokens : config.ByTokens) :
    std.compareOutputs user expected config =
      if config.isFloat then
        std.compareFloatTokens (std.foldedTokens config user) (std.foldedTokens config expected)
          config
      else if config.isUnordered then
        sortTokens (std.foldedTokens config user) == sortTokens (std.foldedTokens config expected)
      else
        std.foldedTokens config user == std.foldedTokens config expected := by
  have fold : ∀ output, std.foldedTokens config output =
      if config.ignoreCase then (Text.splitWhitespace output).map std.toLowercase
      else Text.splitWhitespace output := by
    intro output
    unfold foldedTokens folded
    split_ifs
    · rfl
    · exact List.map_id' _
  unfold compareOutputs
  rw [if_neg (by unfold RuntimeValidatorConfig.ByTokens at byTokens; grind)]
  simp only [fold]

theorem compareOutputs_multisets (exact : config.isFloat = false)
    (unordered : config.isUnordered) :
    std.compareOutputs user expected config ↔
      (std.foldedTokens config user).Perm (std.foldedTokens config expected) := by
  rw [compareOutputs_tokens (.inr (.inr (.inl unordered))), exact, if_pos unordered,
    if_neg Bool.false_ne_true, beq_iff_eq, sortTokens_eq_iff]

theorem compareOutputs_sequences (exact : config.isFloat = false)
    (ordered : config.isUnordered = false) (byTokens : config.ByTokens) :
    std.compareOutputs user expected config ↔
      std.foldedTokens config user = std.foldedTokens config expected := by
  rw [compareOutputs_tokens byTokens, exact, ordered, if_neg Bool.false_ne_true,
    if_neg Bool.false_ne_true, beq_iff_eq]

/-- What a comparison without floats is. -/
structure ComparesTexts (std : Stdlib) (config : RuntimeValidatorConfig) : Prop where
  strict : ¬ config.ByTokens → ∀ user expected,
    std.compareOutputs user expected config ↔ std.folded config user = std.folded config expected
  sequences : config.ByTokens → config.isUnordered = false → ∀ user expected tokens tokens',
    Text.Laid tokens user.toList → Text.Laid tokens' expected.toList →
    (std.compareOutputs user expected config ↔
      tokens.map (std.folded config) = tokens'.map (std.folded config))
  multisets : config.isUnordered → ∀ user expected tokens tokens',
    Text.Laid tokens user.toList → Text.Laid tokens' expected.toList →
    (std.compareOutputs user expected config ↔
      (tokens.map (std.folded config)).Perm (tokens'.map (std.folded config)))
  equivalence : Equivalence fun user expected => std.compareOutputs user expected config
  /-- The white space between the tokens does not matter. -/
  layout : config.ByTokens → ∀ tokens output output', Text.Laid tokens output.toList →
    Text.Laid tokens output'.toList → ∀ other,
    std.compareOutputs output other config = std.compareOutputs output' other config ∧
      std.compareOutputs other output config = std.compareOutputs other output' config
  /-- Neither does the order of the tokens, on either side. -/
  permuted : config.isUnordered → ∀ tokens tokens' output output', tokens.Perm tokens' →
    Text.Laid tokens output.toList → Text.Laid tokens' output'.toList → ∀ other,
    std.compareOutputs output other config = std.compareOutputs output' other config ∧
      std.compareOutputs other output config = std.compareOutputs other output' config
  /-- Their numbers do. -/
  multiplicities : config.isUnordered → ∀ user expected token,
    (std.foldedTokens config user).count token ≠ (std.foldedTokens config expected).count token →
    std.compareOutputs user expected config = false

/-- Without floats, two outputs are compared by what each of them is reduced to. -/
theorem exists_key (exact : config.isFloat = false) : ∃ key : String → List String,
    ∀ user expected, std.compareOutputs user expected config ↔ key user = key expected := by
  by_cases byTokens : config.ByTokens
  · cases unordered : config.isUnordered with
    | true =>
      refine ⟨fun output => sortTokens (std.foldedTokens config output), fun user expected => ?_⟩
      rw [compareOutputs_multisets exact unordered, sortTokens_eq_iff]
    | false => exact ⟨std.foldedTokens config, fun _ _ =>
        compareOutputs_sequences exact unordered byTokens⟩
  · refine ⟨fun output => [std.folded config output], fun user expected => ?_⟩
    rw [compareOutputs_strict byTokens, List.singleton_inj]

theorem equivalence_of_key {r : String → String → Prop} {key : String → List String}
    (same : ∀ user expected, r user expected ↔ key user = key expected) : Equivalence r where
  refl := fun _ => (same _ _).2 rfl
  symm := fun related => (same _ _).2 ((same _ _).1 related).symm
  trans := fun related related' =>
    (same _ _).2 (((same _ _).1 related).trans ((same _ _).1 related'))

/-- Related outputs compare alike with every other one. -/
theorem compareOutputs_congr (exact : config.isFloat = false) {output output' : String}
    (same : std.compareOutputs output output' config) (other : String) :
    std.compareOutputs output other config = std.compareOutputs output' other config ∧
      std.compareOutputs other output config = std.compareOutputs other output' config := by
  obtain ⟨key, compares⟩ := @exists_key std config exact
  have keys := (compares output output').1 same
  constructor
  · rw [Bool.eq_iff_iff, compares, compares, keys]
  · rw [Bool.eq_iff_iff, compares, compares, keys]

theorem comparesTexts (exact : config.isFloat = false) : std.ComparesTexts config where
  strict := fun strict _ _ => compareOutputs_strict strict
  sequences := by
    intro byTokens ordered user expected tokens tokens' laid laid'
    rw [compareOutputs_sequences exact ordered byTokens, foldedTokens_of_laid laid,
      foldedTokens_of_laid laid']
  multisets := by
    intro unordered user expected tokens tokens' laid laid'
    rw [compareOutputs_multisets exact unordered, foldedTokens_of_laid laid,
      foldedTokens_of_laid laid']
  equivalence := by
    obtain ⟨key, compares⟩ := @exists_key std config exact
    exact equivalence_of_key compares
  layout := by
    intro byTokens tokens output output' laid laid' other
    refine compareOutputs_congr exact ?_ other
    have same : std.foldedTokens config output = std.foldedTokens config output' := by
      rw [foldedTokens_of_laid laid, foldedTokens_of_laid laid']
    cases unordered : config.isUnordered with
    | true => exact (compareOutputs_multisets exact unordered).2 (by rw [same])
    | false => exact (compareOutputs_sequences exact unordered byTokens).2 same
  permuted := by
    intro unordered tokens tokens' output output' perm laid laid' other
    refine compareOutputs_congr exact ?_ other
    rw [compareOutputs_multisets exact unordered, foldedTokens_of_laid laid,
      foldedTokens_of_laid laid']
    exact perm.map _
  multiplicities := by
    intro unordered user expected token differ
    by_contra accepted
    rw [Bool.not_eq_false, compareOutputs_multisets exact unordered] at accepted
    exact differ (accepted.count_eq token)

/-- The comparison by tokens and without their order, at a text with upper-case letters. -/
theorem comparesTexts_unordered : sampleStdlib.ComparesTexts
    { defaultValidatorConfig with isUnordered := true, ignoreCase := true } :=
  comparesTexts rfl

end Stdlib

end NexusCore.Runtime
