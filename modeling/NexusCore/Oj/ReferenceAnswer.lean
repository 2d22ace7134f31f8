import NexusCore.Oj.Application
import NexusCore.Runtime.Comparison
import NexusCore.Runtime.Floats

/-!
# The reference answer

Whether the expected output of a problem is accepted as an answer to it. The judge admits the
configuration, and the runtime compares.
-/

namespace NexusCore.Oj

open NexusCore.Lib NexusCore.Runtime

section Tolerance

/-- The number of 64 bits, from the parts of its value. -/
theorem ofBits_eq (bits : UInt64) {exponent fraction : ℕ}
    (upper : bits.toNat / 2 ^ 52 % 2 ^ 11 = exponent) (lower : bits.toNat % 2 ^ 52 = fraction) :
    Number.ofBits bits =
      if exponent = 2047 then
        if fraction = 0 then .infinite (decide (2 ^ 63 ≤ bits.toNat)) else .nan
      else if exponent = 0 then
        .finite ((if 2 ^ 63 ≤ bits.toNat then -1 else 1) * (fraction / 2 ^ 1074))
      else
        .finite ((if 2 ^ 63 ≤ bits.toNat then -1 else 1) *
          ((2 ^ 52 + fraction) * 2 ^ exponent / 2 ^ 1075)) := by
  have sign : (bits >>> 63 != 0) = decide (2 ^ 63 ≤ bits.toNat) := by
    rw [Bool.eq_iff_iff, bne_iff_ne, decide_eq_true_eq, Ne, ← UInt64.toNat_inj]
    have shifted : (bits >>> 63).toNat = bits.toNat / 2 ^ 63 := by
      simp [Nat.shiftRight_eq_div_pow]
    rw [shifted, UInt64.toNat_zero]
    omega
  have exponent' : ((bits >>> 52) &&& 0x7FF).toNat = exponent := by
    rw [UInt64.toNat_and, ← upper, ← Nat.and_two_pow_sub_one_eq_mod]
    simp [Nat.shiftRight_eq_div_pow]
  have fraction' : (bits &&& 0xFFFFFFFFFFFFF).toNat = fraction := by
    rw [UInt64.toNat_and, ← lower, ← Nat.and_two_pow_sub_one_eq_mod]
    rfl
  simp only [Number.ofBits, sign, exponent', fraction', decide_eq_true_eq]

/-- A tolerance that the judge admits is not below zero, unless it is no number. -/
theorem zero_le_ofBits {bits : UInt64} (admitted : isNegativeFloat bits = false)
    (number : Number.ofBits bits ≠ .nan) : (Number.finite 0).le (.ofBits bits) := by
  have bound := bits.toNat_lt
  have range : bits.toNat ≤ 2 ^ 63 ∨ 0xFFF0000000000000 < bits.toNat := by
    simp only [isNegativeFloat, Bool.and_eq_false_iff, decide_eq_false_iff_not, UInt64.lt_iff_toNat_lt,
      UInt64.le_iff_toNat_le] at admitted
    simpa using admitted
  rw [ofBits_eq bits rfl rfl] at number ⊢
  rcases range with low | high
  · have small : 2 ^ 63 ≤ bits.toNat → bits.toNat = 2 ^ 63 := by omega
    by_cases sign : 2 ^ 63 ≤ bits.toNat
    · -- the zero with a sign
      rw [small sign]
      simp
    · rw [if_neg sign, decide_eq_false sign]
      split_ifs with special fraction zero
      · rfl
      · rw [if_pos special, if_neg fraction] at number
        exact absurd rfl number
      · rw [Number.le_finite, decide_eq_true_eq, one_mul]
        exact div_nonneg (Nat.cast_nonneg _) (pow_nonneg zero_le_two _)
      · rw [Number.le_finite, decide_eq_true_eq, one_mul]
        have fraction := Nat.cast_nonneg (α := ℚ) (bits.toNat % 2 ^ 52)
        exact div_nonneg (mul_nonneg (add_nonneg (pow_nonneg zero_le_two _) fraction)
          (pow_nonneg zero_le_two _)) (pow_nonneg zero_le_two _)
  · have exponent : bits.toNat / 2 ^ 52 % 2 ^ 11 = 2047 := by omega
    have fraction : bits.toNat % 2 ^ 52 ≠ 0 := by omega
    rw [if_pos exponent, if_neg fraction] at number
    exact absurd rfl number

end Tolerance

section Reflexivity

variable {round : ℚ → Number} {toLowercase : String → String} {parse : String → Option Number}
  {config : RuntimeValidatorConfig}

/-- A number is as near to itself as any tolerance asks for. Nothing else is. -/
theorem near_self_iff {tolerance : Number} (exact : round 0 = .finite 0)
    (nonneg : (Number.finite 0).le tolerance) (a : Number) :
    ((a.sub round a).abs).le tolerance ↔ ∃ value, a = .finite value := by
  cases a with
  | finite value => simp [Number.sub, Number.abs, exact, nonneg]
  | infinite negative => simp [Number.sub, Number.abs]
  | nan => simp [Number.sub, Number.abs]

theorem compareFloatTokens_self (exact : round 0 = .finite 0)
    (nonneg : (Number.finite 0).le (.ofBits config.floatEpsilon)) (tokens : List String) :
    (numberStdlib round toLowercase parse).compareFloatTokens tokens tokens config ↔
      ∀ token ∈ tokens, ∃ value, parse token = some (.finite value) := by
  cases read : (numberStdlib round toLowercase parse).parseFloats tokens with
  | some values =>
    have same : tokens.map parse = values.map some := Stdlib.parseFloats_iff_map.1 read
    calc _ ↔ ∀ value ∈ values, ((value.sub round value).abs).le (.ofBits config.floatEpsilon) := by
            rw [Stdlib.compareFloatTokens_of_read read read, List.forall₂_same]
            split_ifs
            · simp only [Stdlib.sortFloats, List.mem_mergeSort]
            · rfl
      _ ↔ ∀ value ∈ values, ∃ number, value = .finite number := by
            simp only [near_self_iff exact nonneg]
      _ ↔ ∀ result ∈ tokens.map parse, ∃ number, result = some (.finite number) := by
            simp [same]
      _ ↔ _ := List.forall_mem_map
  | none =>
    constructor
    · intro accepted
      simp [Stdlib.compareFloatTokens, read] at accepted
    · intro numbers
      have some : (numberStdlib round toLowercase parse).parseFloats tokens =
          some (tokens.map fun token => (parse token).getD .nan) := by
        rw [Stdlib.parseFloats_iff_map, List.map_map, List.map_inj_left]
        intro token mem
        obtain ⟨number, parsed⟩ := numbers token mem
        simp [parsed]
      rw [read] at some
      cases some

/-- Without floats every output is accepted as itself; with floats, if and only if it is made of
finite numbers. -/
theorem compareOutputs_self (exact : round 0 = .finite 0)
    (nonneg : (Number.finite 0).le (.ofBits config.floatEpsilon)) (output : String) :
    (numberStdlib round toLowercase parse).compareOutputs output output config ↔
      (config.isFloat → ∀ token ∈ (numberStdlib round toLowercase parse).foldedTokens config output,
        ∃ value, parse token = some (.finite value)) := by
  cases float : config.isFloat with
  | true =>
    rw [Stdlib.compareOutputs_tokens (.inr (.inl float)), if_pos float,
      compareFloatTokens_self exact nonneg]
    simp
  | false =>
    obtain ⟨key, compares⟩ := (numberStdlib round toLowercase parse).exists_key float
    rw [compares]
    simp

end Reflexivity

section Admitted

variable {round : ℚ → Number} {toLowercase : String → String} {parse : String → Option Number}
  {problem : Problem} {config : JudgeConfig}

/-- The configuration that the runtime compares with. -/
def runtimeValidator (config : JudgeConfig) : RuntimeValidatorConfig :=
  effectiveValidatorConfig (some (mapRuntimeJudgeConfig config))

theorem nonneg_of_admitted (stored : problem.judgeConfig = some config)
    (method : config.judgeMethod = .validator) (valid : validateJudgeConfig problem = .ok ())
    (number : Number.ofBits (runtimeValidator config).floatEpsilon ≠ .nan) :
    (Number.finite 0).le (.ofBits (runtimeValidator config).floatEpsilon) := by
  refine zero_le_ofBits ?_ number
  simp only [validateJudgeConfig, stored, method, validateValidatorConfig] at valid
  cases validator : config.validator with
  | none => simp [runtimeValidator, effectiveValidatorConfig, mapRuntimeJudgeConfig, method,
      validator, defaultValidatorConfig, isNegativeFloat]
  | some values =>
    simp only [validator, bind_eq_ok, ensure_eq_ok] at valid
    obtain ⟨_, -, admitted⟩ := valid
    simpa [runtimeValidator, effectiveValidatorConfig, mapRuntimeJudgeConfig, method,
      validator] using admitted

/-- The expected output of a problem is accepted as an answer to it if and only if the problem does
not compare numbers, or every token of the output is read as a finite number. -/
theorem reference_accepted_iff (exact : round 0 = .finite 0)
    (stored : problem.judgeConfig = some config) (method : config.judgeMethod = .validator)
    (valid : validateJudgeConfig problem = .ok ())
    (number : Number.ofBits (runtimeValidator config).floatEpsilon ≠ .nan) (output : String) :
    (numberStdlib round toLowercase parse).validateOutput output output
        (problem.judgeConfig.map mapRuntimeJudgeConfig) = .accepted ↔
      ((runtimeValidator config).isFloat →
        ∀ token ∈ (numberStdlib round toLowercase parse).foldedTokens (runtimeValidator config)
          output, ∃ value, parse token = some (.finite value)) := by
  rw [stored, Option.map_some, Stdlib.validateOutput,
    ← compareOutputs_self exact (nonneg_of_admitted stored method valid number)]
  unfold runtimeValidator
  split_ifs with accepted
  · simp [accepted]
  · simp [accepted]

/-- A problem whose outputs are compared as numbers. -/
def floatProblem : Problem where
  problemId := ⟨"float"⟩
  title := "Float"
  slug := "float"
  judgeMode := .acm
  sandboxKind := .nsjail
  statementMd := ""
  supportedLanguages := ["cpp"]
  limits := AList.singleton "cpp" { timeLimitMs := 1000, memoryLimitKb := 50 * 1024 }
  testcases :=
    [{ caseNo := 1, input := "", expectedOutput := "one", isSample := true, score := 100 }]
  judgeConfig := some floatConfig
  easyConfig := none
where
  floatConfig : JudgeConfig :=
    { judgeMethod := .validator
      validator := some
        { ignoreWhitespace := true, ignoreCase := false, isUnordered := false,
          isTokenMode := false, isFloat := true, floatEpsilon := 0 }
      spj := none
      functionSignature := none }

theorem reference_accepted_number :
    (numberStdlib .finite id Stdlib.sampleParse).validateOutput "1" "1"
        (floatProblem.judgeConfig.map mapRuntimeJudgeConfig) = .accepted ↔
      ((runtimeValidator floatProblem.floatConfig).isFloat →
        ∀ token ∈ (numberStdlib .finite id Stdlib.sampleParse).foldedTokens
          (runtimeValidator floatProblem.floatConfig) "1",
          ∃ value, Stdlib.sampleParse token = some (.finite value)) :=
  reference_accepted_iff rfl rfl rfl rfl (by decide +kernel) "1"

/-- The judge admits a problem whose expected output is a word, and no answer to it. -/
theorem reference_rejected : validateJudgeConfig floatProblem = .ok () ∧
    (∀ config ∈ floatProblem.judgeConfig, config.judgeMethod = .validator) ∧
    (numberStdlib .finite id Stdlib.sampleParse).validateOutput "one" "one"
      (floatProblem.judgeConfig.map mapRuntimeJudgeConfig) = .wrongAnswer := by
  refine ⟨rfl, ?_, by decide⟩
  intro config stored
  cases stored
  rfl

end Admitted

end NexusCore.Oj
