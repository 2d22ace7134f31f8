import NexusCore.Lib.Json
import NexusCore.Oj.Domain

/-!
# Stored configurations

The configurations of a problem as the JSON values of their columns. Every configuration is read
back as it was written, except that a tolerance that is not finite is lost.
-/

namespace NexusCore.Oj

open NexusCore.Lib

open Codec

def judgeMethodName : JudgeMethod → String
  | .validator => "validator"
  | .spj => "spj"

def parseJudgeMethod : String → Option JudgeMethod
  | "validator" => some .validator
  | "standard" => some .validator
  | "spj" => some .spj
  | _ => none

def easyQuestionTypeName : EasyQuestionType → String
  | .trueFalse => "true_false"
  | .singleChoice => "single_choice"
  | .multipleChoice => "multiple_choice"

def parseEasyQuestionType : String → Option EasyQuestionType
  | "true_false" => some .trueFalse
  | "single_choice" => some .singleChoice
  | "multiple_choice" => some .multipleChoice
  | _ => none

def validatorConfigCodec : Codec ValidatorConfig where
  encode config := .object
    [("ignore_whitespace", bool.encode config.ignoreWhitespace),
      ("ignore_case", bool.encode config.ignoreCase),
      ("is_unordered", bool.encode config.isUnordered),
      ("is_token_mode", bool.encode config.isTokenMode),
      ("is_float", bool.encode config.isFloat),
      ("float_epsilon", float.encode config.floatEpsilon)]
  decode value := do
    let ignoreWhitespace ← bool.field value "ignore_whitespace"
    let ignoreCase ← bool.field value "ignore_case"
    let isUnordered ← bool.field value "is_unordered"
    let isTokenMode ← bool.field value "is_token_mode"
    let isFloat ← bool.field value "is_float"
    let floatEpsilon ← float.field value "float_epsilon"
    return { ignoreWhitespace, ignoreCase, isUnordered, isTokenMode, isFloat, floatEpsilon }

def spjConfigCodec : Codec SpjConfig where
  encode config := .object
    [("language", string.encode config.language), ("source_code", string.encode config.sourceCode)]
  decode value := do
    let language ← string.field value "language"
    let sourceCode ← string.field value "source_code"
    return { language, sourceCode }

def functionParameterCodec : Codec FunctionParameter where
  encode param := .object [("name", string.encode param.name), ("ty", string.encode param.ty)]
  decode value := do
    let name ← string.field value "name"
    let ty ← string.field value "ty"
    return { name, ty }

def functionSignatureCodec : Codec FunctionSignature where
  encode signature := .object
    [("function_name", string.encode signature.functionName),
      ("return_type", string.encode signature.returnType),
      ("params", functionParameterCodec.list.encode signature.params)]
  decode value := do
    let functionName ← string.field value "function_name"
    let returnType ← string.field value "return_type"
    let params ← functionParameterCodec.list.field value "params"
    return { functionName, returnType, params }

def judgeConfigCodec : Codec JudgeConfig where
  encode config := .object
    [("judge_method", (enum judgeMethodName parseJudgeMethod).encode config.judgeMethod),
      ("validator", validatorConfigCodec.option.encode config.validator),
      ("spj", spjConfigCodec.option.encode config.spj),
      ("function_signature", functionSignatureCodec.option.encode config.functionSignature)]
  decode value := do
    let judgeMethod ← (enum judgeMethodName parseJudgeMethod).field value "judge_method"
    let validator ← validatorConfigCodec.option.field value "validator"
    let spj ← spjConfigCodec.option.field value "spj"
    let functionSignature ← functionSignatureCodec.option.field value "function_signature"
    return { judgeMethod, validator, spj, functionSignature }

def easyOptionCodec : Codec EasyOption where
  encode item := .object [("key", string.encode item.key), ("label", string.encode item.label)]
  decode value := do
    let key ← string.field value "key"
    let label ← string.field value "label"
    return { key, label }

/-- The variants are told apart by their values. -/
def easyAnswerCodec : Codec EasyAnswer where
  encode
    | .text value => string.encode value
    | .options values => string.list.encode values
  decode value :=
    match string.decode value with
    | .ok text => .ok (.text text)
    | .error _ => string.list.decode value >>= fun values => .ok (.options values)

def easyProblemConfigCodec : Codec EasyProblemConfig where
  encode config := .object
    [("question_type", (enum easyQuestionTypeName parseEasyQuestionType).encode config.questionType),
      ("options", easyOptionCodec.list.encode config.options),
      ("standard_answer", easyAnswerCodec.encode config.standardAnswer)]
  decode value := do
    let questionType ←
      (enum easyQuestionTypeName parseEasyQuestionType).field value "question_type"
    let options ← easyOptionCodec.list.field value "options"
    let standardAnswer ← easyAnswerCodec.field value "standard_answer"
    return { questionType, options, standardAnswer }

theorem validatorConfig_roundTrips_iff (config : ValidatorConfig) :
    validatorConfigCodec.RoundTrips config ↔ isFiniteFloat config.floatEpsilon := by
  rw [← roundTrips_float_iff]
  have reads : validatorConfigCodec.decode (validatorConfigCodec.encode config) =
      (float.decode (float.encode config.floatEpsilon)).map fun bits =>
        { config with floatEpsilon := bits } := rfl
  unfold RoundTrips
  rw [reads]
  cases float.decode (float.encode config.floatEpsilon) with
  | error message => simp [Except.map]
  | ok bits =>
    simp only [Except.map, Except.ok.injEq]
    constructor
    · intro same
      rw [← same]
    · intro same
      rw [same]

theorem spjConfig_roundTrips (config : SpjConfig) : spjConfigCodec.RoundTrips config := rfl

theorem functionSignature_roundTrips (signature : FunctionSignature) :
    functionSignatureCodec.RoundTrips signature := by
  have params : functionParameterCodec.list.field (functionSignatureCodec.encode signature)
      "params" = .ok signature.params :=
    field_of_lookup rfl (roundTrips_list fun _ _ => rfl)
  have reads : functionSignatureCodec.decode (functionSignatureCodec.encode signature) =
      (functionParameterCodec.list.field (functionSignatureCodec.encode signature) "params").map
        fun params => { signature with params := params } := rfl
  rw [RoundTrips, reads, params]
  rfl

/-- Only the validator can be lost. -/
theorem judgeConfig_reads (config : JudgeConfig) :
    judgeConfigCodec.decode (judgeConfigCodec.encode config) =
      (validatorConfigCodec.option.decode (validatorConfigCodec.option.encode
        config.validator)).map fun validator => { config with validator := validator } := by
  have method : (enum judgeMethodName parseJudgeMethod).field (judgeConfigCodec.encode config)
      "judge_method" = .ok config.judgeMethod := by
    refine field_of_lookup rfl (roundTrips_enum ?_)
    cases config.judgeMethod <;> rfl
  have spj : spjConfigCodec.option.field (judgeConfigCodec.encode config) "spj" =
      .ok config.spj := by
    refine field_of_lookup rfl ((roundTrips_option_iff fun _ _ => by simp [spjConfigCodec]).2 ?_)
    exact fun spj _ => spjConfig_roundTrips spj
  have signature : functionSignatureCodec.option.field (judgeConfigCodec.encode config)
      "function_signature" = .ok config.functionSignature := by
    refine field_of_lookup rfl
      ((roundTrips_option_iff fun _ _ => by simp [functionSignatureCodec]).2 ?_)
    exact fun signature _ => functionSignature_roundTrips signature
  change ((enum judgeMethodName parseJudgeMethod).field (judgeConfigCodec.encode config)
    "judge_method" >>= fun judgeMethod => validatorConfigCodec.option.field
      (judgeConfigCodec.encode config) "validator" >>= fun validator => _ >>= fun spj => _ >>=
        fun functionSignature => .ok
          (JudgeConfig.mk judgeMethod validator spj functionSignature)) = _
  rw [method]
  change (validatorConfigCodec.option.decode (validatorConfigCodec.option.encode
    config.validator) >>= fun validator => _ >>= fun spj => _ >>= fun functionSignature =>
      .ok (JudgeConfig.mk config.judgeMethod validator spj functionSignature)) = _
  cases validatorConfigCodec.option.decode (validatorConfigCodec.option.encode
    config.validator) with
  | error message => rfl
  | ok validator =>
    change (spjConfigCodec.option.field (judgeConfigCodec.encode config) "spj" >>= fun spj =>
      functionSignatureCodec.option.field (judgeConfigCodec.encode config)
        "function_signature" >>= fun functionSignature =>
          .ok (JudgeConfig.mk config.judgeMethod validator spj functionSignature)) = _
    rw [spj, signature]
    rfl

/-- A judge configuration is read back exactly when its tolerance is a finite float. -/
theorem judgeConfig_roundTrips_iff (config : JudgeConfig) : judgeConfigCodec.RoundTrips config ↔
    ∀ validator ∈ config.validator, isFiniteFloat validator.floatEpsilon := by
  have validator : validatorConfigCodec.option.RoundTrips config.validator ↔
      ∀ validator ∈ config.validator, isFiniteFloat validator.floatEpsilon := by
    rw [roundTrips_option_iff fun _ _ => by simp [validatorConfigCodec]]
    simp only [validatorConfig_roundTrips_iff]
  rw [← validator, RoundTrips, RoundTrips, judgeConfig_reads]
  cases validatorConfigCodec.option.decode (validatorConfigCodec.option.encode
    config.validator) with
  | error message => simp [Except.map]
  | ok validator =>
    simp only [Except.map, Except.ok.injEq]
    constructor
    · intro same
      rw [← same]
    · intro same
      rw [same]

/-- A judge configuration that is read is the one that was written. -/
theorem judgeConfig_of_read {config read : JudgeConfig}
    (reads : judgeConfigCodec.decode (judgeConfigCodec.encode config) = .ok read) :
    read = config := by
  by_cases finite : ∀ validator ∈ config.validator, isFiniteFloat validator.floatEpsilon
  · have back : judgeConfigCodec.decode (judgeConfigCodec.encode config) = .ok config :=
      (judgeConfig_roundTrips_iff config).2 finite
    rw [reads] at back
    exact Except.ok.inj back
  · rw [judgeConfig_reads] at reads
    cases present : config.validator with
    | none => simp [present] at finite
    | some validator =>
      have infinite : isFiniteFloat validator.floatEpsilon = false := by simpa [present] using finite
      rw [present] at reads
      change (((float.decode (float.encode validator.floatEpsilon)).map _ >>= _).map _ :
        Except String JudgeConfig) = _ at reads
      simp [float, infinite, mismatch, Except.map, bind, Except.bind] at reads

theorem easyAnswer_roundTrips (answer : EasyAnswer) : easyAnswerCodec.RoundTrips answer := by
  cases answer with
  | text value => rfl
  | options values =>
    have reads : string.list.decode (string.list.encode values) = .ok values :=
      roundTrips_list fun value _ => roundTrips_string value
    change (string.list.decode (string.list.encode values) >>= fun values =>
      .ok (EasyAnswer.options values)) = _
    rw [reads]
    rfl

theorem easyProblemConfig_roundTrips (config : EasyProblemConfig) :
    easyProblemConfigCodec.RoundTrips config := by
  have kind : (enum easyQuestionTypeName parseEasyQuestionType).field
      (easyProblemConfigCodec.encode config) "question_type" = .ok config.questionType := by
    refine field_of_lookup rfl (roundTrips_enum ?_)
    cases config.questionType <;> rfl
  have options : easyOptionCodec.list.field (easyProblemConfigCodec.encode config) "options" =
      .ok config.options :=
    field_of_lookup rfl (roundTrips_list fun _ _ => rfl)
  have answer : easyAnswerCodec.field (easyProblemConfigCodec.encode config) "standard_answer" =
      .ok config.standardAnswer :=
    field_of_lookup rfl (easyAnswer_roundTrips config.standardAnswer)
  change ((enum easyQuestionTypeName parseEasyQuestionType).field
    (easyProblemConfigCodec.encode config) "question_type" >>= fun questionType =>
      easyOptionCodec.list.field (easyProblemConfigCodec.encode config) "options" >>=
        fun options => easyAnswerCodec.field (easyProblemConfigCodec.encode config)
          "standard_answer" >>= fun standardAnswer =>
            .ok (EasyProblemConfig.mk questionType options standardAnswer)) = _
  rw [kind, options, answer]
  rfl

end NexusCore.Oj
