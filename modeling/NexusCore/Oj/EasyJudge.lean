import Mathlib.Data.Set.Basic
import Mathlib.Data.String.Basic
import NexusCore.Lib.Sorting
import NexusCore.Lib.Text
import NexusCore.Oj.Domain
import NexusCore.Shared.Error

/-!
# Judging the answers to questions

An answer is a text or a list of options. The keys of a multiple choice question are the characters
of a text, or the options; the answer is accepted when the sets of keys are the same. The upper
case of a character is one or more characters; it is a parameter here.
-/

namespace NexusCore.Oj

open NexusCore.Lib

structure EasyJudgeEvaluation where
  status : SubmissionStatus
  score : UInt32
  maxScore : UInt32
  message : Option String
  deriving DecidableEq, Repr

variable (upper : Char → List Char)

/-- Every character in upper case. -/
def toUppercase (text : String) : String := .ofList (text.toList.flatMap upper)

def normalizeEasyAnswer : EasyAnswer → String
  | .text text => toUppercase upper (Text.trim text)
  | .options values => toUppercase upper (Text.trim (String.join values))

/-- Strings in the order of their characters. -/
def sortStrings (values : List String) : List String := sortBy id values

/-- Of equal neighbours one is left. -/
def dedup (values : List String) : List String := values.destutter (· ≠ ·)

def answerItems : EasyAnswer → List String
  | .text text => (text.toList.filter (!Text.isWhitespace ·)).map String.singleton
  | .options items => items

def normalizeMultiAnswer (answer : EasyAnswer) : AppResult (List String) :=
  let values := (answerItems answer).map fun item => toUppercase upper (Text.trim item)
  let values := dedup (sortStrings (values.filter (!·.isEmpty)))
  if values.isEmpty then
    .error (.badRequest "multiple_choice answer cannot be empty")
  else
    .ok values

def judgeEasyAnswer (config : EasyProblemConfig) (answer : EasyAnswer) :
    AppResult EasyJudgeEvaluation := do
  let maxScore : UInt32 := 100
  let accepted ← (match config.questionType with
    | .trueFalse | .singleChoice =>
      .ok (normalizeEasyAnswer upper answer == normalizeEasyAnswer upper config.standardAnswer)
    | .multipleChoice => do
      let given ← normalizeMultiAnswer upper answer
      let standard ← normalizeMultiAnswer upper config.standardAnswer
      return given == standard : AppResult Bool)
  return if accepted then
    { status := .accepted, score := maxScore, maxScore, message := some "accepted" }
  else
    { status := .wrongAnswer, score := 0, maxScore, message := some "wrong_answer" }

section Keys

/-- The keys as they are written: each character of a text, or each option. -/
def rawKeys : EasyAnswer → List String
  | .text text => text.toList.map String.singleton
  | .options items => items

/-- A key without the white space around it, in upper case. -/
def normalKey (key : String) : String := toUppercase upper (Text.trim key)

/-- The keys that are not empty. -/
def keySet (answer : EasyAnswer) : Set String :=
  {key | key ≠ "" ∧ ∃ raw ∈ rawKeys answer, normalKey upper raw = key}

/-- Answers with the same keys: the order and the repetition of keys, their case, the white space
around them, and the writing of keys of one character may differ. -/
inductive Alike : EasyAnswer → EasyAnswer → Prop where
  | text {text text' : String} (same : ∀ c, c ∈ text.toList ↔ c ∈ text'.toList) :
      Alike (.text text) (.text text')
  | options {items items' : List String} (same : ∀ item, item ∈ items ↔ item ∈ items') :
      Alike (.options items) (.options items')
  | textCase {c c' : Char} (left right : String)
      (key : normalKey upper (String.singleton c) = normalKey upper (String.singleton c')) :
      Alike (.text (left ++ String.singleton c ++ right))
        (.text (left ++ String.singleton c' ++ right))
  | optionsCase {item item' : String} (before after : List String)
      (key : normalKey upper item = normalKey upper item') :
      Alike (.options (before ++ item :: after)) (.options (before ++ item' :: after))
  | textSpace {space : String} (left right : String)
      (blank : ∀ c ∈ space.toList, Text.isWhitespace c) :
      Alike (.text (left ++ right)) (.text (left ++ space ++ right))
  | optionsSpace {front back : String} (before after : List String) (item : String)
      (blank : ∀ c ∈ front.toList, Text.isWhitespace c)
      (blank' : ∀ c ∈ back.toList, Text.isWhitespace c) :
      Alike (.options (before ++ item :: after))
        (.options (before ++ (front ++ item ++ back) :: after))
  | writing (text : String) : Alike (.text text) (.options (text.toList.map String.singleton))
  | symm {answer answer' : EasyAnswer} (alike : Alike answer answer') : Alike answer' answer
  | trans {answer answer' answer'' : EasyAnswer} (first : Alike answer answer')
      (second : Alike answer' answer'') : Alike answer answer''

variable {upper} {answer answer' standard standard' : EasyAnswer} {key : String}

theorem normalKey_blank {raw : String} (blank : ∀ c ∈ raw.toList, Text.isWhitespace c) :
    normalKey upper raw = "" := by
  rw [normalKey, Text.trim_blank blank]
  rfl

/-- The characters of white space give no key. -/
theorem mem_keySet : key ∈ keySet upper answer ↔
    key ≠ "" ∧ ∃ item ∈ answerItems answer, normalKey upper item = key := by
  refine and_congr_right fun nonempty => ?_
  cases answer with
  | options items => rfl
  | text text =>
    simp only [rawKeys, answerItems, List.mem_map, exists_exists_and_eq_and, List.mem_filter]
    constructor
    · intro ⟨c, mem, same⟩
      refine ⟨c, ⟨mem, ?_⟩, same⟩
      by_contra space
      have blank : Text.isWhitespace c = true := by simpa using space
      have none : normalKey upper (String.singleton c) = "" := normalKey_blank (by simp [blank])
      exact nonempty (same.symm.trans none)
    · intro ⟨c, ⟨mem, _⟩, same⟩
      exact ⟨c, mem, same⟩

/-- The keys of an answer, in order and each once. -/
def normalValues (upper : Char → List Char) (answer : EasyAnswer) : List String :=
  sortDistinct (((answerItems answer).map (normalKey upper)).filter (!·.isEmpty))

theorem mem_normalValues : key ∈ normalValues upper answer ↔ key ∈ keySet upper answer := by
  rw [normalValues, mem_sortDistinct, List.mem_filter, List.mem_map, mem_keySet, and_comm]
  simp

theorem normalValues_eq_iff :
    normalValues upper answer = normalValues upper answer' ↔
      keySet upper answer = keySet upper answer' := by
  rw [Set.ext_iff]
  simp only [← mem_normalValues]
  constructor
  · intro same key
    rw [same]
  · intro same
    exact (pairwise_sortDistinct _).eq_of_mem_iff (pairwise_sortDistinct _) fun key => same key

theorem normalValues_eq_nil : normalValues upper answer = [] ↔ keySet upper answer = ∅ := by
  rw [List.eq_nil_iff_forall_not_mem, Set.eq_empty_iff_forall_notMem]
  simp only [mem_normalValues]

theorem normalizeMultiAnswer_eq (answer : EasyAnswer) :
    normalizeMultiAnswer upper answer =
      if (normalValues upper answer).isEmpty then
        .error (.badRequest "multiple_choice answer cannot be empty")
      else
        .ok (normalValues upper answer) := rfl

theorem normalizeMultiAnswer_eq_ok {values : List String} :
    normalizeMultiAnswer upper answer = .ok values ↔
      (keySet upper answer).Nonempty ∧ normalValues upper answer = values := by
  rw [normalizeMultiAnswer_eq, Set.nonempty_iff_ne_empty, Ne, ← normalValues_eq_nil]
  cases normalValues upper answer <;> simp

/-- Equal sets of keys are judged alike, and fail alike. -/
theorem normalizeMultiAnswer_congr (same : keySet upper answer = keySet upper answer') :
    normalizeMultiAnswer upper answer = normalizeMultiAnswer upper answer' := by
  rw [normalizeMultiAnswer_eq, normalizeMultiAnswer_eq, normalValues_eq_iff.2 same]

/-- Answers with the same keys in upper case have the same set of keys. -/
theorem keySet_congr
    (same : ∀ key, key ≠ "" → (key ∈ (rawKeys answer).map (normalKey upper) ↔
      key ∈ (rawKeys answer').map (normalKey upper))) :
    keySet upper answer = keySet upper answer' := by
  ext key
  refine and_congr_right fun nonempty => ?_
  have both := same key nonempty
  rw [List.mem_map, List.mem_map] at both
  exact both

theorem keySet_of_alike (alike : Alike upper answer answer') :
    keySet upper answer = keySet upper answer' := by
  induction alike with
  | text same =>
    refine keySet_congr fun key _ => ?_
    simp only [rawKeys, List.mem_map, same]
  | options same =>
    refine keySet_congr fun key _ => ?_
    simp only [rawKeys, List.mem_map, same]
  | textCase left right same =>
    refine keySet_congr fun key _ => ?_
    simp [rawKeys, same]
  | optionsCase before after same =>
    refine keySet_congr fun key _ => ?_
    simp [rawKeys, same]
  | textSpace left right blank =>
    rename_i space
    refine keySet_congr fun key nonempty => ?_
    have gone : key ∉ (space.toList.map String.singleton).map (normalKey upper) := by
      intro mem
      rw [List.map_map] at mem
      obtain ⟨c, own, same⟩ := List.mem_map.1 mem
      exact nonempty (same.symm.trans (normalKey_blank (by simpa using blank c own)))
    simp only [rawKeys, String.toList_append, List.map_append, List.mem_append, gone, or_false]
  | optionsSpace before after item blank blank' =>
    refine keySet_congr fun key _ => ?_
    simp only [rawKeys, normalKey, List.map_append, List.map_cons, Text.trim_padded blank blank']
  | writing text => rfl
  | symm _ ih => exact ih.symm
  | trans _ _ ih ih' => exact ih.trans ih'

end Keys

section Judged

variable {upper} {config : EasyProblemConfig} {answer : EasyAnswer}
  {evaluation : EasyJudgeEvaluation}

/-- The answer is judged to be right. -/
def Accepts (upper : Char → List Char) (config : EasyProblemConfig) (answer : EasyAnswer) : Prop :=
  ∃ evaluation, judgeEasyAnswer upper config answer = .ok evaluation ∧
    evaluation.status = .accepted

/-- The points of an answer are all or none. -/
theorem score_of_judged (judged : judgeEasyAnswer upper config answer = .ok evaluation) :
    evaluation.maxScore = 100 ∧
      evaluation.score = if evaluation.status = .accepted then 100 else 0 := by
  obtain ⟨accepted, _, out⟩ := bind_eq_ok.1 judged
  cases accepted <;> cases out <;> exact ⟨rfl, rfl⟩

theorem accepts_iff_normalized (options : List EasyOption) (standard : EasyAnswer) :
    Accepts upper ⟨.multipleChoice, options, standard⟩ answer ↔
      ∃ values, normalizeMultiAnswer upper answer = .ok values ∧
        normalizeMultiAnswer upper standard = .ok values := by
  unfold Accepts judgeEasyAnswer
  cases normalizeMultiAnswer upper answer with
  | error e => simp [error_bind]
  | ok given =>
    cases normalizeMultiAnswer upper standard with
    | error e => simp [ok_bind]
    | ok standard =>
      by_cases same : given = standard
      · simp [ok_bind, same, pure, Except.pure]
      · simp [ok_bind, same, Ne.symm same, pure, Except.pure]

/-- A multiple choice answer is accepted exactly when the sets of keys are equal and not empty, and
the answers that are alike are judged alike. -/
theorem multiple_choice_exact (upper : Char → List Char) (options : List EasyOption)
    (standard answer : EasyAnswer) :
    (Accepts upper ⟨.multipleChoice, options, standard⟩ answer ↔
      (keySet upper answer).Nonempty ∧ (keySet upper standard).Nonempty ∧
        keySet upper answer = keySet upper standard) ∧
    ∀ standard' answer', Alike upper standard standard' → Alike upper answer answer' →
      judgeEasyAnswer upper ⟨.multipleChoice, options, standard'⟩ answer' =
        judgeEasyAnswer upper ⟨.multipleChoice, options, standard⟩ answer := by
  constructor
  · rw [accepts_iff_normalized]
    simp only [normalizeMultiAnswer_eq_ok]
    constructor
    · intro ⟨values, ⟨given, same⟩, asked, same'⟩
      exact ⟨given, asked, normalValues_eq_iff.1 (same.trans same'.symm)⟩
    · intro ⟨given, asked, same⟩
      exact ⟨_, ⟨given, rfl⟩, asked, (normalValues_eq_iff.2 same).symm⟩
  · intro standard' answer' asked given
    simp only [judgeEasyAnswer, normalizeMultiAnswer_congr (keySet_of_alike asked),
      normalizeMultiAnswer_congr (keySet_of_alike given)]

example : (judgeEasyAnswer (fun c => [c.toUpper])
    ⟨.multipleChoice, [], .options ["A", " b "]⟩ (.text "ba B")).toOption.map (·.score) =
      some 100 := by decide +kernel

end Judged

end NexusCore.Oj
