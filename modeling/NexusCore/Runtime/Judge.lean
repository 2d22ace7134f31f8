import NexusCore.Lib.Text
import NexusCore.Runtime.Protocol

/-!
# Comparing outputs

The validator of the runtime. What the standard library supplies and no proof depends
on (the lower-case mapping and 64-bit floats) is a parameter, `Stdlib`.
-/

namespace NexusCore.Runtime

open NexusCore.Lib

/-- Lower-casing and 64-bit floats. -/
structure Stdlib where
  toLowercase : String → String
  Float : Type
  ofBits : UInt64 → Float
  parse : String → Option Float
  sub : Float → Float → Float
  abs : Float → Float
  le : Float → Float → Bool
  partialCmp : Float → Float → Option Ordering

inductive CaseJudgeStatus where
  | accepted
  | wrongAnswer
  deriving DecidableEq, Repr

/-- The bits of the float zero are zero. -/
def defaultValidatorConfig : RuntimeValidatorConfig where
  ignoreWhitespace := true
  ignoreCase := false
  isUnordered := false
  isTokenMode := false
  isFloat := false
  floatEpsilon := 0

def effectiveValidatorConfig : Option RuntimeJudgeConfig → RuntimeValidatorConfig
  | some config =>
    match config.judgeMethod with
    | .validator => config.validator.getD defaultValidatorConfig
    | .spj => defaultValidatorConfig
  | none => defaultValidatorConfig

namespace Stdlib

variable (std : Stdlib)

def parseFloats (tokens : List String) : Option (List std.Float) :=
  tokens.mapM std.parse

/-- Values that do not compare count as equal. -/
def floatOrdering (lhs rhs : std.Float) : Ordering :=
  (std.partialCmp lhs rhs).getD .eq

def sortFloats (numbers : List std.Float) : List std.Float :=
  numbers.mergeSort fun lhs rhs => std.floatOrdering lhs rhs != .gt

def compareFloatTokens (userTokens expectedTokens : List String)
    (config : RuntimeValidatorConfig) : Bool :=
  if userTokens.length ≠ expectedTokens.length then
    false
  else
    match std.parseFloats userTokens, std.parseFloats expectedTokens with
    | some user, some expected =>
      let user := if config.isUnordered then std.sortFloats user else user
      let expected := if config.isUnordered then std.sortFloats expected else expected
      (user.zip expected).all fun (lhs, rhs) =>
        std.le (std.abs (std.sub lhs rhs)) (std.ofBits config.floatEpsilon)
    | _, _ => false

/-- Tokens in the order of their bytes, which is that of their code points. -/
def sortTokens (tokens : List String) : List String :=
  tokens.mergeSort fun lhs rhs => decide (lhs ≤ rhs)

def compareOutputs (userOutput expectedOutput : String) (config : RuntimeValidatorConfig) : Bool :=
  if !config.ignoreWhitespace && !config.isFloat && !config.isUnordered &&
      !config.isTokenMode then
    if config.ignoreCase then
      std.toLowercase userOutput == std.toLowercase expectedOutput
    else
      userOutput == expectedOutput
  else
    let fold := fun tokens : List String =>
      if config.ignoreCase then tokens.map std.toLowercase else tokens
    let userTokens := fold (Text.splitWhitespace userOutput)
    let expectedTokens := fold (Text.splitWhitespace expectedOutput)
    if config.isFloat then
      std.compareFloatTokens userTokens expectedTokens config
    else if config.isUnordered then
      sortTokens userTokens == sortTokens expectedTokens
    else
      userTokens == expectedTokens

def validateOutput (userOutput expectedOutput : String)
    (judgeConfig : Option RuntimeJudgeConfig) : CaseJudgeStatus :=
  if std.compareOutputs userOutput expectedOutput (effectiveValidatorConfig judgeConfig) then
    .accepted
  else
    .wrongAnswer

end Stdlib

/-- A library for concrete runs, which lower-cases and parses the plainest texts only. -/
def sampleStdlib : Stdlib where
  toLowercase := fun text => text.map Char.toLower
  Float := Float
  ofBits := Float.ofBits
  parse := fun token => token.toNat?.map Float.ofNat
  sub := Float.sub
  abs := Float.abs
  le := fun lhs rhs => decide (lhs ≤ rhs)
  partialCmp := fun lhs rhs =>
    if lhs < rhs then some .lt
    else if lhs == rhs then some .eq
    else if rhs < lhs then some .gt
    else none

end NexusCore.Runtime
