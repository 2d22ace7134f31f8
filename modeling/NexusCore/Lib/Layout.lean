import NexusCore.Lib.Text

/-!
# Texts as tokens and white space

A layout of some tokens is a text that has them in order, with white space between them and, where
one likes, around them. Splitting a text at white space gives the tokens it is a layout of.
-/

namespace NexusCore.Lib.Text

/-- White space may be in front of a token; what follows it starts with white space or is empty. -/
inductive Laid : List String → List Char → Prop where
  | blank {gap : List Char} (blank : ∀ c ∈ gap, isWhitespace c) : Laid [] gap
  | token {gap token rest : List Char} {tokens : List String} (blank : ∀ c ∈ gap, isWhitespace c)
      (nonempty : token ≠ []) (solid : ∀ c ∈ token, isWhitespace c = false)
      (apart : ∀ c ∈ rest.head?, isWhitespace c) (laid : Laid tokens rest) :
      Laid (String.ofList token :: tokens) (gap ++ token ++ rest)

/-- The tokens of a text, as lists of characters. -/
def words (cs : List Char) : List (List Char) :=
  (cs.splitOnP isWhitespace).filter (!·.isEmpty)

theorem words_gap {gap : List Char} (blank : ∀ c ∈ gap, isWhitespace c) (cs : List Char) :
    words (gap ++ cs) = words cs := by
  induction gap with
  | nil => rfl
  | cons c gap ih =>
    rw [List.forall_mem_cons] at blank
    rw [← ih blank.2, words, List.cons_append, List.splitOnP_cons_eq_if_modifyHead, if_pos blank.1]
    rfl

theorem words_blank {gap : List Char} (blank : ∀ c ∈ gap, isWhitespace c) : words gap = [] := by
  have same := words_gap blank []
  rw [List.append_nil] at same
  rw [same]
  rfl

theorem words_token {token rest : List Char} (nonempty : token ≠ [])
    (solid : ∀ c ∈ token, isWhitespace c = false) (apart : ∀ c ∈ rest.head?, isWhitespace c) :
    words (token ++ rest) = token :: words rest := by
  cases rest with
  | nil =>
    rw [List.append_nil, words, List.splitOnP_eq_singleton solid]
    simp [words, nonempty]
  | cons c rest =>
    have space : isWhitespace c := apart c rfl
    have same : words (c :: rest) = words rest :=
      @words_gap [c] (by simpa using space) rest
    rw [same, words, List.splitOnP_append_cons_of_forall_mem solid c space]
    simp [words, nonempty]

theorem Laid.words {tokens : List String} {cs : List Char} (laid : Laid tokens cs) :
    (words cs).map String.ofList = tokens := by
  induction laid with
  | blank blank => rw [words_blank blank, List.map_nil]
  | token blank nonempty solid apart laid ih =>
    rw [List.append_assoc, words_gap blank, words_token nonempty solid apart, List.map_cons, ih]

theorem exists_span (p : Char → Bool) (cs : List Char) :
    ∃ front back, cs = front ++ back ∧ (∀ c ∈ front, p c) ∧ ∀ c ∈ back.head?, p c = false := by
  refine ⟨cs.takeWhile p, cs.dropWhile p, List.takeWhile_append_dropWhile.symm,
    fun c mem => List.mem_takeWhile_imp mem, ?_⟩
  intro c first
  have stopped := List.head?_dropWhile_not p cs
  rw [Option.mem_def.1 first] at stopped
  exact stopped

theorem laid_words (cs : List Char) : Laid ((words cs).map String.ofList) cs := by
  generalize size : cs.length = n
  induction n using Nat.strong_induction_on generalizing cs with
  | _ n ih =>
    obtain ⟨gap, back, rfl, blank, head⟩ := exists_span isWhitespace cs
    cases back with
    | nil =>
      rw [List.append_nil, words_blank blank]
      exact .blank blank
    | cons c back =>
      obtain ⟨word, rest, rfl, solid, apart⟩ := exists_span (fun c => !isWhitespace c) back
      have first : isWhitespace c = false := head c rfl
      have solid' : ∀ d ∈ c :: word, isWhitespace d = false := by
        rw [List.forall_mem_cons]
        exact ⟨first, fun d mem => by simpa using solid d mem⟩
      have apart' : ∀ d ∈ rest.head?, isWhitespace d := fun d mem => by simpa using apart d mem
      have shorter : rest.length < n := by
        rw [← size]
        simp only [List.length_append, List.length_cons]
        omega
      have laid := Laid.token blank (List.cons_ne_nil c word) solid' apart' (ih _ shorter rest rfl)
      rw [← List.cons_append, words_gap blank,
        words_token (List.cons_ne_nil c word) solid' apart', List.map_cons, ← List.append_assoc]
      exact laid

/-- The tokens that a text is split into are those that it is a layout of. -/
theorem laid_iff {tokens : List String} {s : String} :
    Laid tokens s.toList ↔ splitWhitespace s = tokens := by
  constructor
  · intro laid
    exact laid.words
  · intro same
    rw [← same]
    exact laid_words s.toList

end NexusCore.Lib.Text
