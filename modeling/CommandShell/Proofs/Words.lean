import CommandShell.Token
import Mathlib.Data.List.TakeWhile
import Mathlib.Tactic.Lemma

/-!
# The words of a line

A line can be cut into words without asking for operators: `words` does it, and `Token.ofWord` says
afterwards which token a word makes. Words are non-empty and free of separators
(`isWord_of_mem_words`), and words with blanks between them are what the line is cut into again
(`words_intercalate`). All of this follows from one equation, `words_append_separator`: a separator
cuts a line into two lines that have nothing to do with each other.
-/

namespace CommandShell

/-! ## Cutting -/

/-- The maximal runs of non-separators, in order. -/
def words : List Char → List (List Char)
  | [] => []
  | c :: rest =>
    if isSeparator c then words rest
    else
      (c :: rest.takeWhile (fun d => !isSeparator d))
        :: words (rest.dropWhile (fun d => !isSeparator d))
termination_by cs => cs.length
decreasing_by
  · simp
  · have := (List.dropWhile_sublist (fun d => !isSeparator d) (l := rest)).length_le
    simp only [List.length_cons]
    omega

/-- What a line can have between its separators. -/
def IsWord (w : List Char) : Prop :=
  w ≠ [] ∧ ∀ c ∈ w, isSeparator c = false

-- the test goes through the word, not through all characters
instance (w : List Char) : Decidable (IsWord w) :=
  have := List.decidableBAll (isSeparator · = false) w
  inferInstanceAs (Decidable (w ≠ [] ∧ _))

/-- A separator ends what is taken, whatever comes after it. -/
lemma takeWhile_append_separator {c : Char} (hc : isSeparator c = true) (xs ys : List Char) :
    (xs ++ c :: ys).takeWhile (!isSeparator ·) = xs.takeWhile (!isSeparator ·) := by
  induction xs with
  | nil => simp [hc]
  | cons x xs ih => simp [List.takeWhile_cons, ih]

lemma dropWhile_append_separator {c : Char} (hc : isSeparator c = true) (xs ys : List Char) :
    (xs ++ c :: ys).dropWhile (!isSeparator ·) = xs.dropWhile (!isSeparator ·) ++ c :: ys := by
  induction xs with
  | nil => simp [hc]
  | cons x xs ih =>
    by_cases hx : isSeparator x = true
    · simp [hx]
    · simp [hx, ih]

@[simp] lemma words_nil : words [] = [] := by rw [words]

lemma words_cons_separator {c : Char} (hc : isSeparator c = true) (cs : List Char) :
    words (c :: cs) = words cs := by
  rw [words, if_pos hc]

/-- A separator cuts a line in two. -/
theorem words_append_separator {c : Char} (hc : isSeparator c = true) (xs ys : List Char) :
    words (xs ++ c :: ys) = words xs ++ words ys := by
  fun_induction words xs with
  | case1 => exact words_cons_separator hc ys
  | case2 x xs hx ih => rw [List.cons_append, words_cons_separator hx, ih]
  | case3 x xs hx ih =>
    rw [List.cons_append, words, if_neg hx, takeWhile_append_separator hc,
      dropWhile_append_separator hc, ih, List.cons_append]

lemma words_of_isWord {w : List Char} (hw : IsWord w) : words w = [w] := by
  obtain ⟨hne, hfree⟩ := hw
  cases w with
  | nil => exact absurd rfl hne
  | cons c w =>
    obtain ⟨hc, hrest⟩ := List.forall_mem_cons.1 hfree
    have hall : ∀ d ∈ w, (!isSeparator d) = true := by
      intro d hd
      rw [hrest d hd]
      rfl
    rw [words, if_neg (by simp [hc]), List.takeWhile_eq_self_iff.2 hall,
      List.dropWhile_eq_nil_iff.2 hall, words_nil]

theorem isWord_of_mem_words {w cs : List Char} (h : w ∈ words cs) : IsWord w := by
  fun_induction words cs with
  | case1 => simp at h
  | case2 c cs hc ih => exact ih h
  | case3 c cs hc ih =>
    rcases List.mem_cons.1 h with rfl | h
    · refine ⟨List.cons_ne_nil _ _, List.forall_mem_cons.2 ⟨by simpa using hc, ?_⟩⟩
      intro d hd
      simpa using List.mem_takeWhile_imp hd
    · exact ih h

/-- Words with blanks between them are the words of the line that they make. -/
theorem words_intercalate {ws : List (List Char)} (h : ∀ w ∈ ws, IsWord w) :
    words (List.intercalate [' '] ws) = ws := by
  induction ws with
  | nil => exact words_nil
  | cons w ws ih =>
    obtain ⟨hw, hws⟩ := List.forall_mem_cons.1 h
    cases ws with
    | nil => rw [List.intercalate_singleton, words_of_isWord hw]
    | cons v ws =>
      rw [List.intercalate_cons_cons, List.append_assoc, List.singleton_append,
        words_append_separator rfl, words_of_isWord hw, ih hws, List.singleton_append]

lemma words_separators_append {gap : List Char} (hgap : ∀ c ∈ gap, isSeparator c = true)
    (cs : List Char) : words (gap ++ cs) = words cs := by
  induction gap with
  | nil => rfl
  | cons c gap ih =>
    obtain ⟨hc, hgap⟩ := List.forall_mem_cons.1 hgap
    rw [List.cons_append, words_cons_separator hc, ih hgap]

/-- A word in front is the first one, if it does not go on. -/
lemma words_word_append {w rest : List Char} (hw : IsWord w)
    (hrest : ∀ c ∈ rest.head?, isSeparator c = true) : words (w ++ rest) = w :: words rest := by
  cases rest with
  | nil => rw [List.append_nil, words_of_isWord hw, words_nil]
  | cons c rest =>
    have hc := hrest c rfl
    rw [words_append_separator hc, words_of_isWord hw, words_cons_separator hc,
      List.singleton_append]

/-- It makes no difference whether a final line feed is dropped. -/
theorem words_dropFinalNewline (cs : List Char) : words (dropFinalNewline cs) = words cs := by
  unfold dropFinalNewline
  split
  · rename_i hlast
    obtain ⟨rest, rfl⟩ := List.getLast?_eq_some_iff.1 hlast
    rw [List.dropLast_concat, words_append_separator rfl, words_nil, List.append_nil]
  · rfl

/-! ## The tokens of words -/

namespace Token

/-- The token that a whole word makes. -/
def ofWord (w : String) : Token :=
  if w = "|" then .pipe
  else if w = "<" then .read
  else if w = ">" then .write
  else if w = ">>" then .append
  else if w = "&" then .background
  else .word w

lemma text_ofWord (w : String) : (ofWord w).text = w := by
  unfold ofWord
  split
  · simp_all [text]
  split
  · simp_all [text]
  split
  · simp_all [text]
  split
  · simp_all [text]
  split
  · simp_all [text]
  · rfl

/-- A word is a plain one unless it is spelled as an operator. -/
theorem ofWord_eq_word_iff {w : String} :
    ofWord w = .word w ↔ w ∉ ["|", "<", ">", ">>", "&"] := by
  constructor
  · intro h hmem
    simp only [List.mem_cons, List.not_mem_nil, or_false] at hmem
    rcases hmem with rfl | rfl | rfl | rfl | rfl <;> exact absurd h (by decide)
  · intro h
    simp only [List.mem_cons, List.not_mem_nil, or_false, not_or] at h
    obtain ⟨hpipe, hread, hwrite, happend, hbackground⟩ := h
    unfold ofWord
    rw [if_neg hpipe, if_neg hread, if_neg hwrite, if_neg happend, if_neg hbackground]

end Token

/-- The tokens of the words of a text. -/
def tokensOf (cs : List Char) : List Token :=
  (words cs).map fun w => Token.ofWord (String.ofList w)

end CommandShell
