import CommandShell.Proofs.LongestMatch
import Mathlib.Data.List.Forall2

/-!
# The tokens of a line

A `SpacedLine` is a line that has been put together from words and separators, as every line can be
(`SpacedLine.surjective_text`). `lex_spacedLine` says of such a line which tokens it has, what the
cap on their number does, and that a final line feed makes no difference.
-/

namespace CommandShell

/-! ## What a token is -/

/-- The token is the operator spelled `w` if there is one, and otherwise the word `w`. -/
structure Token.Spells (token : Token) (w : String) : Prop where
  pipe : token = .pipe ↔ w = "|"
  read : token = .read ↔ w = "<"
  write : token = .write ↔ w = ">"
  append : token = .append ↔ w = ">>"
  background : token = .background ↔ w = "&"
  word : w ∉ ["|", "<", ">", ">>", "&"] → token = .word w
  text : token.text = w

lemma Token.ofWord_eq_operator_iff {token : Token} (h : token ∈ LexRule.operators) {w : String} :
    Token.ofWord w = token ↔ w = token.text := by
  constructor
  · rintro rfl
    rw [Token.text_ofWord]
  · rintro rfl
    exact LexRule.ofWord_text h

lemma Token.spells_ofWord (w : String) : (Token.ofWord w).Spells w where
  pipe := Token.ofWord_eq_operator_iff (by decide)
  read := Token.ofWord_eq_operator_iff (by decide)
  write := Token.ofWord_eq_operator_iff (by decide)
  append := Token.ofWord_eq_operator_iff (by decide)
  background := Token.ofWord_eq_operator_iff (by decide)
  word := Token.ofWord_eq_word_iff.2
  text := Token.text_ofWord w

/-! ## Words with separators between them -/

/-- A line put together from words and separators, with separators at both ends or not. -/
structure SpacedLine where
  /-- The separators in front of the first word. -/
  lead : List Char
  /-- The words, each with the separators behind it. -/
  pieces : List (String × List Char)
  lead_separators : ∀ c ∈ lead, isSeparator c = true
  isWord : ∀ piece ∈ pieces, IsWord piece.1.toList
  gap_separators : ∀ piece ∈ pieces, ∀ c ∈ piece.2, isSeparator c = true
  /-- Behind every word but the last one there are separators. -/
  apart : ∀ piece ∈ pieces.dropLast, piece.2 ≠ []

namespace SpacedLine

/-- The words of the line. -/
def words (line : SpacedLine) : List String :=
  line.pieces.map Prod.fst

/-- The characters of the line. -/
def chars (line : SpacedLine) : List Char :=
  line.lead ++ line.pieces.flatMap fun piece => piece.1.toList ++ piece.2

/-- The line as it is typed. -/
def text (line : SpacedLine) : String :=
  String.ofList line.chars

/-- The line with one more separator in front. -/
def consSeparator {c : Char} (hc : isSeparator c = true) (line : SpacedLine) : SpacedLine where
  lead := c :: line.lead
  pieces := line.pieces
  lead_separators := List.forall_mem_cons.2 ⟨hc, line.lead_separators⟩
  isWord := line.isWord
  gap_separators := line.gap_separators
  apart := line.apart

lemma mem_dropLast_cons {α : Type} {x y : α} {ys : List α} :
    x ∈ (y :: ys).dropLast ↔ ys ≠ [] ∧ (x = y ∨ x ∈ ys.dropLast) := by
  cases ys <;> simp

/-- The line with one more letter in front, which begins a word of its own or the first word. -/
lemma exists_cons_letter {c : Char} (hc : isSeparator c = false) (line : SpacedLine) :
    ∃ longer : SpacedLine, longer.chars = c :: line.chars := by
  obtain ⟨lead, pieces, hlead, hword, hgap, hapart⟩ := line
  have hletter : IsWord (String.ofList [c]).toList := by simp [IsWord, hc]
  -- the letter is a word if a separator follows, and else begins the first word
  cases lead with
  | cons d lead =>
    refine ⟨⟨[], (String.ofList [c], d :: lead) :: pieces, by simp,
      List.forall_mem_cons.2 ⟨hletter, hword⟩, List.forall_mem_cons.2 ⟨hlead, hgap⟩, ?_⟩,
      by simp [chars]⟩
    intro piece hpiece
    obtain ⟨-, rfl | hpiece⟩ := mem_dropLast_cons.1 hpiece
    · exact List.cons_ne_nil _ _
    · exact hapart piece hpiece
  | nil =>
    cases pieces with
    | nil =>
      exact ⟨⟨[], [(String.ofList [c], [])], by simp, by simpa using hletter, by simp, by simp⟩,
        by simp [chars]⟩
    | cons first pieces =>
      obtain ⟨hfirst, hword⟩ := List.forall_mem_cons.1 hword
      have hlonger : IsWord (String.ofList (c :: first.1.toList)).toList := by
        rw [String.toList_ofList]
        exact ⟨List.cons_ne_nil _ _, List.forall_mem_cons.2 ⟨hc, hfirst.2⟩⟩
      refine ⟨⟨[], (String.ofList (c :: first.1.toList), first.2) :: pieces, by simp,
        List.forall_mem_cons.2 ⟨hlonger, hword⟩,
        List.forall_mem_cons.2 (List.forall_mem_cons.1 hgap), ?_⟩, by simp [chars]⟩
      intro piece hpiece
      obtain ⟨hne, rfl | hpiece⟩ := mem_dropLast_cons.1 hpiece
      · exact hapart first (mem_dropLast_cons.2 ⟨hne, .inl rfl⟩)
      · exact hapart piece (mem_dropLast_cons.2 ⟨hne, .inr hpiece⟩)

/-- Every line has been put together from words and separators. -/
theorem surjective_text : Function.Surjective text := by
  suffices h : ∀ cs : List Char, ∃ line : SpacedLine, line.chars = cs by
    intro s
    obtain ⟨line, hline⟩ := h s.toList
    exact ⟨line, by rw [text, hline, String.ofList_toList]⟩
  intro cs
  induction cs with
  | nil => exact ⟨⟨[], [], by simp, by simp, by simp, by simp⟩, rfl⟩
  | cons c cs ih =>
    obtain ⟨line, rfl⟩ := ih
    cases hc : isSeparator c with
    | true => exact ⟨line.consSeparator hc, rfl⟩
    | false => exact line.exists_cons_letter hc

/-- Cutting the line at its separators gives back the words. -/
lemma words_chars (line : SpacedLine) :
    CommandShell.words line.chars = line.words.map String.toList := by
  obtain ⟨lead, pieces, hlead, hword, hgap, hapart⟩ := line
  simp only [chars, words]
  rw [words_separators_append hlead]
  clear hlead
  induction pieces with
  | nil => exact words_nil
  | cons piece pieces ih =>
    obtain ⟨hpiece, hword⟩ := List.forall_mem_cons.1 hword
    obtain ⟨hbehind, hgap⟩ := List.forall_mem_cons.1 hgap
    have hends : ∀ c ∈ (piece.2 ++ pieces.flatMap fun piece => piece.1.toList ++ piece.2).head?,
        isSeparator c = true := by
      intro c hc
      cases hempty : piece.2 with
      | cons d gap =>
        rw [hempty] at hc hbehind
        obtain rfl : d = c := by simpa using hc
        exact hbehind d List.mem_cons_self
      | nil =>
        -- only the last word has no separators behind it
        have hlast : pieces = [] := by
          by_contra hne
          exact hapart piece (mem_dropLast_cons.2 ⟨hne, .inl rfl⟩) hempty
        simp [hempty, hlast] at hc
    have ih := ih hword hgap fun piece' h =>
      hapart piece' (mem_dropLast_cons.2 ⟨List.ne_nil_of_mem (List.dropLast_subset _ h), .inr h⟩)
    rw [List.flatMap_cons, List.append_assoc, words_word_append hpiece hends,
      words_separators_append hbehind, ih]
    rfl

lemma lex_text (line : SpacedLine) : lex line.text = line.words.map Token.ofWord := by
  rw [lex_eq_tokensOf, tokensOf, text, String.toList_ofList, words_chars, List.map_map]
  simp [Function.comp_def]

end SpacedLine

lemma lex_append_newline (line : String) : lex (line ++ "\n") = lex line := by
  rw [lex_eq_tokensOf, tokensOf, String.toList_append, show "\n".toList = '\n' :: [] from rfl,
    words_append_separator rfl, words_nil, List.append_nil, lex_eq_tokensOf, tokensOf]

/-- The tokens of a line that has been put together from words and separators are those of its
words, also for a lexer that goes by the longest match, and as many as the cap allows or none are
returned. -/
theorem lex_spacedLine (line : SpacedLine) (maxArgs : Nat) :
    (∀ items, Lexes line.text.toList items ↔ items = (lex line.text).map .ok) ∧
      lexer line.text.toList = (lex line.text).map .ok ∧
      List.Forall₂ Token.Spells (lex line.text) line.words ∧
      tokenize line.text maxArgs =
        (if line.words.length ≤ max maxArgs 1 - 1 then .ok (lex line.text)
          else .error (.tooManyArguments (max maxArgs 1 - 1))) ∧
      lex (line.text ++ "\n") = lex line.text ∧
      tokenize (line.text ++ "\n") maxArgs = tokenize line.text maxArgs := by
  have hcap : max maxArgs 1 - 1 = maxArgs - 1 := by omega
  have hlength : (lex line.text).length = line.words.length := by
    rw [line.lex_text, List.length_map]
  refine ⟨fun items => lexes_iff, lexes_iff.1 (lexes_lexer _), ?_, ?_, lex_append_newline _, ?_⟩
  · rw [line.lex_text, List.forall₂_map_left_iff]
    exact List.forall₂_same.2 fun w _ => Token.spells_ofWord w
  · rw [tokenize_eq, hlength, hcap]
  · rw [tokenize_eq, tokenize_eq, lex_append_newline]

end CommandShell
