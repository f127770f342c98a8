import CommandShell.Proofs.Words

/-!
# Tokens by longest match

The lexer goes by rules: at each place it looks for the longest text that one of its rules matches,
and where two rules match the same text, a fixed spelling goes before a class of characters. `Lexes`
is that account of a lexer, with a rule for separators, one for each operator and one for words, and
with an error wherever no rule matches. `lexes_lexer` is that the shell has such a lexer.

The operators are beginnings of words and of each other, so the rules compete at almost every place.
All the same, whatever goes by these rules cuts a line at its separators and asks afterwards which
words are operators, and meets no errors (`lexes_iff`). So the tokens of a line are those of its
words (`lex_eq_tokensOf`), and the cap on their number is all that a line can be refused for
(`tokenize_eq_ok_iff`).
-/

namespace CommandShell

/-! ## Lexing with rules -/

namespace LexRule

/-- The rule matches a text, from its beginning to its end. -/
def Matches : LexRule → List Char → Prop
  | gap, text => text ≠ [] ∧ ∀ c ∈ text, isSeparator c = true
  | operator token, text => token ∈ operators ∧ text = token.text.toList
  | word, text => IsWord text

/-- The rule takes `lexeme` off a text that goes on with `rest`: no rule matches more of the text,
and a word is only taken if it is not the spelling of an operator. -/
structure Takes (rule : LexRule) (lexeme rest : List Char) : Prop where
  matched : rule.Matches lexeme
  longest : ∀ other more, more <+: lexeme ++ rest → Matches other more →
    more.length ≤ lexeme.length
  fixed_first : rule = word → ∀ token, ¬ (operator token).Matches lexeme

end LexRule

/-- `Lexes text items`: taking lexemes off the text gives these tokens and errors. A character at
which no rule matches is passed over with an error. -/
inductive Lexes : List Char → List (Except LexerError Token) → Prop
  | nil : Lexes [] []
  | take {rule : LexRule} {lexeme rest : List Char} {items : List (Except LexerError Token)}
      (takes : rule.Takes lexeme rest) (later : Lexes rest items) :
      Lexes (lexeme ++ rest) ((rule.token? lexeme).toList.map .ok ++ items)
  | stuck {c : Char} {rest : List Char} {items : List (Except LexerError Token)}
      (unmatched : ∀ (rule : LexRule) text, text <+: c :: rest → ¬ rule.Matches text)
      (later : Lexes rest items) : Lexes (c :: rest) (.error .unknownToken :: items)

/-! ## The rules of the lexer -/

namespace LexRule

lemma isWord_of_mem_operators {token : Token} (h : token ∈ operators) :
    IsWord token.text.toList := by
  revert token
  decide

/-- What is matched is a run of separators or a word. -/
lemma Matches.gap_or_isWord {rule : LexRule} {text : List Char} (h : rule.Matches text) :
    rule = gap ∧ gap.Matches text ∨ rule ≠ gap ∧ IsWord text := by
  cases rule with
  | gap => exact .inl ⟨rfl, h⟩
  | operator token =>
    obtain ⟨hmem, rfl⟩ := h
    exact .inr ⟨by simp, isWord_of_mem_operators hmem⟩
  | word => exact .inr ⟨by simp, h⟩

lemma Matches.ne_nil {rule : LexRule} {text : List Char} (h : rule.Matches text) :
    text ≠ [] := by
  rcases h.gap_or_isWord with ⟨-, hgap⟩ | ⟨-, hword⟩
  · exact hgap.1
  · exact hword.1

/-- A beginning that passes a test is no longer than what the test takes. -/
lemma length_le_takeWhile {p : Char → Bool} {more cs : List Char} (hfront : more <+: cs)
    (hmore : ∀ c ∈ more, p c = true) : more.length ≤ (cs.takeWhile p).length := by
  obtain ⟨rest, rfl⟩ := hfront
  rw [List.takeWhile_append_of_pos hmore, List.length_append]
  omega

lemma Matches.length_le_reach {rule : LexRule} {more cs : List Char} (h : rule.Matches more)
    (hfront : more <+: cs) : more.length ≤ rule.reach cs := by
  cases rule with
  | gap => exact length_le_takeWhile hfront h.2
  | operator token =>
    obtain ⟨-, rfl⟩ := h
    have hspelled : token.text.toList.isPrefixOf cs = true := List.isPrefixOf_iff_prefix.2 hfront
    rw [reach, if_pos hspelled]
  | word => exact length_le_takeWhile hfront fun c hc => by rw [h.2 c hc]; rfl

/-- What a rule reaches, it matches, if it is one of those that the lexer has. -/
lemma matches_take_reach {rule : LexRule} {cs : List Char}
    (hrule : ∀ token, rule = operator token → token ∈ operators) (hreach : 0 < rule.reach cs) :
    rule.Matches (cs.take (rule.reach cs)) := by
  have hfull {p : Char → Bool} : cs.take (cs.takeWhile p).length = cs.takeWhile p :=
    (List.prefix_iff_eq_take.1 (List.takeWhile_prefix p)).symm
  cases rule with
  | gap =>
    rw [reach, hfull]
    exact ⟨List.length_pos_iff.1 hreach, fun c hc => List.mem_takeWhile_imp hc⟩
  | operator token =>
    refine ⟨hrule token rfl, ?_⟩
    by_cases hspelled : token.text.toList.isPrefixOf cs = true
    · rw [reach, if_pos hspelled]
      exact (List.prefix_iff_eq_take.1 (List.isPrefixOf_iff_prefix.1 hspelled)).symm
    · rw [reach, if_neg hspelled] at hreach
      exact absurd hreach (Nat.lt_irrefl 0)
  | word =>
    rw [reach, hfull]
    exact ⟨List.length_pos_iff.1 hreach, fun c hc => by simpa using List.mem_takeWhile_imp hc⟩

/-! ### The best of the rules -/

lemma furthest_mem (cs : List Char) (rule : LexRule) (rules : List LexRule) :
    furthest cs rule rules ∈ rule :: rules := by
  induction rules generalizing rule with
  | nil => exact List.mem_cons_self
  | cons other rules ih =>
    rw [furthest]
    split
    · exact List.mem_cons_of_mem _ (ih other)
    · rcases List.mem_cons.1 (ih rule) with hfirst | hlater
      · rw [hfirst]
        exact List.mem_cons_self
      · exact List.mem_cons_of_mem _ (List.mem_cons_of_mem _ hlater)

lemma reach_le_furthest (cs : List Char) (rule : LexRule) (rules : List LexRule) :
    ∀ other ∈ rule :: rules, other.reach cs ≤ (furthest cs rule rules).reach cs := by
  induction rules generalizing rule with
  | nil => exact List.forall_mem_singleton.2 (Nat.le_refl _)
  | cons next rules ih =>
    intro other hother
    rw [furthest]
    -- the better one of the first two is among those that are left
    have hbetter : rule.reach cs ≤ (if rule.reach cs < next.reach cs then next else rule).reach cs ∧
        next.reach cs ≤ (if rule.reach cs < next.reach cs then next else rule).reach cs := by
      split <;> omega
    have hfirst := ih (if rule.reach cs < next.reach cs then next else rule) _ List.mem_cons_self
    rcases List.mem_cons.1 hother with rfl | hother
    · exact Nat.le_trans hbetter.1 hfirst
    rcases List.mem_cons.1 hother with rfl | hother
    · exact Nat.le_trans hbetter.2 hfirst
    · exact ih _ other (List.mem_cons_of_mem _ hother)

lemma furthest_concat (cs : List Char) (rule last : LexRule) (rules : List LexRule) :
    furthest cs rule (rules ++ [last]) =
      if (furthest cs rule rules).reach cs < last.reach cs then last
      else furthest cs rule rules := by
  induction rules generalizing rule with
  | nil => rfl
  | cons other rules ih => rw [List.cons_append, furthest, ih, furthest]

/-- Nothing is matched that is longer than what the best rule reaches. -/
lemma Matches.length_le_best {rule : LexRule} {more cs : List Char} (h : rule.Matches more)
    (hfront : more <+: cs) : more.length ≤ (best cs).reach cs := by
  have hmem : rule ∈ gap :: (operators.map operator ++ [word]) := by
    cases rule with
    | gap => exact List.mem_cons_self
    | operator token => simp [h.1]
    | word => simp
  exact Nat.le_trans (h.length_le_reach hfront) (reach_le_furthest cs _ _ rule hmem)

/-- The rule for words is the best only if it reaches further than all spellings. -/
lemma reach_operator_lt {cs : List Char} (h : best cs = word) {token : Token}
    (htoken : token ∈ operators) : (operator token).reach cs < word.reach cs := by
  have hbest := furthest_concat cs gap word (operators.map operator)
  rw [← best, h] at hbest
  split at hbest
  · rename_i hlonger
    refine Nat.lt_of_le_of_lt (reach_le_furthest cs gap (operators.map operator) _ ?_) hlonger
    exact List.mem_cons_of_mem _ (List.mem_map_of_mem htoken)
  · have hmem := furthest_mem cs gap (operators.map operator)
    rw [← hbest] at hmem
    simp at hmem

lemma takes_best {cs : List Char} (hreach : 0 < (best cs).reach cs) :
    (best cs).Takes (cs.take ((best cs).reach cs)) (cs.drop ((best cs).reach cs)) where
  matched := by
    refine matches_take_reach (fun token htoken => ?_) hreach
    have hmem := furthest_mem cs gap (operators.map operator ++ [word])
    rw [← best, htoken] at hmem
    simpa using hmem
  longest := by
    intro other more hfront hmore
    rw [List.take_append_drop] at hfront
    have hlength := hmore.length_le_best hfront
    have hall := hfront.length_le
    rw [List.length_take]
    omega
  fixed_first := by
    intro hword token hmatch
    have hless := reach_operator_lt hword hmatch.1
    have hmore := hmatch.length_le_reach (List.take_prefix _ cs)
    rw [hword, List.length_take] at hmore
    have hall : word.reach cs ≤ cs.length := (List.takeWhile_prefix _).length_le
    omega

end LexRule

/-- The lexer of the shell goes by the longest match. -/
theorem lexes_lexer (cs : List Char) : Lexes cs (lexer cs) := by
  fun_induction lexer cs with
  | case1 => exact .nil
  | case2 c rest rule hreach ih =>
    refine .stuck (fun other text hfront hmatch => hmatch.ne_nil ?_) ih
    have hlength := hmatch.length_le_best hfront
    rw [show (LexRule.best (c :: rest)).reach (c :: rest) = 0 from hreach] at hlength
    exact List.length_eq_zero_iff.1 (Nat.le_zero.1 hlength)
  | case3 c rest rule more hreach ih =>
    have hbest : (LexRule.best (c :: rest)).reach (c :: rest) = more + 1 := hreach
    have htakes : (LexRule.best (c :: rest)).Takes _ _ :=
      LexRule.takes_best (by rw [hbest]; exact Nat.succ_pos more)
    rw [hbest, List.take_succ_cons, List.drop_succ_cons] at htakes
    have hcut := Lexes.take htakes ih
    rwa [List.cons_append, List.take_append_drop] at hcut

/-! ## What all such lexers come to -/

namespace LexRule

lemma ofWord_text {token : Token} (h : token ∈ operators) :
    Token.ofWord token.text = token := by
  revert token
  decide

/-- The text behind a word that has been taken does not go on with the word. -/
lemma Takes.isSeparator_head {rule : LexRule} {lexeme rest : List Char}
    (h : rule.Takes lexeme rest) (hword : IsWord lexeme) :
    ∀ c ∈ rest.head?, isSeparator c = true := by
  intro c hc
  obtain ⟨rest, rfl⟩ := List.head?_eq_some_iff.1 hc
  by_contra hsep
  have longer : word.Matches (lexeme ++ [c]) := by
    refine ⟨by simp, List.forall_mem_append.2 ⟨hword.2, ?_⟩⟩
    simpa using hsep
  have hle := h.longest word (lexeme ++ [c]) (by simp) longer
  rw [List.length_append, List.length_singleton] at hle
  omega

lemma Takes.token?_eq {rule : LexRule} {lexeme rest : List Char} (h : rule.Takes lexeme rest)
    (hrule : rule ≠ gap) : rule.token? lexeme = some (Token.ofWord (String.ofList lexeme)) := by
  cases rule with
  | gap => exact absurd rfl hrule
  | operator token =>
    obtain ⟨hmem, rfl⟩ := h.matched
    rw [token?, String.ofList_toList, ofWord_text hmem]
  | word =>
    have hplain : String.ofList lexeme ∉ ["|", "<", ">", ">>", "&"] := by
      intro hmem
      have spelled : ∀ w ∈ ["|", "<", ">", ">>", "&"], ∃ token ∈ operators, w = token.text := by
        decide
      obtain ⟨token, htoken, hw⟩ := spelled _ hmem
      exact h.fixed_first rfl token ⟨htoken, by rw [← hw, String.toList_ofList]⟩
    rw [token?, Token.ofWord_eq_word_iff.2 hplain]

end LexRule

/-- Whatever a lexer with these rules comes to, it comes to the tokens of the words. -/
lemma Lexes.eq_tokensOf {cs : List Char} {items : List (Except LexerError Token)}
    (h : Lexes cs items) : items = (tokensOf cs).map .ok := by
  induction h with
  | nil => simp [tokensOf]
  | @take rule lexeme rest items takes _ ih =>
    rcases takes.matched.gap_or_isWord with ⟨rfl, hgap⟩ | ⟨hrule, hword⟩
    · rw [tokensOf, words_separators_append hgap.2, ih]
      rfl
    · rw [tokensOf, words_word_append hword (takes.isSeparator_head hword), takes.token?_eq hrule,
        ih]
      rfl
  | @stuck c rest items unmatched _ _ =>
    -- a separator is matched by itself, and so is any other character
    have hfront : [c] <+: c :: rest := by simp
    by_cases hc : isSeparator c = true
    · exact absurd ⟨by simp, by simpa using hc⟩ (unmatched .gap [c] hfront)
    · exact absurd ⟨by simp, by simpa using hc⟩ (unmatched .word [c] hfront)

lemma lexer_eq_tokensOf (cs : List Char) : lexer cs = (tokensOf cs).map .ok :=
  (lexes_lexer cs).eq_tokensOf

/-- The tokens of a line are those of its words. -/
theorem lex_eq_tokensOf (line : String) : lex line = tokensOf line.toList := by
  have kept (tokens : List Token) :
      (tokens.map (.ok : Token → Except LexerError Token)).filterMap Except.toOption = tokens := by
    rw [List.filterMap_map]
    exact List.filterMap_some
  rw [lex, lexer_eq_tokensOf, kept]

/-- Longest match with fixed spellings first is cutting at separators, and there are no errors. -/
theorem lexes_iff {line : String} {items : List (Except LexerError Token)} :
    Lexes line.toList items ↔ items = (lex line).map .ok := by
  rw [lex_eq_tokensOf]
  constructor
  · exact Lexes.eq_tokensOf
  · rintro rfl
    rw [← lexer_eq_tokensOf]
    exact lexes_lexer _

/-! ## Tokens -/

/-- A token that cutting a line can give: its text is a word, and it is the token of that word. -/
structure Token.Lexed (token : Token) : Prop where
  isWord : IsWord token.text.toList
  ofWord_text : Token.ofWord token.text = token

lemma lexed_of_mem_lex {token : Token} {line : String} (h : token ∈ lex line) : token.Lexed := by
  rw [lex_eq_tokensOf] at h
  obtain ⟨w, hw, rfl⟩ := List.mem_map.1 h
  refine ⟨?_, ?_⟩
  · rw [Token.text_ofWord, String.toList_ofList]
    exact isWord_of_mem_words hw
  · rw [Token.text_ofWord]

/-- Words with blanks between them give their tokens. -/
theorem lex_intercalate {ws : List String} (h : ∀ w ∈ ws, IsWord w.toList) :
    lex (" ".intercalate ws) = ws.map Token.ofWord := by
  have hwords : ∀ w ∈ ws.map String.toList, IsWord w := by
    intro w hw
    obtain ⟨s, hs, rfl⟩ := List.mem_map.1 hw
    exact h s hs
  rw [lex_eq_tokensOf, tokensOf, String.toList_intercalate, show " ".toList = [' '] from rfl,
    words_intercalate hwords, List.map_map]
  simp

/-! ## The cap -/

/-- Taking over tokens that come without an error: all of them if there is room, and none if there
is not. -/
lemma takeTokens_map_ok (max : Nat) (taken : Array Token) (room : taken.size ≤ max)
    (tokens : List Token) :
    takeTokens max taken (tokens.map .ok) =
      if taken.size + tokens.length ≤ max then .ok (taken.toList ++ tokens)
      else .error (.tooManyArguments max) := by
  induction tokens generalizing taken with
  | nil => simp [takeTokens, room]
  | cons token rest ih =>
    rw [List.map_cons, takeTokens, List.length_cons]
    by_cases full : taken.size = max
    · have tooMany : ¬ taken.size + (rest.length + 1) ≤ max := by omega
      rw [if_pos full, if_neg tooMany]
    · -- there is room for this token, so what becomes of the others decides
      have more : (taken.push token).size ≤ max := by
        rw [Array.size_push]
        omega
      have hsize : (taken.push token).size + rest.length = taken.size + (rest.length + 1) := by
        rw [Array.size_push]
        omega
      rw [if_neg full, ih _ more, hsize, Array.toList_push, List.append_assoc,
        List.singleton_append]

/-- A line is refused as a whole if it has too many tokens. It makes no difference whether a final
line feed is dropped. -/
theorem tokenize_eq (line : String) (maxArgs : Nat) :
    tokenize line maxArgs =
      if (lex line).length ≤ maxArgs - 1 then .ok (lex line)
      else .error (.tooManyArguments (maxArgs - 1)) := by
  have hlexer : lexer (dropFinalNewline line.toList) = (lex line).map .ok := by
    rw [lexer_eq_tokensOf, lex_eq_tokensOf, tokensOf, words_dropFinalNewline, tokensOf]
  have hcap := takeTokens_map_ok (maxArgs - 1) #[] (Nat.zero_le _) (lex line)
  rw [tokenize, hlexer, hcap]
  simp

/-- A line is refused if it has too many tokens, and for nothing else. -/
theorem tokenize_eq_ok_iff {line : String} {maxArgs : Nat} {tokens : List Token} :
    tokenize line maxArgs = .ok tokens ↔ lex line = tokens ∧ tokens.length ≤ maxArgs - 1 := by
  rw [tokenize_eq]
  split
  · rename_i hfits
    simp only [Except.ok.injEq]
    exact ⟨fun h => ⟨h, h ▸ hfits⟩, fun h => h.1⟩
  · rename_i hover
    simp only [reduceCtorEq, false_iff, not_and]
    rintro rfl
    exact hover

end CommandShell
