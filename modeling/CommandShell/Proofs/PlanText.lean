import CommandShell.Plan
import CommandShell.Proofs.LongestMatch

/-!
# Plans as text

Which plans a line can have, and that each of them has one. `Plan.line` writes a plan down: the
arguments of each side, then its redirections, a `|` between the sides, and a `&` for a job in the
background. `Plan.WellFormed` says of a plan, without reading any line, that it can be written down
so; `Plan.image_eq_wellFormed` is that these are exactly the plans that lines are read as, and that
reading what was written gives the plan back.

Both directions go through `Draft.ofTokens`, one side of a line at a time. From a plan to its line
and back, the tokens are known, and the draft is worked out from the end of the side to its
beginning. From a line to its plan, `Draft.From` keeps for each string of a draft the token that it
comes from, and what that token cannot be.
-/

namespace CommandShell

/-! ## Writing a plan down -/

/-- The operator that opens a file in this way. -/
def OutputMode.redirection : OutputMode → Redirection
  | .truncate => .write
  | .append => .append

namespace Segment

/-- The files that a segment is redirected to. -/
def paths (s : Segment) : List String :=
  s.input.toList ++ s.output.toList.map (·.path)

/-- The words that redirect the input. -/
def inputWords (s : Segment) : List String :=
  s.input.toList.flatMap fun path => [Redirection.read.text, path]

/-- The words that redirect the output. -/
def outputWords (s : Segment) : List String :=
  s.output.toList.flatMap fun target => [target.mode.redirection.text, target.path]

/-- The words of a segment. -/
def printed (s : Segment) : List String :=
  s.argv ++ (s.inputWords ++ s.outputWords)

end Segment

namespace Plan

/-- The word that puts a plan into the background. -/
def trailer (p : Plan) : List String :=
  if p.background then ["&"] else []

/-- The words of a plan. -/
def printed (p : Plan) : List String :=
  p.left.printed ++ (p.right.toList.flatMap fun right => "|" :: right.printed) ++ p.trailer

/-- A plan as a line. -/
def line (p : Plan) : String :=
  " ".intercalate p.printed

end Plan

/-! ## Plans that can be written down -/

/-- A segment all of whose strings will be read as what they are: words, with no operator where a
file name stands and no redirection among the arguments. -/
structure Segment.WellFormed (s : Segment) : Prop where
  argv : ∀ w ∈ s.argv, IsWord w.toList ∧ w ∉ ["<", ">", ">>"]
  paths : ∀ path ∈ s.paths, IsWord path.toList ∧ path ∉ ["|", "<", ">", ">>", "&"]

/-- A plan whose line will be read as the plan. -/
structure Plan.WellFormed (p : Plan) : Prop where
  left : p.left.WellFormed
  /-- The first `|` of the line is the one between the sides. -/
  noPipe : "|" ∉ p.left.argv
  right : ∀ right ∈ p.right, right.WellFormed
  /-- A `&` at the end of a single program is taken for the background. -/
  single : p.right = none → p.background = true ∨ p.left.argv.getLast? ≠ some "&"
  /-- Behind a pipe it is refused. -/
  pipeline : ∀ right ∈ p.right, p.background = false ∧ right.argv.getLast? ≠ some "&"

/-! ## Words and their tokens -/

namespace Token

lemma redirection?_ofWord_eq_none_iff {w : String} :
    (ofWord w).redirection? = none ↔ w ∉ ["<", ">", ">>"] := by
  constructor
  · intro h hmem
    rcases List.mem_cons.1 hmem with rfl | hmem
    · exact absurd h (by decide)
    rcases List.mem_cons.1 hmem with rfl | hmem
    · exact absurd h (by decide)
    · rw [List.mem_singleton.1 hmem] at h
      exact absurd h (by decide)
  · intro h
    simp only [List.mem_cons, List.not_mem_nil, or_false, not_or] at h
    obtain ⟨hread, hwrite, happend⟩ := h
    unfold ofWord
    rw [if_neg hread, if_neg hwrite, if_neg happend]
    split
    · rfl
    split
    · rfl
    · rfl

lemma ofWord_eq_pipe_iff {w : String} : ofWord w = .pipe ↔ w = "|" := by
  constructor
  · intro h
    have htext := congrArg Token.text h
    rwa [text_ofWord] at htext
  · rintro rfl
    rfl

/-- An operator is read as what it is printed for. -/
lemma redirection?_ofWord_text (operator : Redirection) :
    (ofWord operator.text).redirection? = some operator := by
  cases operator <;> decide

end Token

/-! ## Reading what was written -/

namespace Draft

lemma ofTokens_words_append {ws : List String} {rest : List Token} {d : Draft}
    (hws : ∀ w ∈ ws, w ∉ ["<", ">", ">>"]) (hrest : ofTokens rest = .ok d) :
    ofTokens (ws.map Token.ofWord ++ rest) = .ok { d with words := ws ++ d.words } := by
  induction ws with
  | nil => exact hrest
  | cons w ws ih =>
    obtain ⟨hw, hws⟩ := List.forall_mem_cons.1 hws
    rw [List.map_cons, List.cons_append, ofTokens]
    simp only [Token.redirection?_ofWord_eq_none_iff.2 hw, ih hws, Token.text_ofWord]
    rfl

lemma ofTokens_redirect {operator : Redirection} {path : String} {rest : List Token} {d : Draft}
    (hpath : path ∉ ["|", "<", ">", ">>", "&"]) (hrest : ofTokens rest = .ok d) :
    ofTokens (Token.ofWord operator.text :: Token.ofWord path :: rest) =
      .ok (d.redirect operator path) := by
  rw [ofTokens]
  simp only [Token.redirection?_ofWord_text, Token.ofWord_eq_word_iff.2 hpath, hrest]
  rfl

/-- The redirection of the output is noted if none was noted before. -/
lemma ofTokens_outputWords_append {s : Segment} {rest : List Token} {d : Draft}
    (hs : s.WellFormed) (hrest : ofTokens rest = .ok d) (hd : d.output = none) :
    ofTokens (s.outputWords.map Token.ofWord ++ rest) = .ok { d with output := s.output } := by
  unfold Segment.outputWords
  cases ho : s.output with
  | none => exact hrest.trans (by rw [← hd])
  | some target =>
    have hpath := (hs.paths target.path (by simp [Segment.paths, ho])).2
    refine (ofTokens_redirect hpath hrest).trans ?_
    obtain ⟨path, mode⟩ := target
    cases mode <;> simp [redirect, OutputMode.redirection, hd]

lemma ofTokens_inputWords_append {s : Segment} {rest : List Token} {d : Draft}
    (hs : s.WellFormed) (hrest : ofTokens rest = .ok d) (hd : d.input = none) :
    ofTokens (s.inputWords.map Token.ofWord ++ rest) = .ok { d with input := s.input } := by
  unfold Segment.inputWords
  cases hi : s.input with
  | none => exact hrest.trans (by rw [← hd])
  | some path =>
    have hpath := (hs.paths path (by simp [Segment.paths, hi])).2
    refine (ofTokens_redirect hpath hrest).trans ?_
    simp [redirect, hd]

/-- A side that was written down is read as a draft of the segment, with what was written behind it
as further words. -/
lemma ofTokens_printed_append {s : Segment} {trailer : List String} (hs : s.WellFormed)
    (htrailer : ∀ w ∈ trailer, w ∉ ["<", ">", ">>"]) :
    ofTokens ((s.printed ++ trailer).map Token.ofWord) =
      .ok ⟨s.argv ++ trailer, s.input, s.output⟩ := by
  have behind : ofTokens (trailer.map Token.ofWord) = .ok { words := trailer } := by
    have hwords := ofTokens_words_append htrailer (show ofTokens [] = .ok {} from rfl)
    rwa [List.append_nil, List.append_nil] at hwords
  have output := ofTokens_outputWords_append hs behind rfl
  have input := ofTokens_inputWords_append hs output rfl
  rw [Segment.printed, List.map_append, List.map_append, List.map_append, List.append_assoc,
    List.append_assoc]
  exact ofTokens_words_append (fun w hw => (hs.argv w hw).2) input

end Draft

lemma Draft.argv_of_toSegment? {d : Draft} {s : Segment} (h : d.toSegment? = some s) :
    s.argv = d.words := by
  obtain ⟨ws, input, output⟩ := d
  cases ws with
  | nil => cases h
  | cons program arguments =>
    cases h
    rfl

lemma Draft.endsInAmpersand_iff {d : Draft} :
    d.endsInAmpersand = true ↔ d.words.getLast? = some "&" := by
  simp [endsInAmpersand, Token.text]

lemma Draft.endsInAmpersand_eq_false_iff {d : Draft} :
    d.endsInAmpersand = false ↔ d.words.getLast? ≠ some "&" := by
  rw [← Bool.not_eq_true, endsInAmpersand_iff]

/-- What a segment is written with: arguments, paths and operators. -/
lemma Segment.mem_printed {s : Segment} {w : String} (h : w ∈ s.printed) :
    w ∈ s.argv ∨ w ∈ s.paths ∨ ∃ operator : Redirection, w = operator.text := by
  unfold printed inputWords outputWords at h
  simp only [List.mem_append, List.mem_flatMap, Option.mem_toList, List.mem_cons,
    List.not_mem_nil, or_false] at h
  rcases h with h | ⟨path, hpath, rfl | rfl⟩ | ⟨target, htarget, rfl | rfl⟩
  · exact .inl h
  · exact .inr (.inr ⟨_, rfl⟩)
  · refine .inr (.inl ?_)
    simp [paths, Option.mem_def.1 hpath]
  · exact .inr (.inr ⟨_, rfl⟩)
  · refine .inr (.inl ?_)
    simp [paths, Option.mem_def.1 htarget]

/-- Nothing that a segment is written with is a `|`, unless it is one of the arguments. -/
lemma Segment.WellFormed.pipe_notMem_printed {s : Segment} (hs : s.WellFormed)
    (h : "|" ∉ s.argv) : "|" ∉ s.printed := by
  intro hmem
  rcases mem_printed hmem with hmem | hmem | ⟨operator, heq⟩
  · exact h hmem
  · exact (hs.paths "|" hmem).2 (by decide)
  · cases operator <;> exact absurd heq (by decide)

lemma Segment.WellFormed.isWord_of_mem_printed {s : Segment} (hs : s.WellFormed) {w : String}
    (h : w ∈ s.printed) : IsWord w.toList := by
  rcases mem_printed h with h | h | ⟨operator, rfl⟩
  · exact (hs.argv w h).1
  · exact (hs.paths w h).1
  · cases operator <;> decide

namespace Plan

variable {p : Plan}

/-- Every string that a plan is written with is a word. -/
lemma isWord_of_mem_printed (hp : p.WellFormed) : ∀ w ∈ p.printed, IsWord w.toList := by
  intro w hw
  unfold printed at hw
  simp only [List.mem_append, List.mem_flatMap, Option.mem_toList, List.mem_cons] at hw
  rcases hw with (hw | ⟨right, hright, rfl | hw⟩) | hw
  · exact hp.left.isWord_of_mem_printed hw
  · decide
  · exact (hp.right right hright).isWord_of_mem_printed hw
  · unfold trailer at hw
    split at hw
    · rw [List.mem_singleton.1 hw]
      decide
    · simp at hw

lemma ofSingle_printed (hp : p.WellFormed) (single : p.right = none) :
    ofSingle ((p.left.printed ++ p.trailer).map Token.ofWord) = .ok p := by
  have htrailer : ∀ w ∈ p.trailer, w ∉ ["<", ">", ">>"] := by
    unfold trailer
    split <;> decide
  have hdraft := Draft.ofTokens_printed_append hp.left htrailer
  obtain ⟨left, right, background⟩ := p
  obtain rfl : right = none := single
  unfold ofSingle
  rw [hdraft]
  -- in the background the printed `&` is dropped again, else there is none to be dropped
  cases background with
  | true =>
    have hends : Draft.endsInAmpersand ⟨left.argv ++ ["&"], left.input, left.output⟩ = true := by
      rw [Draft.endsInAmpersand_iff, List.getLast?_concat]
    have hdrop : Draft.dropLast ⟨left.argv ++ ["&"], left.input, left.output⟩ =
        ⟨left.argv, left.input, left.output⟩ := by
      rw [Draft.dropLast, List.dropLast_concat]
    simp only [trailer, if_true, bind, Except.bind, hends, hdrop]
    rfl
  | false =>
    have hlast := (hp.single rfl).resolve_left Bool.false_ne_true
    have hends : Draft.endsInAmpersand ⟨left.argv, left.input, left.output⟩ = false :=
      Draft.endsInAmpersand_eq_false_iff.2 hlast
    simp only [trailer, Bool.false_eq_true, if_false, List.append_nil, bind, Except.bind, hends]
    rfl

lemma ofPipeline_printed {right : Segment} (hp : p.WellFormed) (piped : p.right = some right) :
    ofPipeline (p.left.printed.map Token.ofWord) (right.printed.map Token.ofWord) = .ok p := by
  obtain ⟨hback, hlast⟩ := hp.pipeline right piped
  have hleft := Draft.ofTokens_printed_append hp.left (List.forall_mem_nil _)
  have hright := Draft.ofTokens_printed_append (hp.right right piped) (List.forall_mem_nil _)
  rw [List.append_nil, List.append_nil] at hleft hright
  have hends : Draft.endsInAmpersand ⟨right.argv, right.input, right.output⟩ = false :=
    Draft.endsInAmpersand_eq_false_iff.2 hlast
  obtain ⟨left, _, _⟩ := p
  cases piped
  cases hback
  simp only [ofPipeline, hleft, hright, bind, Except.bind, hends]
  rfl

lemma scan?_of_notMem {tokens : List Token} (hne : tokens ≠ []) (hpipe : .pipe ∉ tokens) :
    scan? tokens = (ofSingle tokens).map some := by
  have hall : tokens.dropWhile (· != .pipe) = [] := by
    rw [List.dropWhile_eq_nil_iff]
    intro token htoken
    exact bne_iff_ne.2 fun heq => hpipe (heq ▸ htoken)
  unfold scan?
  split
  · exact absurd rfl hne
  · rw [hall]
    cases ofSingle tokens <;> rfl

/-- The first pipe of a line stands between two programs. -/
theorem scan?_append_pipe {before after : List Token} (hbefore : .pipe ∉ before) :
    scan? (before ++ .pipe :: after) = (ofPipeline before after).map some := by
  have hall : ∀ token ∈ before, (token != .pipe) = true := by
    intro token htoken
    exact bne_iff_ne.2 fun heq => hbefore (heq ▸ htoken)
  unfold scan?
  split
  · rename_i hnil
    simp at hnil
  · rw [List.dropWhile_append_of_pos hall, List.takeWhile_append_of_pos hall]
    simp only [List.takeWhile_cons, List.dropWhile_cons, bne_self_eq_false, if_false,
      Bool.false_eq_true, List.append_nil]
    cases ofPipeline before after <;> rfl

/-- The tokens of a written plan are read as the plan. -/
lemma scan?_printed (hp : p.WellFormed) :
    scan? (p.printed.map Token.ofWord) = .ok (some p) := by
  -- a word is spelled `|` exactly if its token is the pipe
  have hnoPipe : ∀ {words : List String}, "|" ∉ words → .pipe ∉ words.map Token.ofWord := by
    intro words hwords hmem
    obtain ⟨w, hw, heq⟩ := List.mem_map.1 hmem
    exact hwords (Token.ofWord_eq_pipe_iff.1 heq ▸ hw)
  have hleft := hp.left.pipe_notMem_printed hp.noPipe
  cases hr : p.right with
  | none =>
    have hprinted : p.printed = p.left.printed ++ p.trailer := by simp [printed, hr]
    have hpipe : "|" ∉ p.left.printed ++ p.trailer := by
      rw [List.mem_append, not_or]
      refine ⟨hleft, ?_⟩
      unfold trailer
      split <;> decide
    rw [hprinted, scan?_of_notMem (by simp [Segment.printed, Segment.argv]) (hnoPipe hpipe),
      ofSingle_printed hp hr]
    rfl
  | some right =>
    have htrailer : p.trailer = [] := by simp [trailer, (hp.pipeline right hr).1]
    have hprinted : p.printed = p.left.printed ++ "|" :: right.printed := by
      simp [printed, hr, htrailer]
    rw [hprinted, List.map_append, List.map_cons, Token.ofWord_eq_pipe_iff.2 rfl,
      scan?_append_pipe (hnoPipe hleft), ofPipeline_printed hp hr]
    rfl

end Plan

/-! ## What is read can be written -/

lemma bind_eq_ok_iff {ε α β : Type} {x : Except ε α} {f : α → Except ε β} {b : β} :
    x >>= f = .ok b ↔ ∃ a, x = .ok a ∧ f a = .ok b := by
  cases x <;> simp [bind, Except.bind]

lemma map_eq_ok_iff {ε α β : Type} {x : Except ε α} {f : α → β} {b : β} :
    x.map f = .ok b ↔ ∃ a, x = .ok a ∧ f a = b := by
  cases x <;> simp [Except.map]

/-- Each string of a draft comes from a token: words from those that are no redirections, paths from
plain words. -/
structure Draft.From (tokens : List Token) (d : Draft) : Prop where
  words : ∀ w ∈ d.words, ∃ token ∈ tokens, token.redirection? = none ∧ token.text = w
  input : ∀ path ∈ d.input, Token.word path ∈ tokens
  output : ∀ target ∈ d.output, Token.word target.path ∈ tokens

namespace Draft.From

variable {tokens rest : List Token} {d : Draft}

lemma mono (h : d.From rest) (hsub : rest ⊆ tokens) : d.From tokens where
  words := by
    intro w hw
    obtain ⟨token, htoken, hplain, htext⟩ := h.words w hw
    exact ⟨token, hsub htoken, hplain, htext⟩
  input := fun path hpath => hsub (h.input path hpath)
  output := fun target htarget => hsub (h.output target htarget)

lemma push {token : Token} (h : d.From tokens) (hmem : token ∈ tokens)
    (hplain : token.redirection? = none) : (d.push token.text).From tokens where
  words := List.forall_mem_cons.2 ⟨⟨token, hmem, hplain, rfl⟩, h.words⟩
  input := h.input
  output := h.output

lemma dropLast (h : d.From tokens) : d.dropLast.From tokens where
  words := fun w hw => h.words w (List.dropLast_subset _ hw)
  input := h.input
  output := h.output

/-- What was noted is kept, and only else the new thing is noted. -/
lemma mem_orElse_some {α : Type} {noted : Option α} {a new : α}
    (h : a ∈ (noted <|> some new)) : a ∈ noted ∨ a = new := by
  cases noted with
  | none => exact .inr (by simpa using h.symm)
  | some old => exact .inl h

lemma redirect {operator : Redirection} {path : String} (h : d.From tokens)
    (hmem : .word path ∈ tokens) : (d.redirect operator path).From tokens := by
  obtain ⟨hwords, hinput, houtput⟩ := h
  cases operator with
  | read =>
    refine ⟨hwords, ?_, houtput⟩
    intro path' hpath
    rcases mem_orElse_some hpath with hpath | rfl
    · exact hinput path' hpath
    · exact hmem
  | write =>
    refine ⟨hwords, hinput, ?_⟩
    intro target htarget
    rcases mem_orElse_some htarget with htarget | rfl
    · exact houtput target htarget
    · exact hmem
  | append =>
    refine ⟨hwords, hinput, ?_⟩
    intro target htarget
    rcases mem_orElse_some htarget with htarget | rfl
    · exact houtput target htarget
    · exact hmem

lemma of_ofTokens (h : ofTokens tokens = .ok d) : d.From tokens := by
  fun_induction ofTokens tokens generalizing d with
  | case1 =>
    cases h
    exact ⟨by simp, by simp, by simp⟩
  | case2 token rest hplain ih =>
    obtain ⟨d', hrest, hd⟩ := bind_eq_ok_iff.1 h
    cases hd
    exact ((ih hrest).mono (List.subset_cons_self _ _)).push List.mem_cons_self hplain
  | case3 token operator hred path rest ih =>
    obtain ⟨d', hrest, hd⟩ := bind_eq_ok_iff.1 h
    cases hd
    refine ((ih hrest).mono ?_).redirect (by simp)
    intro t ht
    exact List.mem_cons_of_mem _ (List.mem_cons_of_mem _ ht)
  | case4 => cases h

/-- A segment whose strings are those of a draft can be written down. -/
theorem wellFormed {s : Segment} (h : d.From tokens) (lexed : ∀ token ∈ tokens, token.Lexed)
    (hsegment : d.toSegment? = some s) : s.WellFormed ∧ (.pipe ∉ tokens → "|" ∉ s.argv) := by
  obtain ⟨ws, input, output⟩ := d
  cases ws with
  | nil => cases hsegment
  | cons program arguments =>
    cases hsegment
    refine ⟨⟨?_, ?_⟩, ?_⟩
    -- each word of the segment is the text of a token, which says how it is spelled
    · intro w hw
      obtain ⟨token, htoken, hplain, rfl⟩ := h.words w hw
      refine ⟨(lexed token htoken).isWord, ?_⟩
      rw [← Token.redirection?_ofWord_eq_none_iff, (lexed token htoken).ofWord_text]
      exact hplain
    · intro path hpath
      have hmem : Token.word path ∈ tokens := by
        rcases List.mem_append.1 hpath with hpath | hpath
        · exact h.input path (Option.mem_toList.1 hpath)
        · obtain ⟨target, htarget, rfl⟩ := List.mem_map.1 hpath
          exact h.output target (Option.mem_toList.1 htarget)
      exact ⟨(lexed _ hmem).isWord, Token.ofWord_eq_word_iff.1 (lexed _ hmem).ofWord_text⟩
    · intro hpipe hmem
      obtain ⟨token, htoken, -, htext⟩ := h.words "|" hmem
      have heq := (lexed token htoken).ofWord_text
      rw [htext, Token.ofWord_eq_pipe_iff.2 rfl] at heq
      exact hpipe (heq ▸ htoken)

end Draft.From

namespace Plan

variable {p : Plan} {tokens before after : List Token}

/-- A line without a pipe is read as a plan that can be written down. -/
lemma wellFormed_of_ofSingle (lexed : ∀ token ∈ tokens, token.Lexed) (hpipe : .pipe ∉ tokens)
    (h : ofSingle tokens = .ok p) : p.WellFormed := by
  obtain ⟨d, hd, hrest⟩ := bind_eq_ok_iff.1 h
  have hfrom := Draft.From.of_ofTokens hd
  dsimp only at hrest
  -- one segment has been made, with or without a final `&`, of the words that were kept
  cases hends : d.endsInAmpersand with
  | true =>
    rw [hends, if_pos rfl] at hrest
    cases hs : d.dropLast.toSegment? with
    | none => simp [hs] at hrest
    | some left =>
      simp only [hs, Except.ok.injEq] at hrest
      subst hrest
      obtain ⟨hleft, hnoPipe⟩ := hfrom.dropLast.wellFormed lexed hs
      exact ⟨hleft, hnoPipe hpipe, by simp, fun _ => .inl rfl, by simp⟩
  | false =>
    rw [hends, if_neg Bool.false_ne_true] at hrest
    cases hs : d.toSegment? with
    | none => simp [hs] at hrest
    | some left =>
      simp only [hs, Except.ok.injEq] at hrest
      subst hrest
      obtain ⟨hleft, hnoPipe⟩ := hfrom.wellFormed lexed hs
      refine ⟨hleft, hnoPipe hpipe, by simp, fun _ => .inr ?_, by simp⟩
      rw [Draft.argv_of_toSegment? hs]
      exact Draft.endsInAmpersand_eq_false_iff.1 hends

lemma wellFormed_of_ofPipeline (hbefore : ∀ token ∈ before, token.Lexed)
    (hafter : ∀ token ∈ after, token.Lexed) (hpipe : .pipe ∉ before)
    (h : ofPipeline before after = .ok p) : p.WellFormed := by
  obtain ⟨l, hl, hrest⟩ := bind_eq_ok_iff.1 h
  cases hleft : l.toSegment? with
  | none => simp [hleft] at hrest
  | some left =>
    simp only [hleft] at hrest
    obtain ⟨r, hr, hrest⟩ := bind_eq_ok_iff.1 hrest
    cases hends : r.endsInAmpersand with
    | true => simp [hends] at hrest
    | false =>
      cases hright : r.toSegment? with
      | none => simp [hends, hright] at hrest
      | some right =>
        simp only [hends, hright, Bool.false_eq_true, if_false, Except.ok.injEq] at hrest
        subst hrest
        obtain ⟨hl, hnoPipe⟩ := (Draft.From.of_ofTokens hl).wellFormed hbefore hleft
        obtain ⟨hr, -⟩ := (Draft.From.of_ofTokens hr).wellFormed hafter hright
        refine ⟨hl, hnoPipe hpipe, ?_, by simp, ?_⟩
        · rintro _ ⟨⟩
          exact hr
        · rintro _ ⟨⟩
          refine ⟨rfl, ?_⟩
          rw [Draft.argv_of_toSegment? hright]
          exact Draft.endsInAmpersand_eq_false_iff.1 hends

lemma wellFormed_of_scan? (lexed : ∀ token ∈ tokens, token.Lexed)
    (h : scan? tokens = .ok (some p)) : p.WellFormed := by
  by_cases hpipe : .pipe ∈ tokens
  · obtain ⟨before, after, rfl, hbefore⟩ := List.eq_append_cons_of_mem hpipe
    rw [scan?_append_pipe hbefore] at h
    obtain ⟨plan, hplan, hp⟩ := map_eq_ok_iff.1 h
    obtain rfl : plan = p := by simpa using hp
    refine wellFormed_of_ofPipeline ?_ ?_ hbefore hplan
    · intro token htoken
      exact lexed token (by simp [htoken])
    · intro token htoken
      exact lexed token (by simp [htoken])
  · have hne : tokens ≠ [] := by
      rintro rfl
      cases h
    rw [scan?_of_notMem hne hpipe] at h
    obtain ⟨plan, hplan, hp⟩ := map_eq_ok_iff.1 h
    obtain rfl : plan = p := by simpa using hp
    exact wellFormed_of_ofSingle lexed hpipe hplan

/-! ## Lines and plans -/

/-- The plans that lines have are the well-formed ones, whatever the cap on tokens is. A well-formed
plan that is written down is cut into the words it was written with, if the cap allows, and read
back as itself. -/
theorem image_eq_wellFormed (p : Plan) :
    ((∃ line maxArgs tokens, tokenize line maxArgs = .ok tokens ∧ scan? tokens = .ok (some p)) ↔
      p.WellFormed) ∧
    (p.WellFormed → ∀ maxArgs, p.printed.length < maxArgs →
      tokenize p.line maxArgs = .ok (p.printed.map Token.ofWord) ∧
        scan? (p.printed.map Token.ofWord) = .ok (some p)) := by
  have reads : p.WellFormed → ∀ maxArgs, p.printed.length < maxArgs →
      tokenize p.line maxArgs = .ok (p.printed.map Token.ofWord) ∧
        scan? (p.printed.map Token.ofWord) = .ok (some p) := by
    intro hp maxArgs hfits
    have hlex := lex_intercalate (isWord_of_mem_printed hp)
    refine ⟨tokenize_eq_ok_iff.2 ⟨hlex, ?_⟩, scan?_printed hp⟩
    rw [List.length_map]
    omega
  refine ⟨⟨?_, ?_⟩, reads⟩
  · rintro ⟨line, maxArgs, tokens, htokens, hscan⟩
    obtain ⟨rfl, -⟩ := tokenize_eq_ok_iff.1 htokens
    exact wellFormed_of_scan? (fun token => lexed_of_mem_lex) hscan
  · intro hp
    obtain ⟨htokens, hscan⟩ := reads hp (p.printed.length + 1) (Nat.lt_succ_self _)
    exact ⟨p.line, _, _, htokens, hscan⟩

/-- `& a>b | & | &x < in >> out`, where only the first `|` and the redirections are operators -/
def crowded : Plan where
  left := { program := "&", arguments := ["a>b"] }
  right := some
    { program := "&", arguments := ["|", "&x"], input := some "in"
      output := some ⟨"out", .append⟩ }

theorem image_eq_wellFormed_crowded :
    crowded.WellFormed ∧ crowded.printed.length < 12 ∧
      tokenize crowded.line 12 = .ok (crowded.printed.map Token.ofWord) ∧
        scan? (crowded.printed.map Token.ofWord) = .ok (some crowded) := by
  have written : crowded.WellFormed := by
    refine ⟨⟨by decide, by decide⟩, by decide, ?_, by decide, ?_⟩
    · rintro right ⟨⟩
      exact ⟨by decide, by decide⟩
    · rintro right ⟨⟩
      exact ⟨rfl, by decide⟩
  have fits : crowded.printed.length < 12 := by decide
  exact ⟨written, fits, (image_eq_wellFormed crowded).2 written 12 fits⟩

end Plan

end CommandShell
