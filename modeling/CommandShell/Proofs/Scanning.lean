import CommandShell.Proofs.Sides

/-!
# Which lines have a plan, and which plan

The two halves of what scanning a line means. `Plan.scan?_verdict` says which lines are refused, and
for what: the faults of a line are listed in the order in which they are looked for, and a line is
refused for the first of them or has a plan if there are none. `Plan.scan?_tells` says what the plan
of a line is: each side is told in full by the segment made of it, so that lines whose sides come to
the same have the same plan, wherever their redirections stand.

Both are read off two statements on what becomes of a line without a pipe and of one with a pipe
(`Plan.ofSingle_cases`, `Plan.ofPipeline_cases`).
-/

namespace CommandShell

open Tokens

namespace Draft

variable {d : Draft} {s : Segment}

lemma toSegment?_eq_none_iff : d.toSegment? = none ↔ d.words = [] := by
  obtain ⟨words, input, output⟩ := d
  cases words <;> simp [toSegment?]

lemma toSegment?_eq_some_iff : d.toSegment? = some s ↔ d = ⟨s.argv, s.input, s.output⟩ := by
  obtain ⟨words, input, output⟩ := d
  obtain ⟨program, arguments, input', output'⟩ := s
  cases words <;> simp [toSegment?, Segment.argv, and_assoc]

end Draft

namespace Tokens

/-- The arguments of a side without one `&` at the end. -/
def withoutAmpersand (side : List Token) : List Token :=
  if EndsInAmpersand side then (arguments side).dropLast else arguments side

/-- The gist of a side tells whether the last of the arguments is a `&`. -/
lemma endsInAmpersand_gist (side : List Token) :
    (gist side).endsInAmpersand = true ↔ EndsInAmpersand side := by
  rw [Draft.endsInAmpersand_iff, EndsInAmpersand, gist, List.getLast?_map]

/-- What a line without a pipe comes to: a `&` at the end is no argument. -/
def lineGist (side : List Token) : Draft :=
  { gist side with words := (withoutAmpersand side).map Token.text }

lemma lineGist_eq (side : List Token) :
    (if (gist side).endsInAmpersand then (gist side).dropLast else gist side) = lineGist side := by
  by_cases h : EndsInAmpersand side
  · rw [if_pos ((endsInAmpersand_gist side).2 h), lineGist, withoutAmpersand, if_pos h]
    simp [Draft.dropLast, gist]
  · rw [if_neg (mt (endsInAmpersand_gist side).1 h), lineGist, withoutAmpersand, if_neg h]
    rfl

lemma toSegment?_gist_eq_none_iff {side : List Token} :
    (gist side).toSegment? = none ↔ arguments side = [] := by
  rw [Draft.toSegment?_eq_none_iff, gist, List.map_eq_nil_iff]

lemma arguments_ne_nil {side : List Token} {s : Segment} (h : (gist side).toSegment? = some s) :
    arguments side ≠ [] :=
  mt toSegment?_gist_eq_none_iff.2 (by simp [h])

lemma toSegment?_lineGist_eq_none_iff {side : List Token} :
    (lineGist side).toSegment? = none ↔ withoutAmpersand side = [] := by
  rw [Draft.toSegment?_eq_none_iff, lineGist, List.map_eq_nil_iff]

lemma withoutAmpersand_ne_nil {side : List Token} {s : Segment}
    (h : (lineGist side).toSegment? = some s) : withoutAmpersand side ≠ [] :=
  mt toSegment?_lineGist_eq_none_iff.2 (by simp [h])

lemma ofTokens_of_sound {side : List Token} (h : Sound side) :
    Draft.ofTokens side = .ok (gist side) := by
  rw [Draft.ofTokens_eq, dangling_eq_nil_iff.2 h]
  rfl

/-- A side that is not sound is refused for the first operator that dangles. -/
lemma ofTokens_of_dangling {side : List Token} {operator : Redirection}
    (h : (dangling side).head? = some operator) :
    Draft.ofTokens side = .error (.missingTarget operator) := by
  rw [Draft.ofTokens_eq, h]

lemma dangling_or_sound (side : List Token) :
    (∃ operator, (dangling side).head? = some operator) ∨ Sound side := by
  cases h : dangling side with
  | nil => exact .inr (dangling_eq_nil_iff.1 h)
  | cons operator _ => exact .inl ⟨operator, rfl⟩

end Tokens

namespace Plan

/-! ## The faults of a line -/

/-- What is wrong with a line without a pipe, in the order in which it is looked for. -/
def singleFaults (tokens : List Token) : List PlanError :=
  (dangling tokens).map .missingTarget ++
    if withoutAmpersand tokens = [] then [.emptyCommand] else []

/-- What is wrong with a line that has its first pipe between `before` and `after`, in the order in
which it is looked for. -/
def pipelineFaults (before after : List Token) : List PlanError :=
  (dangling before).map .missingTarget ++
    (if arguments before = [] then [.emptySide .left] else []) ++
      (dangling after).map .missingTarget ++
        (if EndsInAmpersand after then [.backgroundPipeline] else []) ++
          if arguments after = [] then [.emptySide .right] else []

variable {tokens before after : List Token} {p : Plan} {e : PlanError}

/-- A line without a pipe is refused for its first fault, or it has none and its plan is made of
what it comes to. -/
theorem ofSingle_cases (tokens : List Token) :
    (∃ e, (singleFaults tokens).head? = some e ∧ ofSingle tokens = .error e) ∨
      singleFaults tokens = [] ∧ ∃ left, (lineGist tokens).toSegment? = some left ∧
        ofSingle tokens = .ok { left, background := (gist tokens).endsInAmpersand } := by
  rcases dangling_or_sound tokens with ⟨operator, dangles⟩ | sound
  · refine .inl ⟨.missingTarget operator, ?_, ?_⟩
    · simp [singleFaults, dangles]
    · rw [ofSingle, ofTokens_of_dangling dangles]
      rfl
  · rw [ofSingle, ofTokens_of_sound sound, singleFaults, dangling_eq_nil_iff.2 sound]
    cases hleft : (lineGist tokens).toSegment? with
    | none =>
      rw [if_pos (toSegment?_lineGist_eq_none_iff.1 hleft)]
      exact .inl ⟨.emptyCommand, rfl, by simp [bind, Except.bind, lineGist_eq, hleft]⟩
    | some left =>
      rw [if_neg (withoutAmpersand_ne_nil hleft)]
      exact .inr ⟨rfl, left, rfl, by simp [bind, Except.bind, lineGist_eq, hleft]⟩

/-- A line with a pipe is refused for its first fault, or it has none and its plan is made of what
the sides come to. -/
theorem ofPipeline_cases (before after : List Token) :
    (∃ e, (pipelineFaults before after).head? = some e ∧ ofPipeline before after = .error e) ∨
      pipelineFaults before after = [] ∧ ∃ left right, (gist before).toSegment? = some left ∧
        (gist after).toSegment? = some right ∧
          ofPipeline before after = .ok { left, right := some right } := by
  -- the checks one by one, in the order in which they are made
  rcases dangling_or_sound before with ⟨operator, dangles⟩ | sound
  · refine .inl ⟨.missingTarget operator, ?_, ?_⟩
    · simp [pipelineFaults, dangles]
    · rw [ofPipeline, ofTokens_of_dangling dangles]
      rfl
  rw [pipelineFaults, dangling_eq_nil_iff.2 sound, ofPipeline, ofTokens_of_sound sound]
  cases hleft : (gist before).toSegment? with
  | none =>
    rw [if_pos (toSegment?_gist_eq_none_iff.1 hleft)]
    exact .inl ⟨.emptySide .left, rfl, by simp [bind, Except.bind, hleft]⟩
  | some left =>
  rw [if_neg (arguments_ne_nil hleft)]
  simp only [bind, Except.bind, hleft]
  rcases dangling_or_sound after with ⟨operator, dangles⟩ | sound
  · refine .inl ⟨.missingTarget operator, by simp [dangles], ?_⟩
    rw [ofTokens_of_dangling dangles]
  rw [dangling_eq_nil_iff.2 sound, ofTokens_of_sound sound]
  by_cases hends : EndsInAmpersand after
  · rw [if_pos hends]
    refine .inl ⟨.backgroundPipeline, rfl, ?_⟩
    simp [(endsInAmpersand_gist after).2 hends]
  rw [if_neg hends]
  simp only [mt (endsInAmpersand_gist after).1 hends]
  cases hright : (gist after).toSegment? with
  | none =>
    rw [if_pos (toSegment?_gist_eq_none_iff.1 hright)]
    exact .inl ⟨.emptySide .right, rfl, rfl⟩
  | some right =>
    rw [if_neg (arguments_ne_nil hright)]
    exact .inr ⟨rfl, left, right, rfl, rfl, rfl⟩

/-! ## Which lines have a plan -/

/-- A line that is refused for the first of its faults has a plan if it has none. -/
lemma scan?_iff_of_cases {read : Except PlanError Plan} {faults : List PlanError}
    (hscan : scan? tokens = read.map some)
    (h : (∃ e, faults.head? = some e ∧ read = .error e) ∨ faults = [] ∧ ∃ p, read = .ok p) :
    ((∃ p, scan? tokens = .ok (some p)) ↔ faults = []) ∧
      ∀ e, scan? tokens = .error e ↔ faults.head? = some e := by
  rw [hscan]
  rcases h with ⟨e, first, rfl⟩ | ⟨rfl, p, rfl⟩
  · have some_fault : faults ≠ [] := by
      rintro rfl
      simp at first
    simp [Except.map, some_fault, first]
  · simp [Except.map]

lemma singleFaults_eq_nil_iff :
    singleFaults tokens = [] ↔ Sound tokens ∧ withoutAmpersand tokens ≠ [] := by
  simp [singleFaults, dangling_eq_nil_iff]

lemma pipelineFaults_eq_nil_iff :
    pipelineFaults before after = [] ↔ Sound before ∧ Sound after ∧ arguments before ≠ [] ∧
      arguments after ≠ [] ∧ ¬ EndsInAmpersand after := by
  simp only [pipelineFaults, List.append_eq_nil_iff, List.map_eq_nil_iff, dangling_eq_nil_iff,
    ite_eq_right_iff, reduceCtorEq, imp_false]
  constructor
  · rintro ⟨⟨⟨⟨left, named⟩, right⟩, foreground⟩, named'⟩
    exact ⟨left, right, named, named', foreground⟩
  · rintro ⟨left, right, named, named', foreground⟩
    exact ⟨⟨⟨⟨left, named⟩, right⟩, foreground⟩, named'⟩

lemma scan?_eq_ok_none_iff : scan? tokens = .ok none ↔ tokens = [] := by
  constructor
  · intro h
    unfold scan? at h
    split at h
    · rfl
    · split at h
      · obtain ⟨_, -, hnone⟩ := bind_eq_ok_iff.1 h
        cases hnone
      · obtain ⟨_, -, hnone⟩ := bind_eq_ok_iff.1 h
        cases hnone
  · rintro rfl
    rfl

/-- **Scanning accepts exactly the lines without faults, and tells the first fault of any other.**
Without a pipe, the operators have to have their targets, and there has to be an argument besides
one `&` at the end. With a pipe, that is asked of the left side and then of the right one, where an
`&` at the end is refused. Only the blank line has neither a plan nor a fault. -/
theorem scan?_verdict (tokens : List Token) :
    (scan? tokens = .ok none ↔ tokens = []) ∧
    (tokens ≠ [] → .pipe ∉ tokens →
      ((∃ p, scan? tokens = .ok (some p)) ↔ Sound tokens ∧ withoutAmpersand tokens ≠ []) ∧
        ∀ e, scan? tokens = .error e ↔ (singleFaults tokens).head? = some e) ∧
    ∀ before after, tokens = before ++ .pipe :: after → .pipe ∉ before →
      ((∃ p, scan? tokens = .ok (some p)) ↔ Sound before ∧ Sound after ∧ arguments before ≠ [] ∧
        arguments after ≠ [] ∧ ¬ EndsInAmpersand after) ∧
        ∀ e, scan? tokens = .error e ↔ (pipelineFaults before after).head? = some e := by
  refine ⟨scan?_eq_ok_none_iff, fun hne hpipe => ?_, ?_⟩
  · rw [← singleFaults_eq_nil_iff]
    refine scan?_iff_of_cases (scan?_of_notMem hne hpipe) ?_
    exact (ofSingle_cases tokens).imp_right fun ⟨faultless, _, _, read⟩ => ⟨faultless, _, read⟩
  · rintro before after rfl hbefore
    rw [← pipelineFaults_eq_nil_iff]
    refine scan?_iff_of_cases (scan?_append_pipe hbefore) ?_
    exact (ofPipeline_cases before after).imp_right
      fun ⟨faultless, _, _, _, _, read⟩ => ⟨faultless, _, read⟩

/-- `> a & >> b &`, where the last `&` alone is for the background -/
def orderly : List Token :=
  [.write, .word "a", .background, .append, .word "b", .background]

/-- `ls > a | cat >> | < &`, where everything is wrong with the right side -/
def tangled : List Token :=
  [.word "ls", .write, .word "a", .pipe, .word "cat", .append, .pipe, .read, .background]

theorem scan?_verdict_tangled :
    (orderly ≠ [] ∧ .pipe ∉ orderly ∧ ∃ p, scan? orderly = .ok (some p)) ∧
      ∃ before after, tangled = before ++ .pipe :: after ∧ .pipe ∉ before ∧ ¬ Sound after ∧
        EndsInAmpersand after ∧ scan? tangled = .error (.missingTarget .append) := by
  constructor
  · have hne : orderly ≠ [] := by decide
    have hpipe : .pipe ∉ orderly := by decide
    have verdict := (scan?_verdict orderly).2.1 hne hpipe
    exact ⟨hne, hpipe, verdict.1.2 ⟨dangling_eq_nil_iff.1 rfl, by decide⟩⟩
  · let before : List Token := [.word "ls", .write, .word "a"]
    let after : List Token := [.word "cat", .append, .pipe, .read, .background]
    have hbefore : .pipe ∉ before := by decide
    have verdict := (scan?_verdict tangled).2.2 before after rfl hbefore
    have unsound : ¬ Sound after := by
      rw [← dangling_eq_nil_iff]
      decide
    exact ⟨before, after, rfl, hbefore, unsound, by decide, (verdict.2 _).2 rfl⟩

/-! ## Which plan a line has -/

/-- The sides of a line. Only the first pipe is between two of them. -/
def sides (tokens : List Token) : List (List Token) :=
  tokens.takeWhile (· != .pipe) ::
    match tokens.dropWhile (· != .pipe) with
    | [] => []
    | _ :: after => [after]

lemma sides_of_notMem (hpipe : .pipe ∉ tokens) : sides tokens = [tokens] := by
  have hall : ∀ token ∈ tokens, (token != .pipe) = true := by
    intro token htoken
    exact bne_iff_ne.2 fun heq => hpipe (heq ▸ htoken)
  rw [sides, List.takeWhile_eq_self_iff.2 hall, List.dropWhile_eq_nil_iff.2 hall]

lemma sides_append_pipe (hbefore : .pipe ∉ before) :
    sides (before ++ .pipe :: after) = [before, after] := by
  have hall : ∀ token ∈ before, (token != .pipe) = true := by
    intro token htoken
    exact bne_iff_ne.2 fun heq => hbefore (heq ▸ htoken)
  rw [sides, List.takeWhile_append_of_pos hall, List.dropWhile_append_of_pos hall]
  simp

/-- A line without a pipe has one side, and any other line has two. -/
theorem sides_cases (tokens : List Token) :
    (.pipe ∉ tokens ∧ sides tokens = [tokens]) ∨ ∃ before after,
      tokens = before ++ .pipe :: after ∧ .pipe ∉ before ∧ sides tokens = [before, after] := by
  by_cases hpipe : .pipe ∈ tokens
  · obtain ⟨before, after, rfl, hbefore⟩ := List.eq_append_cons_of_mem hpipe
    exact .inr ⟨before, after, rfl, hbefore, sides_append_pipe hbefore⟩
  · exact .inl ⟨hpipe, sides_of_notMem hpipe⟩

end Plan

/-- A segment tells a side in full: the arguments are those of the segment and `more`, the last
redirection of each direction is that of the segment, and nothing else stands on the side than these
arguments and redirections with their targets. -/
structure Segment.Tells (s : Segment) (side : List Token) (more : List String) : Prop where
  argv : s.argv ++ more = (Tokens.arguments side).map Token.text
  input : s.input = lastInput? side
  output : s.output = lastOutput? side
  complete : side.Perm (Tokens.arguments side ++ (redirections side).flatMap ofRedirection)

namespace Plan

lemma tells_of_gist {side : List Token} {s : Segment} (sound : Sound side)
    (h : (gist side).toSegment? = some s) : s.Tells side [] := by
  obtain ⟨hargv, hinput, houtput⟩ := Draft.mk.inj (Draft.toSegment?_eq_some_iff.1 h)
  exact ⟨by rw [List.append_nil, hargv], hinput.symm, houtput.symm, sound.perm⟩

/-- The segment of a line without a pipe leaves out what puts it into the background. -/
theorem tells_of_lineGist {side : List Token} {s : Segment} (sound : Sound side)
    (h : (lineGist side).toSegment? = some s) :
    s.Tells side ({ left := s, background := (gist side).endsInAmpersand } : Plan).trailer := by
  obtain ⟨hargv, hinput, houtput⟩ := Draft.mk.inj (Draft.toSegment?_eq_some_iff.1 h)
  refine ⟨?_, hinput.symm, houtput.symm, sound.perm⟩
  rw [← hargv, trailer, withoutAmpersand]
  by_cases hends : EndsInAmpersand side
  · obtain ⟨front, hfront⟩ := List.getLast?_eq_some_iff.1 ((List.getLast?_map ..).trans hends)
    rw [if_pos hends, if_pos ((endsInAmpersand_gist side).2 hends), List.map_dropLast, hfront,
      List.dropLast_concat]
  · rw [if_neg hends, if_neg (mt (endsInAmpersand_gist side).1 hends), List.append_nil]

/-- The plan of a line without a pipe. -/
theorem eq_of_scan?_of_notMem (hpipe : .pipe ∉ tokens) (h : scan? tokens = .ok (some p)) :
    Sound tokens ∧ (lineGist tokens).toSegment? = some p.left ∧
      p = { left := p.left, background := (gist tokens).endsInAmpersand } := by
  have hne : tokens ≠ [] := by
    rintro rfl
    cases h
  rw [scan?_of_notMem hne hpipe] at h
  rcases ofSingle_cases tokens with ⟨e, -, read⟩ | ⟨faultless, left, hleft, read⟩
  · rw [read] at h
    cases h
  · rw [read] at h
    cases h
    exact ⟨(singleFaults_eq_nil_iff.1 faultless).1, hleft, rfl⟩

/-- The plan of a line with a pipe. -/
theorem eq_of_scan?_append_pipe (hbefore : .pipe ∉ before)
    (h : scan? (before ++ .pipe :: after) = .ok (some p)) :
    Sound before ∧ Sound after ∧ ∃ right, (gist before).toSegment? = some p.left ∧
      (gist after).toSegment? = some right ∧ p = { left := p.left, right := some right } := by
  rw [scan?_append_pipe hbefore] at h
  rcases ofPipeline_cases before after with ⟨e, -, read⟩ | ⟨faultless, left, right, hl, hr, read⟩
  · rw [read] at h
    cases h
  · rw [read] at h
    cases h
    obtain ⟨soundBefore, soundAfter, -⟩ := pipelineFaults_eq_nil_iff.1 faultless
    exact ⟨soundBefore, soundAfter, right, hl, hr, rfl⟩

/-- Lines whose sides come to the same have the same plan. -/
lemma eq_of_gists_eq {tokens' : List Token} {p' : Plan} (h : scan? tokens = .ok (some p))
    (h' : scan? tokens' = .ok (some p'))
    (same : (sides tokens).map gist = (sides tokens').map gist) : p = p' := by
  rcases sides_cases tokens with ⟨hpipe, hsides⟩ | ⟨before, after, rfl, hbefore, hsides⟩ <;>
    rcases sides_cases tokens' with
      ⟨hpipe', hsides'⟩ | ⟨before', after', rfl, hbefore', hsides'⟩ <;>
    rw [hsides, hsides'] at same
  · have same : gist tokens = gist tokens' := by simpa using same
    obtain ⟨-, hleft, hp⟩ := eq_of_scan?_of_notMem hpipe h
    obtain ⟨-, hleft', hp'⟩ := eq_of_scan?_of_notMem hpipe' h'
    rw [← lineGist_eq, same, lineGist_eq, hleft'] at hleft
    rw [hp, hp', same, Option.some.inj hleft]
  · simp at same
  · simp at same
  · have same : gist before = gist before' ∧ gist after = gist after' := by simpa using same
    obtain ⟨-, -, right, hleft, hright, hp⟩ := eq_of_scan?_append_pipe hbefore h
    obtain ⟨-, -, right', hleft', hright', hp'⟩ := eq_of_scan?_append_pipe hbefore' h'
    rw [same.1, hleft'] at hleft
    rw [same.2, hright'] at hright
    rw [hp, hp', Option.some.inj hleft, Option.some.inj hright]

/-- **A plan tells its line in full.** Only the first pipe splits a line. Each side is told by the
segment made of it: its arguments in the order in which they were typed, the last `<`, the last one
among `>` and `>>`, and nothing else stands there. A `&` is left out if there is no pipe and it is
the last argument, and then the plan is for the background. So two lines whose sides have the same
arguments and the same last redirections have the same plan. -/
theorem scan?_tells (h : scan? tokens = .ok (some p)) :
    (.pipe ∉ tokens → p.right = none ∧ p.left.Tells tokens p.trailer ∧
      (p.background = true ↔ EndsInAmpersand tokens)) ∧
    (∀ before after, tokens = before ++ .pipe :: after → .pipe ∉ before →
      p.background = false ∧ p.left.Tells before [] ∧
        ∃ right, p.right = some right ∧ right.Tells after []) ∧
    ∀ tokens' p', scan? tokens' = .ok (some p') →
      (sides tokens).map gist = (sides tokens').map gist → p = p' := by
  refine ⟨fun hpipe => ?_, ?_, fun tokens' p' h' same => eq_of_gists_eq h h' same⟩
  · obtain ⟨sound, hleft, hp⟩ := eq_of_scan?_of_notMem hpipe h
    rw [hp]
    exact ⟨rfl, tells_of_lineGist sound hleft, endsInAmpersand_gist tokens⟩
  · rintro before after rfl hbefore
    obtain ⟨soundBefore, soundAfter, right, hleft, hright, hp⟩ :=
      eq_of_scan?_append_pipe hbefore h
    rw [hp]
    exact ⟨rfl, tells_of_gist soundBefore hleft, right, rfl, tells_of_gist soundAfter hright⟩

/-- `cat > x < a & >> y | > z wc | < b >> w` -/
def scattered : List Token :=
  [.word "cat", .write, .word "x", .read, .word "a", .background, .append, .word "y", .pipe,
    .write, .word "z", .word "wc", .pipe, .read, .word "b", .append, .word "w"]

/-- `cat & < a >> y | wc | < c < b >> w` -/
def gathered : List Token :=
  [.word "cat", .background, .read, .word "a", .append, .word "y", .pipe, .word "wc", .pipe,
    .read, .word "c", .read, .word "b", .append, .word "w"]

theorem scan?_tells_scattered :
    ∃ p p' before after, scan? scattered = .ok (some p) ∧ scan? gathered = .ok (some p') ∧
      scattered = before ++ .pipe :: after ∧ .pipe ∉ before ∧ p.left.Tells before [] ∧
      (∃ right, p.right = some right ∧ right.Tells after []) ∧
      (sides scattered).map gist = (sides gathered).map gist ∧ p = p' := by
  let left : Segment := ⟨"cat", ["&"], some "a", some ⟨"y", .append⟩⟩
  let right : Segment := ⟨"wc", ["|"], some "b", some ⟨"w", .append⟩⟩
  have read : scan? scattered = .ok (some { left, right := some right }) := rfl
  have read' : scan? gathered = .ok (some { left, right := some right }) := rfl
  have same : (sides scattered).map gist = (sides gathered).map gist := by decide
  have hbefore : .pipe ∉ scattered.take 8 := by decide
  obtain ⟨-, pipeline, alike⟩ := scan?_tells read
  obtain ⟨-, tellsLeft, tellsRight⟩ := pipeline (scattered.take 8) (scattered.drop 9) rfl hbefore
  exact ⟨_, _, _, _, read, read', rfl, hbefore, tellsLeft, tellsRight, same,
    alike gathered _ read' same⟩

end Plan

end CommandShell
