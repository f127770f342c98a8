import CommandShell.Proofs.PlanText

/-!
# The sides of a line

What one side of a line says, told by the places of its tokens. A `Spot` is a token with what stands
right before it and right after it, and that is enough to know what the token is there for: an
operator with a file name, an operator without one, a file name, or an argument. The arguments, the
redirections and the dangling operators of a side are its spots of these kinds, in the order in
which they were typed.

`Draft.ofTokens` goes through a side in steps of one token or two. `Draft.ofTokens_eq` says that it
comes to the same: a side with a dangling operator is refused for the first of them, and any other
side is gathered into its arguments and the last redirection of each direction. No token is lost on
the way (`Tokens.Sound.perm`).
-/

namespace CommandShell

/-! ## Tokens in their places -/

/-- The path that a token names, if it can stand behind a redirection operator. -/
def Token.path? : Token → Option String
  | .word path => some path
  | _ => none

/-- A token of a side, with its neighbours. -/
structure Spot where
  /-- The redirection operator that stands right before it, if one does. -/
  operator? : Option Redirection
  token : Token
  /-- What stands right after it, unless it is the last one. -/
  next? : Option Token

namespace Spot

/-- The redirection that begins here: an operator, and the word right after it. -/
def redirection? (s : Spot) : Option (Redirection × String) :=
  s.token.redirection?.bind fun operator =>
    (s.next?.bind Token.path?).map fun path => (operator, path)

/-- The operator that stands here without a word right after it. -/
def dangling? (s : Spot) : Option Redirection :=
  if (s.next?.bind Token.path?).isSome then none else s.token.redirection?

/-- A word right after an operator. -/
def isTarget (s : Spot) : Bool :=
  s.operator?.isSome && s.token.path?.isSome

/-- Neither a redirection operator nor the target of one. -/
def isArgument (s : Spot) : Bool :=
  s.token.redirection?.isNone && !s.isTarget

end Spot

namespace Tokens

/-- The spots of tokens before which this operator stands. -/
def spotsAfter (operator? : Option Redirection) : List Token → List Spot
  | [] => []
  | token :: rest => ⟨operator?, token, rest.head?⟩ :: spotsAfter token.redirection? rest

/-- The spots of a side. -/
def spots (side : List Token) : List Spot :=
  spotsAfter none side

/-- The tokens that are neither redirection operators nor their targets. -/
def arguments (side : List Token) : List Token :=
  ((spots side).filter Spot.isArgument).map Spot.token

/-- The redirections, each with its target. -/
def redirections (side : List Token) : List (Redirection × String) :=
  (spots side).filterMap Spot.redirection?

/-- The operators that lack a target. -/
def dangling (side : List Token) : List Redirection :=
  (spots side).filterMap Spot.dangling?

/-- Every operator has a target: a word right after it. -/
def Sound (side : List Token) : Prop :=
  ∀ before token after, side = before ++ token :: after → token.redirection?.isSome →
    ∃ path rest, after = .word path :: rest

end Tokens

/-- The file that a redirection reads from. -/
def Redirection.inputPath? : Redirection × String → Option String
  | (.read, path) => some path
  | _ => none

/-- The file that a redirection writes to, and how. -/
def Redirection.outputTarget? : Redirection × String → Option OutputTarget
  | (.read, _) => none
  | (.write, path) => some ⟨path, .truncate⟩
  | (.append, path) => some ⟨path, .append⟩

/-- The operator of a redirection. -/
def Redirection.token : Redirection → Token
  | .read => .read
  | .write => .write
  | .append => .append

lemma Token.eq_of_redirection? {token : Token} {operator : Redirection}
    (h : token.redirection? = some operator) : token = operator.token := by
  cases token <;> cases h <;> rfl

namespace Tokens

/-- The target of the last `<`. -/
def lastInput? (side : List Token) : Option String :=
  ((redirections side).filterMap Redirection.inputPath?).getLast?

/-- The last one among `>` and `>>`. -/
def lastOutput? (side : List Token) : Option OutputTarget :=
  ((redirections side).filterMap Redirection.outputTarget?).getLast?

/-- What a side comes to: its arguments, and the last redirection of each direction. -/
def gist (side : List Token) : Draft :=
  ⟨(arguments side).map Token.text, lastInput? side, lastOutput? side⟩

/-- The last of the arguments is a `&`. -/
def EndsInAmpersand (side : List Token) : Prop :=
  (arguments side).getLast?.map Token.text = some "&"

instance (side : List Token) : Decidable (EndsInAmpersand side) :=
  inferInstanceAs (Decidable (_ = _))

variable {token : Token} {operator : Redirection} {path : String} {side rest : List Token}

/-! ## The first tokens of a side -/

/-- A token that is no redirection operator is an argument at the beginning of a side, and the rest
is a side of its own. -/
lemma views_cons (plain : token.redirection? = none) (rest : List Token) :
    arguments (token :: rest) = token :: arguments rest ∧
      redirections (token :: rest) = redirections rest ∧
        dangling (token :: rest) = dangling rest := by
  have hspots : spots (token :: rest) = ⟨none, token, rest.head?⟩ :: spots rest := by
    rw [spots, spotsAfter, plain]
    rfl
  simp [arguments, redirections, dangling, hspots, Spot.isArgument, Spot.isTarget,
    Spot.redirection?, Spot.dangling?, plain]

lemma views_redirection (hoperator : token.redirection? = some operator) (path : String)
    (rest : List Token) :
    arguments (token :: .word path :: rest) = arguments rest ∧
      redirections (token :: .word path :: rest) = (operator, path) :: redirections rest ∧
        dangling (token :: .word path :: rest) = dangling rest := by
  have hspots : spots (token :: .word path :: rest) = ⟨none, token, some (.word path)⟩ ::
      ⟨some operator, .word path, rest.head?⟩ :: spots rest := by
    rw [spots, spotsAfter, spotsAfter, hoperator]
    rfl
  have hword : (Token.word path).redirection? = none := rfl
  simp [arguments, redirections, dangling, hspots, Spot.isArgument, Spot.isTarget,
    Spot.redirection?, Spot.dangling?, Token.path?, hoperator, hword]

lemma head?_dangling_cons (hoperator : token.redirection? = some operator)
    (untargeted : ∀ path after, rest = .word path :: after → False) :
    (dangling (token :: rest)).head? = some operator := by
  have hnext : rest.head?.bind Token.path? = none := by
    cases rest with
    | nil => rfl
    | cons next after =>
      cases next with
      | word path => exact (untargeted path after rfl).elim
      | _ => rfl
  simp [dangling, spots, spotsAfter, Spot.dangling?, hnext, hoperator]

/-! ## Soundness -/

lemma sound_nil : Sound [] := by
  intro before token after h
  simp at h

/-- The first token needs a target if it is an operator, and the others have to be sound by
themselves. -/
lemma sound_cons_iff : Sound (token :: rest) ↔
    (token.redirection?.isSome → ∃ path after, rest = .word path :: after) ∧ Sound rest := by
  constructor
  · intro h
    refine ⟨h [] token rest rfl, fun before token' after hrest => ?_⟩
    exact h (token :: before) token' after (congrArg (token :: ·) hrest)
  · rintro ⟨first, others⟩ before token' after h
    cases before with
    | nil =>
      cases h
      exact first
    | cons _ before =>
      cases h
      exact others before token' after rfl

lemma dangling_eq_nil_iff : dangling side = [] ↔ Sound side := by
  -- along the steps in which the side is gathered
  fun_induction Draft.ofTokens side with
  | case1 => exact ⟨fun _ => sound_nil, fun _ => rfl⟩
  | case2 token rest plain ih =>
    rw [(views_cons plain rest).2.2, sound_cons_iff, plain, ih]
    simp
  | case3 token operator hoperator path rest ih =>
    rw [(views_redirection hoperator path rest).2.2, sound_cons_iff, sound_cons_iff, ih]
    simp [Token.redirection?]
  | case4 token rest operator hoperator untargeted =>
    have hdangling := head?_dangling_cons hoperator untargeted
    constructor
    · intro h
      simp [h] at hdangling
    · intro h
      obtain ⟨path, after, rfl⟩ := (sound_cons_iff.1 h).1 (by simp [hoperator])
      exact (untargeted path after rfl).elim

/-! ## Nothing is lost -/

/-- The tokens of a redirection. -/
def ofRedirection (r : Redirection × String) : List Token :=
  [r.1.token, .word r.2]

/-- Each token of a sound side is an argument, an operator or a target, and only one of these. -/
theorem Sound.perm (h : Sound side) :
    side.Perm (arguments side ++ (redirections side).flatMap ofRedirection) := by
  fun_induction Draft.ofTokens side with
  | case1 => exact .nil
  | case2 token rest plain ih =>
    obtain ⟨harguments, hredirections, -⟩ := views_cons plain rest
    rw [harguments, hredirections]
    exact (ih (sound_cons_iff.1 h).2).cons token
  | case3 token operator hoperator path rest ih =>
    obtain ⟨harguments, hredirections, -⟩ := views_redirection hoperator path rest
    have hrest := ih (sound_cons_iff.1 (sound_cons_iff.1 h).2).2
    rw [harguments, hredirections, List.flatMap_cons, Token.eq_of_redirection? hoperator]
    refine ((hrest.cons _).cons _).trans ?_
    exact List.perm_append_comm_assoc (ofRedirection (operator, path)) _ _
  | case4 token rest operator hoperator untargeted =>
    obtain ⟨path, after, rfl⟩ := (sound_cons_iff.1 h).1 (by simp [hoperator])
    exact (untargeted path after rfl).elim

/-! ## Gathering a side -/

/-- The redirections of a side are noted one by one, the last one first. -/
lemma gist_redirection (hoperator : token.redirection? = some operator) (path : String)
    (rest : List Token) :
    gist (token :: .word path :: rest) = (gist rest).redirect operator path := by
  obtain ⟨harguments, hredirections, -⟩ := views_redirection hoperator path rest
  have hlast {α : Type} (a : α) (l : List α) : (a :: l).getLast? = (l.getLast? <|> some a) := by
    cases l <;> simp [List.getLast?_cons]
  cases operator <;>
    simp [gist, lastInput?, lastOutput?, harguments, hredirections, Redirection.inputPath?,
      Redirection.outputTarget?, Draft.redirect, hlast]

lemma gist_cons (plain : token.redirection? = none) (rest : List Token) :
    gist (token :: rest) = (gist rest).push token.text := by
  obtain ⟨harguments, hredirections, -⟩ := views_cons plain rest
  simp [gist, lastInput?, lastOutput?, harguments, hredirections, Draft.push]

end Tokens

/-- **Gathering a side tells what stands on it.** A side with a dangling operator is refused, and
the first one is told; any other side comes to its arguments and its last redirections. -/
theorem Draft.ofTokens_eq (side : List Token) :
    ofTokens side =
      match (Tokens.dangling side).head? with
      | some operator => .error (.missingTarget operator)
      | none => .ok (Tokens.gist side) := by
  fun_induction ofTokens side with
  | case1 => rfl
  | case2 token rest plain ih =>
    rw [ih, (Tokens.views_cons plain rest).2.2, Tokens.gist_cons plain]
    cases (Tokens.dangling rest).head? <;> rfl
  | case3 token operator hoperator path rest ih =>
    rw [ih, (Tokens.views_redirection hoperator path rest).2.2, Tokens.gist_redirection hoperator]
    cases (Tokens.dangling rest).head? <;> rfl
  | case4 token rest operator hoperator untargeted =>
    rw [Tokens.head?_dangling_cons hoperator untargeted]

end CommandShell
