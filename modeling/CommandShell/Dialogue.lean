/-!
# Dialogues with a system

A program that deals with its surroundings, as a value: it has either come to a result or it asks
for something and says how it goes on with each answer. Nothing about the answers is built in, so
one and the same program can be run on a machine (`Dialogue.play`) and can be reasoned about for
every way in which the system might answer (`Dialogue.Runs`).

The one kind of loop that a dialogue knows is to ask the same thing again while the answers do not
settle it, as a call that was interrupted is made again. All other repetition is recursion over
data when the dialogue is built.
-/

namespace CommandShell

/-- What can be asked for, and what answers there are to each request. -/
structure Interface where
  Request : Type
  Answer : Request → Type

/-- A program that asks for things through an interface and comes to an `α`. -/
inductive Dialogue (I : Interface) (α : Type) : Type
  /-- It has come to a result. -/
  | done (result : α)
  /-- It asks for `request`, and asks again for as long as `again` says so of the answer. With the
  first answer that settles the matter it goes on by `next`. -/
  | ask (request : I.Request) (again : I.Answer request → Bool)
      (next : (answer : I.Answer request) → again answer = false → Dialogue I α)

/-- One request and the answer it got. -/
structure Exchange (I : Interface) where
  request : I.Request
  answer : I.Answer request

namespace Dialogue

variable {I : Interface} {α β : Type}

/-- Asks for something once. -/
def call (request : I.Request) : Dialogue I (I.Answer request) :=
  .ask request (fun _ => false) fun answer _ => .done answer

/-- Goes on from the result of a dialogue with another one. -/
def bind (d : Dialogue I α) (f : α → Dialogue I β) : Dialogue I β :=
  match d with
  | .done a => f a
  | .ask r again next => .ask r again fun answer h => (next answer h).bind f

instance : Monad (Dialogue I) where
  pure := .done
  bind := Dialogue.bind

@[simp] theorem pure_eq (a : α) : (pure a : Dialogue I α) = .done a := rfl

@[simp] theorem bind_eq (d : Dialogue I α) (f : α → Dialogue I β) : d >>= f = d.bind f := rfl

@[simp] theorem done_bind (a : α) (f : α → Dialogue I β) :
    (Dialogue.done a : Dialogue I α).bind f = f a := rfl

@[simp] theorem ask_bind (r : I.Request) (again : I.Answer r → Bool)
    (next : (answer : I.Answer r) → again answer = false → Dialogue I α)
    (f : α → Dialogue I β) :
    (Dialogue.ask r again next).bind f = .ask r again fun answer h => (next answer h).bind f :=
  rfl

/-! ## Runs -/

/-- `d.Runs t a`: there is a system with which the dialogue makes the exchanges `t`, in this order
and no others, and comes to `a`. -/
inductive Runs : Dialogue I α → List (Exchange I) → α → Prop
  | done (a : α) : Runs (.done a) [] a
  | again {r : I.Request} {again : I.Answer r → Bool}
      {next : (answer : I.Answer r) → again answer = false → Dialogue I α}
      {t : List (Exchange I)} {a : α} (answer : I.Answer r) (h : again answer = true)
      (rest : Runs (.ask r again next) t a) : Runs (.ask r again next) (⟨r, answer⟩ :: t) a
  | next {r : I.Request} {again : I.Answer r → Bool}
      {next : (answer : I.Answer r) → again answer = false → Dialogue I α}
      {t : List (Exchange I)} {a : α} (answer : I.Answer r) (h : again answer = false)
      (rest : Runs (next answer h) t a) : Runs (.ask r again next) (⟨r, answer⟩ :: t) a

/-- A dialogue that has come to a result makes no exchanges. -/
@[simp] theorem runs_done_iff {a b : α} {t : List (Exchange I)} :
    (Dialogue.done a : Dialogue I α).Runs t b ↔ t = [] ∧ b = a := by
  constructor
  · intro h
    cases h
    exact ⟨rfl, rfl⟩
  · rintro ⟨rfl, rfl⟩
    exact .done _

/-- A request that is made once is one exchange, and the answer decides how it goes on. -/
theorem runs_once_iff {r : I.Request} {next : I.Answer r → Dialogue I α} {a : α}
    {t : List (Exchange I)} :
    (Dialogue.ask r (fun _ => false) fun answer _ => next answer).Runs t a ↔
      ∃ answer rest, t = ⟨r, answer⟩ :: rest ∧ (next answer).Runs rest a := by
  constructor
  · intro h
    cases h with
    | again answer h _ => simp at h
    | next answer _ rest => exact ⟨answer, _, rfl, rest⟩
  · rintro ⟨answer, rest, rfl, h⟩
    exact .next answer rfl h

/-- A run of two dialogues in a row is a run of the first followed by a run of the second. -/
theorem runs_bind_iff {d : Dialogue I α} {f : α → Dialogue I β} {t : List (Exchange I)} {b : β} :
    (d.bind f).Runs t b ↔ ∃ t₁ t₂ a, t = t₁ ++ t₂ ∧ d.Runs t₁ a ∧ (f a).Runs t₂ b := by
  induction d generalizing t with
  | done a =>
    constructor
    · intro h
      exact ⟨[], t, a, rfl, .done a, h⟩
    · rintro ⟨t₁, t₂, a', rfl, h₁, h₂⟩
      obtain ⟨rfl, rfl⟩ := runs_done_iff.1 h₁
      exact h₂
  | ask r again next ih =>
    constructor
    · intro h
      generalize hd : (Dialogue.ask r again next).bind f = e at h
      induction h with
      | done a => simp at hd
      | again answer ha _ ihr =>
        rw [ask_bind] at hd
        cases hd
        obtain ⟨t₁, t₂, a, rfl, h₁, h₂⟩ := ihr ih rfl
        exact ⟨_ :: t₁, t₂, a, rfl, .again answer ha h₁, h₂⟩
      | next answer ha rest _ =>
        rw [ask_bind] at hd
        cases hd
        obtain ⟨t₁, t₂, a, rfl, h₁, h₂⟩ := (ih answer ha).1 rest
        exact ⟨_ :: t₁, t₂, a, rfl, .next answer ha h₁, h₂⟩
    · rintro ⟨t₁, t₂, a, rfl, h₁, h₂⟩
      generalize hd : Dialogue.ask r again next = e at h₁
      induction h₁ with
      | done a => simp at hd
      | again answer ha _ ihr =>
        cases hd
        exact .again answer ha (ihr h₂ rfl)
      | next answer ha rest _ =>
        cases hd
        exact .next answer ha ((ih answer ha).2 ⟨_, _, _, rfl, rest, h₂⟩)

/-! ## Playing a dialogue on a machine -/

/-- What is left of a dialogue once its first request has got an answer. -/
def resume {r : I.Request} (again : I.Answer r → Bool)
    (next : (answer : I.Answer r) → again answer = false → Dialogue I α)
    (answer : I.Answer r) : Dialogue I α :=
  if h : again answer = true then .ask r again next else next answer (by simpa using h)

/-- A machine with states `σ`: how it answers a request, unless it cannot go on. -/
abbrev Host (I : Interface) (σ : Type) :=
  (request : I.Request) → σ → Option (I.Answer request × σ)

/-- An answer that settles a request, and the machine after it. -/
structure Settled {r : I.Request} (again : I.Answer r → Bool) (σ : Type) where
  answer : I.Answer r
  settles : again answer = false
  state : σ

/-- Asks until the answer settles the matter, at most `patience` times. -/
def persist {σ : Type} (host : Host I σ) (r : I.Request) (again : I.Answer r → Bool) :
    Nat → σ → Option (Settled again σ)
  | 0, _ => none
  | patience + 1, s =>
    match host r s with
    | none => none
    | some (answer, s) =>
      if h : again answer = true then persist host r again patience s
      else some ⟨answer, by simpa using h, s⟩

/-- Runs a dialogue on a machine. Each request is repeated at most `patience` times. -/
def play {σ : Type} (host : Host I σ) (patience : Nat) : Dialogue I α → σ → Option (α × σ)
  | .done a, s => some (a, s)
  | .ask r again next, s =>
    match persist host r again patience s with
    | none => none
    | some settled => (next settled.answer settled.settles).play host patience settled.state

end Dialogue

end CommandShell
