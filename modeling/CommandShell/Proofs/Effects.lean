import CommandShell.Proofs.Transcript

/-!
# Dialogues and what their calls do

A dialogue says nothing about what its calls bring about; that is the business of the system. When
several processes take turns, what has to be known about one of them is a statement about every
moment: that it makes no call before the system is ready for it, and that it comes to a result only
when the system is as it should be. `Dialogue.Secures` is that statement, for a system of which the
dialogue sees the states `σ` and whose calls may do what `effect` says.

It is put together along the program (`Dialogue.secures_call_bind`, `Dialogue.Secures.bind`), and it
is preserved by each exchange (`Dialogue.Secures.take?`), so it can be part of the invariant of
processes that take turns: the others may do whatever leaves the state alone that this one sees.
-/

namespace CommandShell

namespace Dialogue

variable {I : Interface} {α β : Type}

/-! ## One exchange -/

/-- What a dialogue asks for next. -/
def pending? : Dialogue I α → Option I.Request
  | .done _ => none
  | .ask r _ _ => some r

/-- What is left of a dialogue after an exchange, if this is the exchange that it makes. -/
def take? [DecidableEq I.Request] : Dialogue I α → Exchange I → Option (Dialogue I α)
  | .done _, _ => none
  | .ask r again next, x =>
    if h : x.request = r then some (resume again next (h ▸ x.answer)) else none

lemma take?_eq_some_iff [DecidableEq I.Request] {d e : Dialogue I α} {x : Exchange I} :
    d.take? x = some e ↔
      ∃ (again : I.Answer x.request → Bool)
        (next : (answer : I.Answer x.request) → again answer = false → Dialogue I α),
        d = .ask x.request again next ∧ e = resume again next x.answer := by
  cases d with
  | done a => simp [take?]
  | ask r again next =>
    obtain ⟨request, answer⟩ := x
    constructor
    · intro h
      simp only [take?] at h
      split at h
      · rename_i hr
        obtain rfl : request = r := hr
        exact ⟨again, next, rfl, (Option.some.inj h).symm⟩
      · cases h
    · rintro ⟨again, next, hd, rfl⟩
      cases hd
      simp [take?]

lemma pending?_of_take? [DecidableEq I.Request] {d e : Dialogue I α} {x : Exchange I}
    (h : d.take? x = some e) : d.pending? = some x.request := by
  obtain ⟨again, next, rfl, -⟩ := take?_eq_some_iff.1 h
  rfl

/-! ## Safety at every moment -/

section Secures

variable {σ : Type} {effect : σ → Exchange I → σ → Prop} {allowed : σ → I.Request → Prop}
  {post : σ → α → Prop} {s : σ}

/-- Whatever the answers are, each request of the dialogue is made in a state in which it is
`allowed`, and each result is reached in a state that `post` says of it. A request that is repeated
comes with an invariant. -/
def Secures (effect : σ → Exchange I → σ → Prop) (allowed : σ → I.Request → Prop)
    (post : σ → α → Prop) : Dialogue I α → σ → Prop
  | .done a, s => post s a
  | .ask r again next, s => ∃ inv : σ → Prop, inv s ∧ ∀ s, inv s → allowed s r ∧
      ∀ answer s', effect s ⟨r, answer⟩ s' → (again answer = true → inv s') ∧
        ∀ settles, (next answer settles).Secures effect allowed post s'

/-- What is asked for next is allowed. -/
theorem Secures.allowed_of_pending? {d : Dialogue I α} (h : d.Secures effect allowed post s)
    {r : I.Request} (pending : d.pending? = some r) : allowed s r := by
  cases d with
  | done a => cases pending
  | ask r' again next =>
    obtain rfl : r' = r := Option.some.inj pending
    obtain ⟨inv, hs, hinv⟩ := h
    exact (hinv s hs).1

/-- An exchange leaves the dialogue safe in the state that it leads to. -/
theorem Secures.take? [DecidableEq I.Request] {d e : Dialogue I α} {x : Exchange I} {s' : σ}
    (h : d.Secures effect allowed post s) (taken : d.take? x = some e) (done : effect s x s') :
    e.Secures effect allowed post s' := by
  obtain ⟨again, next, rfl, rfl⟩ := take?_eq_some_iff.1 taken
  obtain ⟨inv, hs, hinv⟩ := h
  obtain ⟨hagain, hnext⟩ := (hinv s hs).2 x.answer s' done
  unfold resume
  split
  · rename_i ha
    exact ⟨inv, hagain ha, hinv⟩
  · exact hnext _

lemma secures_once {r : I.Request} {next : I.Answer r → Dialogue I α} (ready : allowed s r)
    (hnext : ∀ answer s', effect s ⟨r, answer⟩ s' →
      (next answer).Secures effect allowed post s') :
    (Dialogue.ask r (fun _ => false) fun answer _ => next answer).Secures effect allowed post
      s := by
  refine ⟨(· = s), rfl, ?_⟩
  rintro _ rfl
  exact ⟨ready, fun answer s' done => ⟨by simp, fun _ => hnext answer s' done⟩⟩

/-- A dialogue that starts with a call. -/
theorem secures_call_bind {r : I.Request} {f : I.Answer r → Dialogue I α} (ready : allowed s r)
    (hf : ∀ answer s', effect s ⟨r, answer⟩ s' → (f answer).Secures effect allowed post s') :
    ((call r).bind f).Secures effect allowed post s :=
  secures_once ready hf

/-- Of two dialogues in a row, the first one has to come to results from which the second one is
safe. -/
theorem Secures.bind {post : σ → β → Prop} {d : Dialogue I α} {f : α → Dialogue I β}
    (h : d.Secures effect allowed (fun s a => (f a).Secures effect allowed post s) s) :
    (d.bind f).Secures effect allowed post s := by
  induction d generalizing s with
  | done a => exact h
  | ask r again next ih =>
    obtain ⟨inv, hs, hinv⟩ := h
    refine ⟨inv, hs, fun s hs => ⟨(hinv s hs).1, fun answer s' done => ?_⟩⟩
    obtain ⟨hagain, hnext⟩ := (hinv s hs).2 answer s' done
    exact ⟨hagain, fun settles => ih answer settles (hnext settles)⟩

lemma Secures.mono {post' : σ → α → Prop} {d : Dialogue I α}
    (h : d.Secures effect allowed post s) (weaker : ∀ s a, post s a → post' s a) :
    d.Secures effect allowed post' s := by
  induction d generalizing s with
  | done a => exact weaker s a h
  | ask r again next ih =>
    obtain ⟨inv, hs, hinv⟩ := h
    refine ⟨inv, hs, fun s hs => ⟨(hinv s hs).1, fun answer s' done => ?_⟩⟩
    obtain ⟨hagain, hnext⟩ := (hinv s hs).2 answer s' done
    exact ⟨hagain, fun settles => ih answer settles (hnext settles)⟩

/-- What no call can change is enough for every dialogue. -/
theorem secures_of_invariant {d : Dialogue I α} {inv : σ → Prop}
    (preserved : ∀ s x s', inv s → effect s x s' → inv s') (ready : ∀ s r, inv s → allowed s r)
    (right : ∀ s a, inv s → post s a) (h : inv s) : d.Secures effect allowed post s := by
  induction d generalizing s with
  | done a => exact right s a h
  | ask r again next ih =>
    refine ⟨inv, h, fun s hs => ⟨ready s r hs, fun answer s' done => ?_⟩⟩
    have hs' := preserved s _ s' hs done
    exact ⟨fun _ => hs', fun settles => ih answer settles hs'⟩

/-- What the calls of a dialogue cannot change is enough for it, if it allows each of them. -/
theorem Within.secures {P : I.Request → Prop} {Q : α → Prop} {d : Dialogue I α}
    (within : d.Within P Q) (inv : σ → Prop)
    (preserved : ∀ s x s', inv s → P x.request → effect s x s' → inv s')
    (ready : ∀ s r, inv s → P r → allowed s r) (right : ∀ s a, inv s → Q a → post s a)
    (h : inv s) : d.Secures effect allowed post s := by
  induction d generalizing s with
  | done a => exact right s a h within
  | ask r again next ih =>
    refine ⟨inv, h, fun s hs => ⟨ready s r hs within.1, fun answer s' done => ?_⟩⟩
    have hs' := preserved s _ s' hs within.1 done
    exact ⟨fun _ => hs', fun settles => ih answer settles (within.2 answer settles) hs'⟩

end Secures

end Dialogue

end CommandShell
