import Phrasebook.Rendering.Evaluate

/-!
# Evaluations in step

Two computations of a session run *in step* under a relation of sessions when related sessions
lead to the same outcome and to related sessions again.  Every way of putting computations
together keeps them in step, so a statement about two runs, or about one run and an invariant, is
proved one operation at a time.

* `Evaluation.outcome`, `Evaluation.final`: the two halves of a run, with a law for each way of
  putting computations together;
* `Link`, `InStep`: two computations in step, with runs that are broken off left out of the
  comparison and an account of how the first one fails;
* `Dialogue.Keeps`: which templates a dialogue may ask for and how it may fail;
* `Dialogue.Sifts`: also, which failures of its answers it hands on;
* `InStep.carryOut`: dialogues are carried out in step when the calls they may make are in step.
-/

namespace Phrasebook

namespace Evaluation

variable {α β : Type}

/-! ## The two halves of a run -/

/-- What a computation gives in a session. -/
def outcome (x : Evaluation α) (s : Session) : Except Failure α := (x.run s).1

/-- The session that a computation leaves behind. -/
def final (x : Evaluation α) (s : Session) : Session := (x.run s).2

theorem run_eq (x : Evaluation α) (s : Session) : x.run s = (x.outcome s, x.final s) := rfl

theorem run_eq_iff {x : Evaluation α} {s s' : Session} {outcome : Except Failure α} :
    x.run s = (outcome, s') ↔ x.outcome s = outcome ∧ x.final s = s' := by
  rw [run_eq, Prod.mk.injEq]

@[simp] theorem outcome_pure (a : α) (s : Session) : (pure a : Evaluation α).outcome s = .ok a := rfl

@[simp] theorem final_pure (a : α) (s : Session) : (pure a : Evaluation α).final s = s := rfl

@[simp] theorem outcome_get (s : Session) : (get : Evaluation Session).outcome s = .ok s := rfl

@[simp] theorem final_get (s : Session) : (get : Evaluation Session).final s = s := rfl

@[simp] theorem outcome_modify (f : Session → Session) (s : Session) :
    (modify f : Evaluation PUnit).outcome s = .ok ⟨⟩ := rfl

@[simp] theorem final_modify (f : Session → Session) (s : Session) :
    (modify f : Evaluation PUnit).final s = f s := rfl

@[simp] theorem outcome_attempt (x : Evaluation α) (s : Session) :
    (attempt x).outcome s = .ok (x.outcome s) := rfl

@[simp] theorem final_attempt (x : Evaluation α) (s : Session) :
    (attempt x).final s = x.final s := rfl

theorem run_bind (x : Evaluation α) (f : α → Evaluation β) (s : Session) :
    (x >>= f).run s = match x.outcome s with
      | .ok a => (f a).run (x.final s)
      | .error e => (.error e, x.final s) := by
  simp only [outcome, final]
  show (ExceptT.bindCont f (x.run s).1 : StateM Session _) (x.run s).2 = _
  cases (x.run s).1 <;> rfl

theorem outcome_bind (x : Evaluation α) (f : α → Evaluation β) (s : Session) :
    (x >>= f).outcome s = match x.outcome s with
      | .ok a => (f a).outcome (x.final s)
      | .error e => .error e := by
  rw [outcome, run_bind]
  cases x.outcome s <;> rfl

theorem final_bind (x : Evaluation α) (f : α → Evaluation β) (s : Session) :
    (x >>= f).final s = match x.outcome s with
      | .ok a => (f a).final (x.final s)
      | .error _ => x.final s := by
  rw [final, run_bind]
  cases x.outcome s <;> rfl

theorem outcome_bind_ok {x : Evaluation α} {s : Session} {a : α} (h : x.outcome s = .ok a)
    (f : α → Evaluation β) : (x >>= f).outcome s = (f a).outcome (x.final s) := by
  rw [outcome_bind, h]

theorem final_bind_ok {x : Evaluation α} {s : Session} {a : α} (h : x.outcome s = .ok a)
    (f : α → Evaluation β) : (x >>= f).final s = (f a).final (x.final s) := by
  rw [final_bind, h]

theorem outcome_bind_error {x : Evaluation α} {s : Session} {e : Failure}
    (h : x.outcome s = .error e) (f : α → Evaluation β) : (x >>= f).outcome s = .error e := by
  rw [outcome_bind, h]

theorem final_bind_error {x : Evaluation α} {s : Session} {e : Failure}
    (h : x.outcome s = .error e) (f : α → Evaluation β) : (x >>= f).final s = x.final s := by
  rw [final_bind, h]

theorem currentTarget_cons {s : Session} {target : Target} {below : List Target}
    (h : s.stack = target :: below) :
    currentTarget.outcome s = .ok target ∧ currentTarget.final s = s := by
  unfold currentTarget
  rw [outcome_bind_ok (outcome_get s), final_bind_ok (outcome_get s), final_get, h]
  exact ⟨rfl, rfl⟩

theorem currentTarget_nil {s : Session} (h : s.stack = []) :
    currentTarget.outcome s = .error (.fault ⟨.index, "list index out of range"⟩) ∧
      currentTarget.final s = s := by
  unfold currentTarget
  rw [outcome_bind_ok (outcome_get s), final_bind_ok (outcome_get s), final_get, h]
  exact ⟨rfl, rfl⟩

end Evaluation

open Evaluation

/-- In a target, an expression is what the engine makes of it there. -/
theorem Evaluator.run_evaluateSource {ev : Evaluator} {again : Recursion} {s : Session}
    {target : Target} {below : List Target} (hs : s.stack = target :: below) (source : Text) :
    (ev.evaluateSource again source).run s =
      (carryOut (ev.callTemplate again) (ev.engine ev.catalog.has source target.scope)).run
        { s with calls := s.calls ++ [(source, target.scope)] } := by
  obtain ⟨hout, hfinal⟩ := currentTarget_cons hs
  unfold evaluateSource
  rw [run_bind, hout, hfinal]
  rfl

/-! ## Computations in step -/

/-- What is followed through two runs: when the first one is broken off and no longer compared,
which sessions belong together, and which failures of the first run are accounted for. -/
structure Link where
  broken : Session → Prop
  related : Session → Session → Prop
  accounted : Session → Failure → Prop

/-- Two runs that are not broken off have the same outcome and leave sessions that belong together.
A failure is accounted for, and what was accounted for still is. -/
structure Agreement (L : Link) {α : Type} (x y : Evaluation α) (s t : Session) : Prop where
  outcome : x.outcome s = y.outcome t
  final : L.related (x.final s) (y.final t)
  keeps : ∀ f, L.accounted s f → L.accounted (x.final s) f
  accounts : ∀ f, x.outcome s = .error f → L.accounted (x.final s) f

/-- **Two computations run in step**: from sessions that belong together, the first run is broken
off or both runs agree.  What is broken off stays so. -/
structure InStep (L : Link) {α : Type} (x y : Evaluation α) : Prop where
  stays : ∀ s, L.broken s → L.broken (x.final s)
  agrees : ∀ s t, L.related s t → L.broken (x.final s) ∨ Agreement L x y s t

namespace InStep

variable {α β : Type} {L L' : Link}

theorem pure (a : α) : InStep L (Pure.pure a : Evaluation α) (Pure.pure a) where
  stays _ h := h
  agrees _ _ h := .inr ⟨rfl, h, fun _ hf => hf, by rintro f hf; cases hf⟩

theorem throw {f : Failure} (hf : ∀ s t, L.related s t → L.accounted s f) :
    InStep L (MonadExcept.throw f : Evaluation α) (MonadExcept.throw f) where
  stays _ h := h
  agrees s t h := by
    refine .inr ⟨rfl, h, fun _ hf => hf, ?_⟩
    rintro g hg
    cases hg
    exact hf s t h

/-- One computation after another, where only results in `P` come out of the first. -/
theorem bind_of {x y : Evaluation α} {f g : α → Evaluation β} {P : α → Prop} (hx : InStep L x y)
    (hP : ∀ s a, x.outcome s = .ok a → P a) (hf : ∀ a, P a → InStep L (f a) (g a)) :
    InStep L (x >>= f) (y >>= g) where
  stays s h := by
    have h' := hx.stays s h
    rw [final_bind]
    cases hout : x.outcome s with
    | ok a => exact (hf a (hP s a hout)).stays _ h'
    | error e => exact h'
  agrees s t h := by
    rcases hx.agrees s t h with h' | h'
    · -- the first half is broken off, and the second half leaves it so
      left
      rw [final_bind]
      cases hout : x.outcome s with
      | ok a => exact (hf a (hP s a hout)).stays _ h'
      | error e => exact h'
    · cases hout : x.outcome s with
      | error e =>
        have hout' : y.outcome t = .error e := h'.outcome ▸ hout
        right
        constructor
        · rw [outcome_bind_error hout, outcome_bind_error hout']
        · rw [final_bind_error hout, final_bind_error hout']
          exact h'.final
        · rw [final_bind_error hout]
          exact h'.keeps
        · rw [final_bind_error hout, outcome_bind_error hout]
          exact fun g hg => h'.accounts g (hout.trans (by cases hg; rfl))
      | ok a =>
        have hout' : y.outcome t = .ok a := h'.outcome ▸ hout
        rcases (hf a (hP s a hout)).agrees _ _ h'.final with hb | h''
        · left
          rw [final_bind_ok hout]
          exact hb
        · right
          constructor
          · rw [outcome_bind_ok hout, outcome_bind_ok hout']
            exact h''.outcome
          · rw [final_bind_ok hout, final_bind_ok hout']
            exact h''.final
          · rw [final_bind_ok hout]
            exact fun f hf => h''.keeps f (h'.keeps f hf)
          · rw [final_bind_ok hout, outcome_bind_ok hout]
            exact h''.accounts

theorem bind {x y : Evaluation α} {f g : α → Evaluation β} (hx : InStep L x y)
    (hf : ∀ a, InStep L (f a) (g a)) : InStep L (x >>= f) (y >>= g) :=
  hx.bind_of (P := fun _ => True) (fun _ _ _ => trivial) fun a _ => hf a

theorem update {f g : Session → Session} (hbroken : ∀ s, L.broken s → L.broken (f s))
    (hrelated : ∀ s t, L.related s t → L.related (f s) (g t))
    (hkeeps : ∀ s e, L.accounted s e → L.accounted (f s) e) :
    InStep L (modify f : Evaluation PUnit) (modify g) where
  stays := hbroken
  agrees s t h := .inr ⟨rfl, hrelated s t h, hkeeps s, by rintro e he; cases he⟩

theorem currentTarget (head : ∀ s t, L.related s t → s.stack.head? = t.stack.head?)
    (hnone : ∀ s t, L.related s t → s.stack = [] →
      L.accounted s (.fault ⟨.index, "list index out of range"⟩)) :
    InStep L Evaluation.currentTarget Evaluation.currentTarget where
  stays s h := by
    cases hs : s.stack with
    | nil => rwa [(currentTarget_nil hs).2]
    | cons target below => rwa [(currentTarget_cons hs).2]
  agrees s t h := by
    right
    have hst := head s t h
    cases hs : s.stack with
    | nil =>
      have ht : t.stack = [] := by rw [hs] at hst; exact List.head?_eq_none_iff.1 hst.symm
      obtain ⟨hout, hfinal⟩ := currentTarget_nil hs
      obtain ⟨hout', hfinal'⟩ := currentTarget_nil ht
      refine ⟨by rw [hout, hout'], by rwa [hfinal, hfinal'], by simp [hfinal], ?_⟩
      rw [hout, hfinal]
      rintro f hf
      cases hf
      exact hnone s t h hs
    | cons target below =>
      rw [hs] at hst
      obtain ⟨below', ht⟩ := List.head?_eq_some_iff.1 hst.symm
      obtain ⟨hout, hfinal⟩ := currentTarget_cons hs
      obtain ⟨hout', hfinal'⟩ := currentTarget_cons ht
      refine ⟨by rw [hout, hout'], by rwa [hfinal, hfinal'], by simp [hfinal], ?_⟩
      rw [hout]
      rintro f hf
      cases hf

theorem attempt {x y : Evaluation α} (hx : InStep L x y) :
    InStep L (Evaluation.attempt x) (Evaluation.attempt y) where
  stays := hx.stays
  agrees s t h := (hx.agrees s t h).imp_right fun h' =>
    ⟨by rw [outcome_attempt, outcome_attempt, h'.outcome], h'.final, h'.keeps,
      by rintro f hf; cases hf⟩

/-- What follows an attempt runs in step when it does so after every result, and after every
failure that is accounted for. -/
theorem bind_attempt {x y : Evaluation α} {f g : Except Failure α → Evaluation β}
    (hx : InStep L x y) (hok : ∀ a, InStep L (f (.ok a)) (g (.ok a)))
    (herror : ∀ e, InStep { L with related := fun s t => L.related s t ∧ L.accounted s e }
      (f (.error e)) (g (.error e))) :
    InStep L (Evaluation.attempt x >>= f) (Evaluation.attempt y >>= g) where
  stays s h := by
    rw [final_bind_ok (outcome_attempt x s), final_attempt]
    have h' := hx.stays s h
    cases x.outcome s with
    | ok a => exact (hok a).stays _ h'
    | error e => exact (herror e).stays _ h'
  agrees s t h := by
    rw [final_bind_ok (outcome_attempt x s), final_attempt]
    rcases hx.agrees s t h with h' | h'
    · left
      cases x.outcome s with
      | ok a => exact (hok a).stays _ h'
      | error e => exact (herror e).stays _ h'
    · have hboth : ∀ o, x.outcome s = o →
          Agreement L (f o) (g o) (x.final s) (y.final t) →
          Agreement L (Evaluation.attempt x >>= f) (Evaluation.attempt y >>= g) s t := by
        rintro o ho ⟨h1, h2, h3, h4⟩
        have ho' : y.outcome t = o := h'.outcome ▸ ho
        constructor
        · rw [outcome_bind_ok (outcome_attempt x s), outcome_bind_ok (outcome_attempt y t), ho, ho']
          exact h1
        · rw [final_bind_ok (outcome_attempt x s), final_bind_ok (outcome_attempt y t), ho, ho']
          exact h2
        · rw [final_bind_ok (outcome_attempt x s), ho]
          exact fun e he => h3 e (h'.keeps e he)
        · rw [final_bind_ok (outcome_attempt x s), outcome_bind_ok (outcome_attempt x s), ho]
          exact h4
      cases hout : x.outcome s with
      | ok a => exact ((hok a).agrees _ _ h'.final).imp_right (hboth _ hout)
      | error e =>
        refine ((herror e).agrees _ _ ⟨h'.final, h'.accounts e hout⟩).imp_right fun h'' => ?_
        exact hboth _ hout ⟨h''.outcome, h''.final.1, h''.keeps, h''.accounts⟩

/-- A narrower relation of sessions can be followed as well, when accounts are kept. -/
theorem narrow {x y : Evaluation α} {e : Failure} (hx : InStep L x y) :
    InStep { L with related := fun s t => L.related s t ∧ L.accounted s e } x y where
  stays := hx.stays
  agrees s t h := (hx.agrees s t h.1).imp_right fun h' =>
    ⟨h'.outcome, ⟨h'.final, h'.keeps e h.2⟩, h'.keeps, h'.accounts⟩

end InStep

/-! ## What dialogues ask -/

namespace Dialogue

variable {α β : Type}

/-- Every question of the dialogue is about a template in `may`, every result it gives is in
`gives`, and every failure it ends in is one of `raises` or has come back as an answer. -/
def Keeps (may : Text → Prop) (gives : α → Prop) : Dialogue α → (raises : Failure → Prop) → Prop
  | done a, _ => gives a
  | fail f, raises => raises f
  | ask template _ resume, raises =>
    may template ∧ ∀ answer, Keeps may gives (resume answer) fun f => raises f ∨ answer = .error f

/-- As `Keeps`, and a failure that has come back as an answer ends the dialogue only if it is in
`passes`. -/
def Sifts (passes : Failure → Prop) (may : Text → Prop) (gives : α → Prop) :
    Dialogue α → (raises : Failure → Prop) → Prop
  | done a, _ => gives a
  | fail f, raises => raises f
  | ask template _ resume, raises =>
    may template ∧ ∀ answer,
      Sifts passes may gives (resume answer) fun f => raises f ∨ answer = .error f ∧ passes f

section

variable {passes passes' : Failure → Prop} {may : Text → Prop} {gives : α → Prop}
  {gives' : β → Prop} {raises raises' : Failure → Prop}

namespace Sifts

theorem mono {d : Dialogue α} (h : d.Sifts passes may gives raises)
    (hpasses : ∀ f, passes f → passes' f) (hraises : ∀ f, raises f → raises' f) :
    d.Sifts passes' may gives raises' := by
  induction d generalizing raises raises' with
  | done a => exact h
  | fail f => exact hraises f h
  | ask template args resume ih =>
    refine ⟨h.1, fun answer => ih answer (h.2 answer) ?_⟩
    rintro f (hf | ⟨hf, hpass⟩)
    · exact .inl (hraises f hf)
    · exact .inr ⟨hf, hpasses f hpass⟩

theorem bind {d : Dialogue α} {next : α → Dialogue β} (hd : d.Sifts passes may gives raises)
    (hnext : ∀ a, gives a → (next a).Sifts passes may gives' raises) :
    (d >>= next).Sifts passes may gives' raises := by
  induction d generalizing raises with
  | done a => exact hnext a hd
  | fail f => exact hd
  | ask template args resume ih =>
    refine ⟨hd.1, fun answer => ih answer (hd.2 answer) fun a ha => ?_⟩
    exact (hnext a ha).mono (fun _ h => h) fun f h => .inl h

end Sifts

/-- What lets every answer pass is kept without sifting. -/
theorem sifts_all_iff {d : Dialogue α} :
    d.Sifts (fun _ => True) may gives raises ↔ d.Keeps may gives raises := by
  induction d generalizing raises with
  | done a => exact Iff.rfl
  | fail f => exact Iff.rfl
  | ask template args resume ih =>
    unfold Sifts Keeps
    simp only [and_true, ih]

theorem Sifts.keeps {d : Dialogue α} (h : d.Sifts passes may gives raises) :
    d.Keeps may gives raises := sifts_all_iff.1 (h.mono (fun _ _ => trivial) fun _ h => h)

namespace Keeps

theorem mono {d : Dialogue α} (h : d.Keeps may gives raises)
    (hraises : ∀ f, raises f → raises' f) : d.Keeps may gives raises' :=
  sifts_all_iff.1 ((sifts_all_iff.2 h).mono (fun _ h => h) hraises)

/-- Nothing is kept that is not. -/
theorem top (d : Dialogue α) : d.Keeps (fun _ => True) (fun _ => True) fun _ => True := by
  have hall : ∀ raises : Failure → Prop, (∀ f, raises f) →
      d.Keeps (fun _ => True) (fun _ => True) raises := by
    induction d with
    | done a => exact fun _ _ => trivial
    | fail f => exact fun _ hraises => hraises f
    | ask template args resume ih =>
      exact fun _ hraises => ⟨trivial, fun answer => ih answer _ fun f => .inl (hraises f)⟩
  exact hall _ fun _ => trivial

theorem ofExcept {x : Except Failure α} (hok : ∀ a, x = .ok a → gives a)
    (herror : ∀ f, x = .error f → raises f) : (Dialogue.ofExcept x).Keeps may gives raises := by
  cases x with
  | ok a => exact hok a rfl
  | error f => exact herror f rfl

theorem bind {d : Dialogue α} {next : α → Dialogue β} (hd : d.Keeps may gives raises)
    (hnext : ∀ a, gives a → (next a).Keeps may gives' raises) :
    (d >>= next).Keeps may gives' raises :=
  sifts_all_iff.1 ((sifts_all_iff.2 hd).bind fun a ha => sifts_all_iff.2 (hnext a ha))

/-- A dialogue that is gone on with after its failure fails as what follows the failure does. The
failure is one of its own, or has come back as an answer. -/
theorem bind_attempt_of {d : Dialogue α} {next : Except Failure α → Dialogue β}
    {own : Failure → Prop} (hd : d.Keeps may gives own)
    (hok : ∀ a, gives a → (next (.ok a)).Keeps may gives' raises)
    (hown : ∀ f, own f → (next (.error f)).Keeps may gives' raises)
    (hanswer : ∀ f, (next (.error f)).Keeps may gives' fun g => g = f ∨ raises g) :
    (d.attempt >>= next).Keeps may gives' raises := by
  induction d generalizing own raises with
  | done a => exact hok a hd
  | fail f => exact hown f hd
  | ask template args resume ih =>
    refine ⟨hd.1, fun answer => ih answer (hd.2 answer) (fun a ha => ?_) ?_ fun f => ?_⟩
    · exact (hok a ha).mono fun f h => .inl h
    · rintro f (hf | rfl)
      · exact (hown f hf).mono fun g h => .inl h
      · refine (hanswer f).mono ?_
        rintro g (rfl | hg)
        · exact .inr rfl
        · exact .inl hg
    · refine (hanswer f).mono ?_
      rintro g (hg | hg)
      · exact .inl hg
      · exact .inr (.inl hg)

/-- As before, when what follows a failure fails in no other way. -/
theorem bind_attempt {d : Dialogue α} {next : Except Failure α → Dialogue β}
    (hd : d.Keeps may gives raises)
    (hok : ∀ a, gives a → (next (.ok a)).Keeps may gives' raises)
    (herror : ∀ f, (next (.error f)).Keeps may gives' fun g => g = f ∨ raises g) :
    (d.attempt >>= next).Keeps may gives' raises := by
  refine bind_attempt_of hd hok (fun f hf => (herror f).mono ?_) herror
  rintro g (rfl | hg)
  · exact hf
  · exact hg

end Keeps

end

end Dialogue

/-- **Dialogues are carried out in step** when the calls that they may make are in step and what
they fail with of their own is accounted for. -/
theorem InStep.carryOut {α : Type} {L : Link} {may : Text → Prop} {gives : α → Prop}
    {raises : Failure → Prop} {call call' : Text → List Value → Evaluation Text} {d : Dialogue α}
    (hd : d.Keeps may gives raises)
    (hraises : ∀ f, raises f → ∀ s t, L.related s t → L.accounted s f)
    (hcall : ∀ name, may name → ∀ args, InStep L (call name args) (call' name args)) :
    InStep L (Evaluation.carryOut call d) (Evaluation.carryOut call' d) := by
  induction d generalizing raises L with
  | done a => exact .pure a
  | fail f => exact .throw (hraises f hd)
  | ask template args resume ih =>
    refine .bind_attempt (hcall template hd.1 args) (fun a => ?_) fun e => ?_
    · refine ih _ (hd.2 _) ?_ hcall
      rintro f (hf | hf)
      · exact hraises f hf
      · cases hf
    · -- the failure that came back is accounted for from now on
      refine ih _ (hd.2 _) ?_ fun name hname args => (hcall name hname args).narrow
      rintro f (hf | hf) s t ⟨hst, he⟩
      · exact hraises f hf s t hst
      · cases hf
        exact he

end Phrasebook
