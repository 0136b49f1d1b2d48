import Phrasebook.Proofs.Expression.Calls

/-!
# What the standard engine reports

The standard engine reports what goes wrong in an expression and lets nothing out, whatever the
expression is, whatever its scope holds and whatever the functions and templates do that it calls,
as long as they raise no error of the language.  Two things slip through.  A text with a null
character is not read and not reported either.  And the report of a failure can fail itself: that of
a missing key, or of a fault of the host, whose text is too long to be written.

* `Dialogue.replied`: a dialogue with a host that has a state;
* `Expr.error_of_eval`: what an evaluation can fail with;
* `Engine.sandboxed_reports`: how the standard engine ends;
* `Engine.sandboxed_null`: the text that is not reported.
-/

namespace Phrasebook

/-! ## Hosts with a state -/

namespace Dialogue

variable {α β σ : Type} {reply : σ → Text → List Value → Except Failure Text × σ}

/-- The outcome of a dialogue with a host that has a state: what it answers may depend on all that
it was asked before. -/
def replied (reply : σ → Text → List Value → Except Failure Text × σ) :
    Dialogue α → σ → Except Failure α
  | done a, _ => .ok a
  | fail f, _ => .error f
  | ask template args resume, s =>
    replied reply (resume (reply s template args).1) (reply s template args).2

/-- A dialogue that sifts its answers fails in a way that it may, or as the host answered. -/
theorem Sifts.error_of_replied {passes : Failure → Prop} {may : Text → Prop} {gives : α → Prop}
    {raises : Failure → Prop} {d : Dialogue α} (h : d.Sifts passes may gives raises) {s : σ}
    {f : Failure} (hf : d.replied reply s = .error f) :
    raises f ∨ passes f ∧ ∃ s template args, (reply s template args).1 = .error f := by
  induction d generalizing raises s with
  | done a => cases hf
  | fail g =>
    cases hf
    exact .inl h
  | ask template args resume ih =>
    rcases ih _ (h.2 _) hf with (hraises | ⟨hanswer, hpasses⟩) | hlater
    · exact .inl hraises
    · exact .inr ⟨hpasses, _, _, _, hanswer⟩
    · exact .inr hlater

@[simp] theorem replied_ofExcept (x : Except Failure α) (s : σ) :
    (ofExcept x).replied reply s = x := by
  cases x <;> rfl

/-- What asks nothing follows a dialogue in any state of the host. -/
theorem replied_attempt_bind {next : Except Failure α → Dialogue β}
    (hnext : ∀ outcome, ∃ x, next outcome = ofExcept x) (d : Dialogue α) (s : σ) :
    (d.attempt >>= next).replied reply s = (next (d.replied reply s)).replied reply s := by
  have hstate : ∀ outcome s s', (next outcome).replied reply s = (next outcome).replied reply s' := by
    intro outcome s s'
    obtain ⟨x, hx⟩ := hnext outcome
    rw [hx, replied_ofExcept, replied_ofExcept]
  induction d generalizing s with
  | done a => rfl
  | fail f => rfl
  | ask template args resume ih => exact (ih _ _).trans (hstate _ _ _)

end Dialogue

/-! ## Failures of an evaluation -/

/-- **What an evaluation fails with** is its own, or comes unchanged from a function of the host or
from a template. -/
theorem Expr.error_of_eval {σ : Type} {reply : σ → Text → List Value → Except Failure Text × σ}
    {ctx : Context} {e : Expr} {s : σ} {f : Failure}
    (hf : (e.eval ctx).replied reply s = .error f) :
    f.IsOwn ∨ Callee.failed f = f ∧ (ctx.library.Raises f ∨
      ∃ s template args, (reply s template args).1 = .error f) := by
  have hkeeps := Expr.keeps_eval ctx e (fun _ => True) fun _ _ _ => trivial
  rcases hkeeps.error_of_replied hf with (hown | ⟨hraises, hsame⟩) | ⟨hsame, hanswer⟩
  · exact .inl hown
  · exact .inr ⟨hsame, .inl hraises⟩
  · exact .inr ⟨hsame, .inr hanswer⟩

/-- Of faults, a call hands on those of bad data only. -/
theorem Callee.isDataFault_of_failed {f : Fault} (h : Callee.failed (.fault f) = .fault f) :
    f.kind.isDataFault = true := by
  cases hdata : f.kind.isDataFault with
  | true => rfl
  | false =>
    rw [failed, if_neg (by simp [hdata])] at h
    cases h

/-- An ordinary fault that is none of bad data is a lack of memory. -/
theorem Fault.kind_eq_memory (f : Fault) (h : f.isOrdinary = true)
    (hdata : f.kind.isDataFault = false) : f.kind = .memory := by
  simpa [isOrdinary, hdata] using h

/-! ## The standard engine -/

namespace Engine

/-- A null character in the text of an expression. -/
def nullCharacter : Fault := .badValue "source code string cannot contain null bytes"

/-- What the standard engine does with a text: it stumbles over a null character, reports that the
text is none, or evaluates what it reads and settles the outcome. -/
theorem sandboxed_cases (lib : Library) (functions : Registry) (known : Text → Bool)
    (source : Text) (scope : Value) :
    ('\x00' ∈ Text.trim source ∧
      sandboxed lib functions known source scope = .fail (.fault nullCharacter)) ∨
    (∃ message, sandboxed lib functions known source scope = .done (.error message)) ∨
    ∃ e, Expr.ofText? (Text.trim source) = some e ∧
      sandboxed lib functions known source scope =
        (e.eval ⟨scope, functions, lib, known⟩).attempt >>= settle := by
  unfold sandboxed
  dsimp only
  split
  · exact .inr (.inl ⟨_, rfl⟩)
  · split
    · rename_i h
      exact .inl ⟨by simpa using h, rfl⟩
    · split
      · exact .inr (.inl ⟨_, rfl⟩)
      · rename_i e he
        exact .inr (.inr ⟨e, he, rfl⟩)

/-- Nothing is asked when an outcome is settled. -/
theorem settle_eq_ofExcept (outcome : Except Failure Value) : ∃ x, settle outcome = .ofExcept x := by
  unfold settle
  split
  · exact ⟨.ok _, rfl⟩
  · exact ⟨.ok _, rfl⟩
  · split
    · exact ⟨.ok _, rfl⟩
    · exact ⟨.error _, rfl⟩
  · exact ⟨.error _, rfl⟩
  · exact ⟨.error _, rfl⟩

variable {σ : Type}

/-- **What the standard engine reports.**  If neither a function of the host nor a template that is
asked for fails with an error of the language, an evaluation gives a value or reports an error,
whatever else goes wrong.  There are three exceptions: a null character in the text; the report of
a fault whose text is too long to be written, which is that of a missing key or comes from a function
or a template; and a lack of memory. -/
theorem sandboxed_reports {lib : Library} (hlib : ∀ e, ¬ lib.CanRaise e)
    (reply : σ → Text → List Value → Except Failure Text × σ)
    (hreply : ∀ s template args e, (reply s template args).1 ≠ .error (.template e))
    (functions : Registry) (known : Text → Bool) (source : Text) (scope : Value) (s : σ) :
    ∀ outcome, (sandboxed lib functions known source scope).replied reply s = outcome →
      (∃ e v, Expr.ofText? (Text.trim source) = some e ∧
        (e.eval ⟨scope, functions, lib, known⟩).replied reply s = .ok v ∧
        outcome = .ok (.value v)) ∨
      (∃ message, outcome = .ok (.error message)) ∨
      ('\x00' ∈ Text.trim source ∧ outcome = .error (.fault nullCharacter)) ∨
      (∃ e kind, Expr.ofText? (Text.trim source) = some e ∧
        (e.eval ⟨scope, functions, lib, known⟩).replied reply s = .error (.unwritable kind) ∧
        (kind = .key ∨ lib.Raises (.unwritable kind) ∨
          ∃ s template args, (reply s template args).1 = .error (.unwritable kind)) ∧
        outcome = .error (.fault tooLongToWrite)) ∨
      ∃ f, f.kind = .memory ∧ outcome = .error (.fault f) := by
  rintro outcome rfl
  rcases sandboxed_cases lib functions known source scope with
    ⟨hnull, heq⟩ | ⟨message, heq⟩ | ⟨e, he, heq⟩
  · rw [heq]
    exact .inr (.inr (.inl ⟨hnull, rfl⟩))
  · rw [heq]
    exact .inr (.inl ⟨message, rfl⟩)
  rw [heq, Dialogue.replied_attempt_bind settle_eq_ofExcept]
  cases hout : (e.eval ⟨scope, functions, lib, known⟩).replied reply s with
  | ok v => exact .inl ⟨e, v, he, hout, rfl⟩
  | error f =>
    cases f with
    | refused message => exact .inr (.inl ⟨message, rfl⟩)
    | fault f =>
      cases hdata : f.kind.isDataFault with
      | true =>
        refine .inr (.inl ⟨f.report, ?_⟩)
        rw [settle, if_pos hdata]
        rfl
      | false =>
        have hmemory : f.kind = .memory := by
          rcases Expr.error_of_eval hout with hown | ⟨hsame, -⟩
          · exact f.kind_eq_memory hown hdata
          · rw [Callee.isDataFault_of_failed hsame] at hdata
            cases hdata
        refine .inr (.inr (.inr (.inr ⟨f, hmemory, ?_⟩)))
        rw [settle, if_neg (by simp [hdata])]
        rfl
    | unwritable kind =>
      refine .inr (.inr (.inr (.inl ⟨e, kind, he, hout, ?_, rfl⟩)))
      exact (Expr.error_of_eval hout).imp_right (·.2)
    | template e' =>
      rcases Expr.error_of_eval hout with hown | ⟨-, ⟨name, args, hraises⟩ | ⟨s', template, args, hanswer⟩⟩
      · exact hown.elim
      · exact absurd ⟨name, args, hraises⟩ (hlib e')
      · exact absurd hanswer (hreply _ _ _ e')

/-- A template that fails with a fault of the host is reported. -/
theorem sandboxed_reports_template :
    ∃ (lib : Library) (reply : Unit → Text → List Value → Except Failure Text × Unit)
      (known : Text → Bool) (source : Text), source = "f()".toList ∧ known "f".toList = true ∧
      (∀ e, ¬ lib.CanRaise e) ∧
      (∀ template args, (reply () template args).1 = .error (.fault ⟨.runtime, "no".toList⟩)) ∧
      ∃ message, (sandboxed lib [] known source .null).replied reply () = .ok (.error message) := by
  have hlib : ∀ e, ¬ Library.CanRaise .empty e := by
    rintro e ⟨_, _, ⟨⟩⟩
  refine ⟨.empty, fun s _ _ => (.error (.fault ⟨.runtime, "no".toList⟩), s),
    fun name => name = "f".toList, _, rfl, by decide, hlib, fun _ _ => rfl, ?_⟩
  have hresult : (((sandboxed .empty [] (fun name => name = "f".toList)
      "f()".toList .null).replied (fun s _ _ =>
        (.error (.fault ⟨.runtime, "no".toList⟩), s)) ()).toOption.any fun r =>
      match r with
      | .value _ => false
      | .error _ => true) = true := by
    decide +kernel
  have hreports := sandboxed_reports hlib (fun s _ _ =>
    (.error (.fault ⟨.runtime, "no".toList⟩), s)) (by rintro _ _ _ _ ⟨⟩) []
    (fun name => name = "f".toList) "f()".toList .null () _ rfl
  rcases hreports with ⟨e, v, -, -, h⟩ | h | ⟨-, h⟩ | ⟨e, kind, -, -, -, h⟩ | ⟨f, -, h⟩
  case inr.inl => exact h
  all_goals
    rw [h] at hresult
    cases hresult

/-- **The text that is not reported.**  With a null character in an expression no evaluation ends in
a result, whatever the scope, the functions and the templates are. -/
theorem sandboxed_null :
    ∃ source : Text, source = "a\x00b".toList ∧
      ∀ (lib : Library) (functions : Registry) (known : Text → Bool) (scope : Value),
        sandboxed lib functions known source scope = .fail (.fault nullCharacter) := by
  refine ⟨_, rfl, fun lib functions known scope => ?_⟩
  unfold sandboxed
  dsimp only
  rw [if_neg (by decide), if_pos (by decide)]
  rfl

end Engine

end Phrasebook
