import Phrasebook.Proofs.Expression.Reporting
import Phrasebook.Proofs.Files.Faults
import Phrasebook.Proofs.Rendering.History

/-!
# What rendering and reading fail with

The standard engine reports most of what goes wrong, so that few faults come out of an evaluation
beside the errors of the language.  Documents add those of finding and decoding files, and that of a
keyword in a strange spelling.

* `Engine.keeps_among`: what comes out of the standard engine;
* `Evaluator.evaluate_fails`: what an evaluation fails with;
* `Source.offers_fails`: what reading documents fails with.
-/

namespace Phrasebook

/-! ## The standard engine -/

namespace Engine

open Dialogue

/-- **What comes out of the standard engine**: an error of the language, a null character or an
integer that is too long to be written, or a lack of memory, whatever the host does.  It asks for
known templates only. -/
theorem keeps_among (lib : Library) (functions : Registry) (known : Text → Bool) (source : Text)
    (scope : Value) :
    (sandboxed lib functions known source scope).Keeps (known · = true) (fun _ => True)
      (Failure.IsAmong [.value, .memory]) := by
  rcases sandboxed_cases lib functions known source scope with
    ⟨-, heq⟩ | ⟨message, heq⟩ | ⟨e, -, heq⟩
  · rw [heq]
    exact List.mem_cons_self
  · rw [heq]
    trivial
  · rw [heq]
    have hkeeps := (Expr.keeps_eval ⟨scope, functions, lib, known⟩ e (known · = true)
      fun _ _ hknown => hknown).keeps
    refine Keeps.bind_attempt_of hkeeps (fun v _ => trivial) (fun f hf => ?_) fun f => ?_
    · -- a failure of the expression
      cases f with
      | refused message => trivial
      | unwritable kind => exact List.mem_cons_self
      | template e => trivial
      | fault f =>
        unfold settle
        dsimp only
        cases hdata : f.kind.isDataFault with
        | true => trivial
        | false =>
          have hmemory : f.kind = .memory := by
            rcases hf with hown | ⟨-, hsame⟩
            · exact f.kind_eq_memory hown hdata
            · rw [Callee.isDataFault_of_failed hsame] at hdata
              cases hdata
          show f.kind ∈ _
          simp [hmemory]
    · -- a failure that has come back as an answer
      cases f with
      | refused message => trivial
      | unwritable kind => exact .inr List.mem_cons_self
      | template e => exact .inl rfl
      | fault f =>
        unfold settle
        dsimp only
        split
        · trivial
        · exact .inl rfl

end Engine

/-! ## Evaluations -/

namespace Evaluator

/-- The kinds of fault that an evaluation ends in: a null character in an expression or a value that
cannot be written, and a lack of memory. -/
def strayKinds : List FaultKind := [.value, .memory]

/-- All that is being evaluated is in the catalog. -/
def OnCatalog (ev : Evaluator) (s : Session) : Prop := ∀ u ∈ s.stack, ev.catalog.has u.name = true

variable {ev : Evaluator}

/-- Within templates of the catalog, where nothing else is asked for, rendering lacks neither a target
nor a template. -/
theorem EndsIn.isAmong {may : Text → Text → Prop} {s : Session} {f : Failure}
    (h : ev.EndsIn may s f) (hs : ev.OnCatalog s) (hne : s.stack ≠ [])
    (hmay : ∀ source name, may source name → ev.catalog.has name = true) :
    f.IsAmong strayKinds := by
  have hfound : ∀ name, ev.catalog.find? name = none → ev.catalog.has name ≠ true := by
    intro name hfind
    simp [Catalog.has_eq_isSome_find?, hfind]
  cases h with
  | told hkind => trivial
  | tooLong => exact List.mem_cons_self
  | noTarget hnone => exact absurd hnone hne
  | noCurrent hhead hfind => exact absurd (hs _ (List.mem_of_mem_head? hhead)) (hfound _ hfind)
  | noAsked hname hfind => exact absurd (hmay _ _ hname) (hfound _ hfind)

/-- A run that comes back to the same stack, and fails so. -/
def failingRun (stack : List Target) : Link :=
  single (fun s => s.stack = stack) fun _ => Failure.IsAmong strayKinds

theorem tied_failingRun {s : Session} (hs : ev.OnCatalog s) (hne : s.stack ≠ []) :
    Tied (failingRun s.stack) (fun _ name => ev.catalog.has name = true) ev ev := by
  refine tied_single ev (fun t t' hmarks ht => hmarks.stack.trans ht) (fun _ _ _ _ hf => hf) ?_
  rintro t ht f hf
  exact hf.isAmong (fun u hu => hs u (ht ▸ hu)) (ht ▸ hne) fun _ _ hname => hname

variable (hengine : ∀ source scope,
  (ev.engine ev.catalog.has source scope).Keeps (ev.catalog.has · = true) (fun _ => True)
    (Failure.IsAmong strayKinds))

include hengine

/-- A body fails so when whatever is evaluated on the same stack does. -/
theorem renderBody_fails {s : Session} (hs : ev.OnCatalog s) (hne : s.stack ≠ []) (b : Body)
    (habove : ∀ t : Session, t.stack = s.stack → ∀ name scope,
      Among strayKinds ((ev.evaluate name scope).outcome t)) :
    Among strayKinds ((ev.renderBody ev.evaluate b).outcome s) := by
  have hagain : ∀ name scope,
      InStep (failingRun s.stack) (ev.evaluate name scope) (ev.evaluate name scope) := by
    intro name scope
    refine inStep_single (fun t ht => ?_) (fun _ _ _ hf => hf) fun t ht => habove t ht name scope
    exact (clean_evaluate name scope t).stack.trans ht
  have hbody : InStep (failingRun s.stack) (ev.renderBody ev.evaluate b)
      (ev.renderBody ev.evaluate b) :=
    (tied_failingRun hs hne).renderBody hengine (fun _ hf _ _ _ => hf)
      fun name _ scope => hagain name scope
  exact (agreement_of_single hbody rfl).accounts

/-- **What an evaluation fails with**, if the engine asks for templates of the catalog only and fails
with errors of the language and the same kinds of fault. -/
theorem evaluate_fails (k : Nat) : ∀ s, ev.budget s.stack < k → ev.OnCatalog s → ∀ name scope,
    Among strayKinds ((ev.evaluate name scope).outcome s) := by
  -- the budget bounds how many templates can be entered above the stack
  induction k with
  | zero => intro s hk; omega
  | succ k ih =>
    intro s hk hs name scope
    rw [ev.evaluate_eq_enter]
    cases hfind : ev.catalog.find? name with
    | none =>
      obtain ⟨-, f, hout, hends, hfirst⟩ := ev.check_refuses hfind s
      rw [(ev.enter_refused hout _ scope).1]
      refine .error ?_
      by_cases hne : s.stack = []
      · obtain ⟨e, rfl⟩ := hfirst hne
        trivial
      · exact hends.isAmong hs hne nofun
    | some t =>
      by_cases hon : s.IsOn name
      · rw [(ev.enter_refused (ev.check_loop hfind hon).1 _ scope).1]
        exact among_template _
      · rw [(ev.enter_free hfind hon _ scope).1]
        have hbody : ev.OnCatalog (bodySession s name scope) := by
          rintro u hu
          rcases List.mem_cons.1 hu with rfl | hu
          · exact has_of_find? hfind
          · exact hs u hu
        refine renderBody_fails hengine hbody (List.cons_ne_nil _ _) t.body fun u hu => ?_
        have hless := ev.budget_body_lt hfind hon scope
        exact ih u (by rw [hu, bodySession_stack]; omega) fun v hv => hbody v (hu ▸ hv)

omit hengine in
/-- The standard engine fails so. -/
theorem evaluate_sandboxed_fails (c : Catalog) (lib : Library) (functions : Registry)
    (random : RandomSource) (name : Text) (scope : Value) :
    Among strayKinds
      ((Evaluator.evaluate ⟨c, .sandboxed lib functions, random⟩ name scope).outcome .fresh) :=
  evaluate_fails (fun source sc => Engine.keeps_among lib functions c.has source sc) _ _
    (Nat.lt_succ_self _) (by rintro u hu; cases hu) name scope

end Evaluator

/-! ## Documents -/

theorem ScanFault.toFailure_isAmong (f : ScanFault) (path : Text) :
    (f.toFailure path).IsAmong [.key] := by
  obtain ⟨cause, position⟩ := f
  cases cause with
  | strangeKeyword word => exact List.mem_singleton_self _
  | _ => trivial

/-- **What a document fails with**: an error of the language, or a keyword in a strange spelling. -/
theorem Template.readDocument_fails (label text : Text) : Among [.key] (readDocument label text) := by
  unfold readDocument
  split
  · exact .error (ScanFault.toFailure_isAmong _ _)
  · split
    · exact among_template _
    · exact .ok _

namespace Source

variable (settings : Settings) (files : Files) (p : Path)

/-- The kinds of fault that reading documents ends in. -/
def strayKinds : List FaultKind :=
  FaultKind.ofFiles ++ [.value, .lookup, .decoding, .byteOrder] ++ [.key]

theorem offersFile_fails : Among strayKinds (offersFile settings files p) := by
  refine .bind ((among_orFail (files.readText_fails settings.encoding p)).mono (by decide))
    fun text => ?_
  exact (Template.readDocument_fails p.text text).mono (by decide)

theorem offersDirectory_fails : Among strayKinds (offersDirectory settings files p) := by
  refine .bind ((among_orFail (files.discover_fails p settings.extensions)).mono (by decide))
    fun paths => .bind ?_ fun _ => .ok _
  exact .mapM (offersFile_fails settings files) paths

/-- **What reading documents fails with**: an error of the language, or one of these kinds of
fault. -/
theorem offers_fails (source : Source) : Among strayKinds (source.offers settings) := by
  cases source with
  | text label t => exact (Template.readDocument_fails label t).mono (by decide)
  | file files p => exact offersFile_fails settings files p
  | directory files p => exact offersDirectory_fails settings files p
  | path files p =>
    refine .bind ((among_orFail (files.isDirectory_fails p)).mono (by decide)) fun isDirectory => ?_
    split
    · exact offersDirectory_fails settings files p
    · exact offersFile_fails settings files p

end Source

end Phrasebook
