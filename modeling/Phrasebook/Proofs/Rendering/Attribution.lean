import Phrasebook.Proofs.Document.Slices
import Phrasebook.Proofs.Rendering.Arguments
import Phrasebook.Proofs.Rendering.Reaching

/-!
# Which template an error is put down to

An expression that fails, a reference whose parentheses do not close and a body without alternatives
are told with the name and the document of a template.  It is the template whose text is at fault,
however many templates are being rendered around it, and nothing that goes on around it puts another
error in the place of this one.

* `Body.Causes`: what in a body accounts for an error of some kind;
* `Reference.unclosed_of_malformed`: the references that are malformed;
* `Evaluator.Answerable`: what a template that is being rendered can be put down for;
* `Evaluator.Answerable.renderBody`: a body raises nothing else itself;
* `Evaluator.evaluate_attributes`: the errors that come out of an evaluation.
-/

namespace Phrasebook

open Evaluation
open Text (trim)

/-! ## What a body accounts for -/

/-- Errors that are put down to the text of a template: that of an expression, of a malformed
reference, and of a body without alternatives. -/
def ErrorKind.IsLocal : ErrorKind → Prop
  | expression _ | malformedReference | evaluation => True
  | general | badSyntax | badSettings | duplicate _ _ _ | notFound | cycle _ => False

/-- **The expressions of a fragment**, as errors name them: its own without the braces, those of a
block, and the arguments of a reference without the blanks around them. -/
inductive Fragment.Asks (f : Fragment) : Text → Prop
  | span (hkind : f.kind = .expression) : f.Asks (stripBraces f.text)
  | block {source : Text} (hkind : f.kind = .multiLine)
      (hpiece : .expression source ∈ blockPieces (blockInside f.text)) : f.Asks source
  | argument {name arguments source : Text} (hkind : f.kind = .reference)
      (hspan : Reference.ofSpan f.text = .applied name arguments)
      (hsource : source ∈ Reference.argumentTexts arguments) : f.Asks (trim source)

/-- A text has an opening parenthesis behind its first character, and no closing one behind
that. -/
def Text.IsUnclosed (t : Text) : Prop :=
  ∃ before after, t = before ++ '(' :: after ∧ before ≠ [] ∧ '(' ∉ before ∧ ')' ∉ after

/-- The fragments of a body, in all its alternatives. -/
def Body.fragments (b : Body) : List Fragment := b.alternatives.flatMap (·.fragments)

/-- The body has no alternatives, or one of its rules has lines and no alternatives in them. -/
def Body.IsBare : Body → Prop
  | normal alternatives => alternatives = []
  | conditional rules => ∃ r ∈ rules, r.body = some []

/-- **What in a body accounts for an error** of some kind. -/
def Body.Causes (b : Body) : ErrorKind → Prop
  | .expression source => ∃ f ∈ b.fragments, f.Asks source
  | .malformedReference => ∃ f ∈ b.fragments, f.kind = .reference ∧ Text.IsUnclosed f.text
  | .evaluation => b.IsBare
  | _ => False

/-! ## Malformed references -/

namespace Reference

theorem notMem_of_beforeLastClose? {t : Text} (h : beforeLastClose? t = none) : ')' ∉ t := by
  unfold beforeLastClose? at h
  split at h
  · rename_i hdrop
    intro hmem
    simpa using List.dropWhile_eq_nil_iff.1 hdrop ')' (List.mem_reverse.2 hmem)
  · cases h

/-- What a span is made of: the text inside, between brackets and blanks. -/
theorem exists_inside (span : Text) :
    ∃ before after, span = before ++ inside span ++ after ∧
      (∀ c ∈ before, c = '[' ∨ Text.isBlank c = true) ∧
      ∀ c ∈ after, c = ']' ∨ Text.isBlank c = true := by
  obtain ⟨a, ha, hopen⟩ := Text.exists_stripStart (· = '[') span
  obtain ⟨b, hb, hclose⟩ := Text.exists_stripEnd (· = ']') (Text.stripStart (· = '[') span)
  obtain ⟨a', ha', hfirst⟩ :=
    Text.exists_stripStart Text.isBlank (Text.stripEnd (· = ']') (Text.stripStart (· = '[') span))
  obtain ⟨b', hb', hlast⟩ := Text.exists_stripEnd Text.isBlank (Text.stripStart Text.isBlank
    (Text.stripEnd (· = ']') (Text.stripStart (· = '[') span)))
  refine ⟨a ++ a', b' ++ b, ?_, ?_, ?_⟩
  · calc span = a ++ (a' ++ (inside span ++ b') ++ b) := by
          rw [inside, trim, Text.strip, ← hb', ← ha', ← hb, ← ha]
      _ = a ++ a' ++ inside span ++ (b' ++ b) := by simp only [List.append_assoc]
  · intro c hc
    rcases List.mem_append.1 hc with hc | hc
    · exact .inl (of_decide_eq_true (hopen c hc))
    · exact .inr (hfirst c hc)
  · intro c hc
    rcases List.mem_append.1 hc with hc | hc
    · exact .inr (hlast c hc)
    · exact .inl (of_decide_eq_true (hclose c hc))

/-- **Malformed references** have an opening parenthesis behind the first character, and no closing
one behind it. -/
theorem unclosed_of_malformed {span text : Text} (h : ofSpan span = .malformed text) :
    span.IsUnclosed := by
  unfold ofSpan at h
  dsimp only at h
  split at h
  · cases h
  · cases h
  · rename_i name rest hne hcut
    split at h
    · cases h
    · rename_i hlast
      obtain ⟨a, b, hspan, ha, hb⟩ := exists_inside span
      refine ⟨a ++ name, rest ++ b, ?_, ?_, ?_, ?_⟩
      · rw [hspan, Text.eq_of_cut? hcut]
        simp
      · intro hnil
        exact hne (List.append_eq_nil_iff.1 hnil).2
      · rw [List.mem_append, not_or]
        refine ⟨fun hmem => ?_, Text.notMem_of_cut? hcut⟩
        rcases ha _ hmem with hc | hc <;> revert hc <;> decide
      · rw [List.mem_append, not_or]
        refine ⟨notMem_of_beforeLastClose? hlast, fun hmem => ?_⟩
        rcases hb _ hmem with hc | hc <;> revert hc <;> decide

end Reference

namespace Evaluator

/-! ## A template that is being rendered -/

section

variable {ev : Evaluator} {target : Target} {below : List Target} {caller : Template} {s : Session}

theorem run_expressionError (hs : s.stack = target :: below)
    (hcaller : ev.catalog.find? target.name = some caller) (what source result : Text) :
    ∃ e, (ev.expressionError what source result).outcome s = .ok e ∧
      (ev.expressionError what source result).final s = s ∧ e.kind = .expression source ∧
      e.location = ⟨some caller.source, none, none, some target.name⟩ := by
  obtain ⟨hplace, hsame⟩ := run_here hs hcaller
  unfold expressionError
  rw [outcome_bind_ok hplace, final_bind_ok hplace, hsame]
  exact ⟨_, rfl, rfl, rfl, rfl⟩

/-- For want of a target or of its template nothing is told as an error of the language. -/
theorem innermost_ne_template (ev : Evaluator) (s : Session) (e : TemplateError) :
    ev.innermost s ≠ .error (.template e) := by
  unfold innermost
  split
  · simp
  · split <;> simp

/-- A name that is required and refused is told not to be found. -/
theorem kind_of_require {n : Text} {e : TemplateError}
    (h : (ev.require n).outcome s = .error (.template e)) : e.kind = .notFound := by
  unfold require at h
  split at h
  · cases h
  · obtain ⟨-, ⟨e', hout, hkind⟩ | ⟨-, f, hout, hinnermost⟩⟩ := ev.notFound_cases n s
    · rw [outcome_bind_ok hout] at h
      cases h
      exact hkind
    · rw [outcome_bind_error hout] at h
      cases h
      exact absurd hinnermost (ev.innermost_ne_template s e)

/-- So it is when its template is to be entered. -/
theorem kind_of_check_unknown {n : Text} {e : TemplateError} (hn : ev.catalog.find? n = none)
    (h : (ev.check n).outcome s = .error (.template e)) : e.kind = .notFound := by
  obtain ⟨-, f, hout, -⟩ := ev.require_unknown hn s
  unfold check at h
  rw [outcome_bind_error hout] at h
  cases h
  exact kind_of_require hout

end

/-- **What a template that is being rendered can be put down for**: `own` has the errors that the
engine raises by itself, those of names that are not found, and those that are told to be in the
template for a cause in `cause`.  Whatever is evaluated on the way leaves the stack alone. -/
structure Answerable (ev : Evaluator) (again : Recursion) (target : Target) (below : List Target)
    (caller : Template) (cause : ErrorKind → Prop) (own : TemplateError → Prop) : Prop where
  find : ev.catalog.find? target.name = some caller
  stays : ∀ name scope s, s.stack = target :: below →
    ((again name scope).final s).stack = target :: below
  engine : ∀ source scope, ∃ may, (ev.engine ev.catalog.has source scope).Keeps may
    (fun _ => True) fun f => ∀ e, f = .template e → own e
  missing : ∀ e : TemplateError, e.kind = .notFound → own e
  caused : ∀ e : TemplateError, e.location = ⟨some caller.source, none, none, some target.name⟩ →
    cause e.kind → own e

namespace Answerable

variable {ev : Evaluator} {again : Recursion} {target : Target} {below : List Target}
  {caller : Template} {cause : ErrorKind → Prop} {own : TemplateError → Prop} {α : Type}

theorem currentTarget :
    Sourced ev again (target :: below) own Evaluation.currentTarget :=
  .read (fun _ hs => (currentTarget_cons hs).2) fun _ hs e h => by
    rw [(currentTarget_cons hs).1] at h
    cases h

/-- What is thrown at the place of the template has its cause there. -/
theorem throwHere (h : Answerable ev again target below caller cause own)
    {error : Location → TemplateError} (hplace : ∀ loc, (error loc).location = loc)
    (hcause : ∀ loc, cause (error loc).kind) :
    Sourced ev again (target :: below) own
      (ev.here >>= fun loc => throw (.template (error loc)) : Evaluation α) := by
  refine .bind_of (P := fun loc => loc = ⟨some caller.source, none, none, some target.name⟩) ?_ ?_ ?_
  · refine .read (fun s hs => (run_here hs h.find).2) fun s hs e he => ?_
    rw [(run_here hs h.find).1] at he
    cases he
  · intro s hs loc hloc
    rw [(run_here hs h.find).1] at hloc
    exact (Except.ok.inj hloc).symm
  · rintro _ rfl
    exact .throwTemplate (h.caused _ (hplace _) (hcause _))

/-- An expression that fails is told at the place of the template. -/
theorem throwExpressionError (h : Answerable ev again target below caller cause own)
    {source : Text} (hcause : cause (.expression source)) (what result : Text) :
    Sourced ev again (target :: below) own
      (ev.expressionError what source result >>= fun e => throw (.template e) : Evaluation α) := by
  refine .bind_of (P := own) ?_ ?_ fun e he => .throwTemplate he
  · refine .read (fun s hs => ?_) fun s hs e he => ?_
    · obtain ⟨-, -, hfinal, -⟩ := run_expressionError hs h.find what source result
      exact hfinal
    · obtain ⟨e', hout, -⟩ := run_expressionError hs h.find what source result
      rw [hout] at he
      cases he
  · intro s hs e he
    obtain ⟨e', hout, -, hkind, hlocation⟩ := run_expressionError hs h.find what source result
    rw [hout] at he
    cases he
    exact h.caused e hlocation (hkind ▸ hcause)

/-! ### Expressions and references -/

theorem constructScope (name : Text) (args : List Value) :
    Sourced ev again (target :: below) own (ev.constructScope name args) := by
  unfold Evaluator.constructScope
  cases args with
  | nil => exact .bind currentTarget fun _ => .pure _
  | cons v rest =>
    have htemplate : Sourced ev again (target :: below) own (ev.templateNamed name) := by
      unfold templateNamed
      split
      · exact .pure _
      · exact .throw (by simp)
    refine .bind htemplate fun t => ?_
    dsimp only
    split <;> exact .pure _

theorem callTemplate (h : Answerable ev again target below caller cause own) (name : Text)
    (args : List Value) : Sourced ev again (target :: below) own (ev.callTemplate again name args) :=
  .bind (constructScope name args) fun scope => .bind (.visit h.stays name scope) fun _ => .pure _

theorem evaluateSource (h : Answerable ev again target below caller cause own) (source : Text) :
    Sourced ev again (target :: below) own (ev.evaluateSource again source) where
  stays s hs := by
    rw [final, run_evaluateSource hs]
    exact Dialogue.stack_carryOut _ (fun name args => (h.callTemplate name args).stays) hs
  source s hs e he := by
    rw [outcome, run_evaluateSource hs] at he
    obtain ⟨may, hkeeps⟩ := h.engine source target.scope
    have hstart : ({ s with calls := s.calls ++ [(source, target.scope)] } : Session).stack =
        target :: below := hs
    rcases hkeeps.poses_of_error (fun name args => (h.callTemplate name args).stays) hstart he with
      hraises | ⟨name, args, s', hposes, hs', hcall⟩
    · exact .inl (hraises e rfl)
    · refine ((h.callTemplate name args).source s' hs' e hcall).imp_right ?_
      rintro ⟨v, hreaches, hv⟩
      exact ⟨v, .asked hs hposes hreaches, hv⟩

theorem written (v : Value) :
    Sourced ev again (target :: below) own (Evaluation.ofExcept (Fault.orFail v.written)) := by
  cases v.written with
  | ok t => exact .pure t
  | error f => exact .throw (by simp)

theorem renderExpression (h : Answerable ev again target below caller cause own) {source : Text}
    (hcause : cause (.expression source)) :
    Sourced ev again (target :: below) own (ev.renderExpression again source) := by
  refine .bind (h.evaluateSource source) fun result => ?_
  cases result with
  | error message => exact h.throwExpressionError hcause _ _
  | value v =>
    cases v with
    | null => exact h.throwExpressionError hcause _ _
    | _ => exact written _

theorem evaluateArguments (h : Answerable ev again target below caller cause own)
    {sources : List Text} (hcause : ∀ source ∈ sources, cause (.expression (trim source))) :
    Sourced ev again (target :: below) own (ev.evaluateArguments again sources) := by
  induction sources with
  | nil => exact .pure _
  | cons source rest ih =>
    refine .bind (h.evaluateSource source) fun result => ?_
    cases result with
    | error message => exact h.throwExpressionError (hcause source List.mem_cons_self) _ _
    | value v =>
      exact .bind (ih fun source' hmem => hcause source' (List.mem_cons_of_mem _ hmem))
        fun _ => .pure _

theorem require (h : Answerable ev again target below caller cause own) (name : Text) :
    Sourced ev again (target :: below) own (ev.require name) := by
  refine .read (fun s hs => ?_) fun s hs e he => h.missing e (kind_of_require he)
  cases hfind : ev.catalog.find? name with
  | none => exact (ev.require_unknown hfind s).1
  | some t =>
    rw [ev.require_known hfind]
    rfl

/-! ### Alternatives -/

theorem renderBlock (h : Answerable ev again target below caller cause own)
    {pieces : List BlockPiece}
    (hcause : ∀ source, .expression source ∈ pieces → cause (.expression source)) :
    Sourced ev again (target :: below) own (ev.renderBlock again pieces) := by
  induction pieces with
  | nil => exact .pure _
  | cons piece rest ih =>
    have hrest : Sourced ev again (target :: below) own (ev.renderBlock again rest) :=
      ih fun source hmem => hcause source (List.mem_cons_of_mem _ hmem)
    cases piece with
    | literal c => exact .bind hrest fun _ => .pure _
    | expression source =>
      exact .bind (h.renderExpression (hcause source List.mem_cons_self)) fun _ =>
        .bind hrest fun _ => .pure _

theorem renderReference (h : Answerable ev again target below caller cause own) {f : Fragment}
    (hkind : f.kind = .reference) (hasks : ∀ source, f.Asks source → cause (.expression source))
    (hopen : Text.IsUnclosed f.text → cause .malformedReference) :
    Sourced ev again (target :: below) own (ev.renderReference again (Reference.ofSpan f.text)) := by
  cases hspan : Reference.ofSpan f.text with
  | plain name =>
    exact .bind currentTarget fun _ => .bind (.visit h.stays name _) fun _ => .pure _
  | applied name arguments =>
    refine .bind (h.require name) fun _ => .bind (h.evaluateArguments fun source hsource => ?_)
      fun args => h.callTemplate name args
    exact hasks _ (.argument hkind hspan hsource)
  | malformed text =>
    exact h.throwHere (fun _ => rfl) fun _ => hopen (Reference.unclosed_of_malformed hspan)

theorem renderFragment (h : Answerable ev again target below caller cause own) {f : Fragment}
    (hasks : ∀ source, f.Asks source → cause (.expression source))
    (hopen : f.kind = .reference → Text.IsUnclosed f.text → cause .malformedReference) :
    Sourced ev again (target :: below) own (ev.renderFragment again f) := by
  unfold Evaluator.renderFragment
  split
  · rename_i hkind
    exact h.renderExpression (hasks _ (.span hkind))
  · rename_i hkind
    exact h.renderReference hkind hasks (hopen hkind)
  · rename_i hkind
    exact h.renderBlock fun source hpiece => hasks source (.block hkind hpiece)
  · exact .pure _

/-- Fragments can be put down for the expressions and the references in them. -/
theorem renderFragments (h : Answerable ev again target below caller cause own)
    {fragments : List Fragment}
    (hasks : ∀ f ∈ fragments, ∀ source, f.Asks source → cause (.expression source))
    (hopen : ∀ f ∈ fragments, f.kind = .reference → Text.IsUnclosed f.text →
      cause .malformedReference) :
    Sourced ev again (target :: below) own (ev.renderFragments again fragments) := by
  induction fragments with
  | nil => exact .pure _
  | cons f rest ih =>
    refine .bind (h.renderFragment (hasks f List.mem_cons_self) (hopen f List.mem_cons_self))
      fun _ => .bind (ih ?_ ?_) fun _ => .pure _
    · exact fun g hg => hasks g (List.mem_cons_of_mem _ hg)
    · exact fun g hg => hopen g (List.mem_cons_of_mem _ hg)

/-! ### Bodies -/

theorem renderAlternatives (h : Answerable ev again target below caller cause own)
    {alternatives : List Alternative}
    (hasks : ∀ a ∈ alternatives, ∀ f ∈ a.fragments, ∀ source, f.Asks source →
      cause (.expression source))
    (hopen : ∀ a ∈ alternatives, ∀ f ∈ a.fragments, f.kind = .reference →
      Text.IsUnclosed f.text → cause .malformedReference)
    (hnone : alternatives = [] → cause .evaluation) :
    Sourced ev again (target :: below) own (ev.renderAlternatives again alternatives) := by
  have hone : ∀ a ∈ alternatives,
      Sourced ev again (target :: below) own (ev.renderFragments again a.fragments) :=
    fun a ha => h.renderFragments (hasks a ha) (hopen a ha)
  match alternatives, hone, hnone with
  | [], _, hnone => exact h.throwHere (fun _ => rfl) fun _ => hnone rfl
  | [a], hone, _ => exact hone a List.mem_cons_self
  | a :: b :: rest, hone, _ =>
    have hchoose : Sourced ev again (target :: below) own
        (ev.choose (a :: b :: rest).length) := ⟨fun s hs => hs, fun s hs e he => by cases he⟩
    refine .bind hchoose fun i => hone _ ?_
    cases hi : (a :: b :: rest)[i % (a :: b :: rest).length]? with
    | none => exact List.mem_cons_self
    | some c => exact List.mem_of_getElem? hi

/-- A guard raises nothing: it is only attempted. -/
theorem ruleApplies (h : Answerable ev again target below caller cause own) (r : Rule) :
    Sourced ev again (target :: below) own (ev.ruleApplies again r) := by
  have hrecord : ∀ message, Sourced ev again (target :: below) own (Evaluation.record message) :=
    fun message => .update fun _ => rfl
  unfold Evaluator.ruleApplies
  split
  · exact .pure _
  · refine .bind (.attempt (h.evaluateSource _)) fun result => ?_
    match result with
    | .error f => exact .bind currentTarget fun _ => .bind (hrecord _) fun _ => .pure _
    | .ok (.error message) =>
      exact .bind currentTarget fun _ => .bind (hrecord _) fun _ => .pure _
    | .ok (.value v) => exact .pure _

theorem renderRules (h : Answerable ev again target below caller cause own) {rules : List Rule}
    (hbodies : ∀ r ∈ rules, ∀ alternatives, r.body = some alternatives →
      Sourced ev again (target :: below) own (ev.renderAlternatives again alternatives)) :
    Sourced ev again (target :: below) own (ev.renderRules again rules) := by
  induction rules with
  | nil => exact .pure _
  | cons r rest ih =>
    have hrest : Sourced ev again (target :: below) own (ev.renderRules again rest) :=
      ih fun r' hr' => hbodies r' (List.mem_cons_of_mem _ hr')
    refine .bind (h.ruleApplies r) fun applies => ?_
    split
    · split
      · rename_i alternatives hbody
        exact .bind (hbodies r List.mem_cons_self alternatives hbody) fun _ => .pure _
      · exact hrest
    · exact hrest

/-- **A body raises nothing itself but what its text is the cause of.** -/
theorem renderBody (h : Answerable ev again target below caller cause own) {b : Body}
    (hcause : ∀ kind, b.Causes kind → cause kind) :
    Sourced ev again (target :: below) own (ev.renderBody again b) := by
  have hfragment : ∀ a ∈ b.alternatives, ∀ f ∈ a.fragments, f ∈ b.fragments :=
    fun a ha f hf => List.mem_flatMap.2 ⟨a, ha, hf⟩
  have hasks : ∀ a ∈ b.alternatives, ∀ f ∈ a.fragments, ∀ source, f.Asks source →
      cause (.expression source) :=
    fun a ha f hf source hsource => hcause (.expression source) ⟨f, hfragment a ha f hf, hsource⟩
  have hopen : ∀ a ∈ b.alternatives, ∀ f ∈ a.fragments, f.kind = .reference →
      Text.IsUnclosed f.text → cause .malformedReference :=
    fun a ha f hf hkind hunclosed =>
      hcause .malformedReference ⟨f, hfragment a ha f hf, hkind, hunclosed⟩
  cases b with
  | normal alternatives =>
    exact .bind (h.renderAlternatives hasks hopen fun hnil => hcause .evaluation hnil)
      fun _ => .pure _
  | conditional rules =>
    refine h.renderRules fun r hr alternatives hbody => ?_
    have hmem : ∀ a ∈ alternatives, a ∈ (Body.conditional rules).alternatives :=
      fun a ha => List.mem_flatMap.2 ⟨r, hr, by rwa [hbody]⟩
    refine h.renderAlternatives (fun a ha => hasks a (hmem a ha)) (fun a ha => hopen a (hmem a ha)) ?_
    rintro rfl
    exact hcause .evaluation ⟨r, hr, hbody⟩

end Answerable

/-! ## Every evaluation -/

/-- An error that a visit raises itself: its template is of the catalog, its text is the cause, and
the error tells its name and document. -/
def AnswersFor (ev : Evaluator) (v : Visit) (e : TemplateError) : Prop :=
  ∃ t, ev.catalog.find? v.name = some t ∧
    e.location = ⟨some t.source, none, none, some v.name⟩ ∧ t.body.Causes e.kind

/-- What is told of no template's text: the errors of the host, and those of names that are not
found and of loops. -/
def IsOther (host : TemplateError → Prop) (e : TemplateError) : Prop :=
  host e ∨ e.kind = .notFound ∨ ∃ chain, e.kind = .cycle chain

variable {ev : Evaluator} {host : TemplateError → Prop}

/-- The body of a template that is entered can be put down for what its text is the cause of. -/
theorem answerable_body
    (hengine : ∀ source scope, ∃ may, (ev.engine ev.catalog.has source scope).Keeps may
      (fun _ => True) fun f => ∀ e, f = .template e → host e)
    {v : Visit} {t : Template} (hfind : ev.catalog.find? v.name = some t) :
    Answerable ev ev.evaluate ⟨v.name, v.scope⟩ v.session.stack t t.body.Causes
      fun e => IsOther host e ∨ ev.AnswersFor v e where
  find := hfind
  stays name scope s hs := (clean_evaluate name scope s).stack.trans hs
  engine source scope := by
    obtain ⟨may, hkeeps⟩ := hengine source scope
    exact ⟨may, hkeeps.mono fun f hf e he => .inl (.inl (hf e he))⟩
  missing e hkind := .inl (.inr (.inl hkind))
  caused e hlocation hcause := .inr ⟨t, hfind, hlocation, hcause⟩

/-- **One step of the recursion**: an error that comes out is told of no template's text, or the
text of the template that is entered is its cause, or it is that of an evaluation above it. -/
theorem source_of_error
    (hengine : ∀ source scope, ∃ may, (ev.engine ev.catalog.has source scope).Keeps may
      (fun _ => True) fun f => ∀ e, f = .template e → host e)
    {v : Visit} {e : TemplateError} (herror : v.outcome ev.evaluate = .error (.template e)) :
    IsOther host e ∨ ev.AnswersFor v e ∨
      ∃ t w, ev.catalog.find? v.name = some t ∧ ¬ v.session.IsOn v.name ∧
        ev.Reaches ev.evaluate (ev.renderBody ev.evaluate t.body)
          (bodySession v.session v.name v.scope) w ∧
        w.session.stack = ⟨v.name, v.scope⟩ :: v.session.stack ∧
        w.outcome ev.evaluate = .error (.template e) := by
  cases hfind : ev.catalog.find? v.name with
  | none =>
    obtain ⟨-, f, hout, -⟩ := ev.check_unknown hfind v.session
    rw [outcome_evaluate_eq_enter, Visit.outcome, (ev.enter_refused hout _ _).1] at herror
    cases herror
    exact .inl (.inr (.inl (kind_of_check_unknown hfind hout)))
  | some t =>
    by_cases hon : v.session.IsOn v.name
    · obtain ⟨hout, -⟩ := ev.check_loop hfind hon
      rw [outcome_evaluate_eq_enter, Visit.outcome, (ev.enter_refused hout _ _).1] at herror
      cases herror
      exact .inl (.inr (.inr ⟨_, rfl⟩))
    · rw [outcome_evaluate_free hfind hon] at herror
      have hbody := (answerable_body hengine hfind).renderBody fun _ hcause => hcause
      rcases hbody.source _ (bodySession_stack _ _ _) e herror with (hother | hown) | habove
      · exact .inl hother
      · exact .inr (.inl hown)
      · obtain ⟨w, hreaches, hstack, hw⟩ := habove
        exact .inr (.inr ⟨t, w, rfl, hon, hreaches, hstack, hw⟩)

/-- **Every error has its source in a visit**, at whatever depth, that fails with the very same
error. -/
theorem exists_visit_of_error
    (hengine : ∀ source scope, ∃ may, (ev.engine ev.catalog.has source scope).Keeps may
      (fun _ => True) fun f => ∀ e, f = .template e → host e)
    {e : TemplateError} (k : Nat) :
    ∀ v : Visit, ev.budget v.session.stack < k → v.outcome ev.evaluate = .error (.template e) →
      IsOther host e ∨ ∃ w, ev.Within v w ∧ w.outcome ev.evaluate = .error (.template e) ∧
        ev.AnswersFor w e := by
  -- the budget bounds how many templates can be entered above the stack of `v`
  induction k with
  | zero => intro v hv; omega
  | succ k ih =>
    intro v hv herror
    rcases source_of_error hengine herror with hother | hown | habove
    · exact .inl hother
    · exact .inr ⟨v, .self v, herror, hown⟩
    · obtain ⟨t, w, hfind, hon, hreaches, hstack, hw⟩ := habove
      have hbudget : ev.budget w.session.stack < k := by
        rw [hstack]
        exact Nat.lt_of_lt_of_le (ev.budget_body_lt hfind hon v.scope) (Nat.le_of_lt_succ hv)
      refine (ih w hbudget hw).imp_right ?_
      rintro ⟨u, hwithin, hu, hanswers⟩
      exact ⟨u, .through hfind hon hreaches hwithin, hu, hanswers⟩

theorem not_isOther_of_isLocal {e : TemplateError} (hlocal : e.kind.IsLocal) (hhost : ¬ host e) :
    ¬ IsOther host e := by
  rintro (hraised | hkind | ⟨chain, hkind⟩)
  · exact hhost hraised
  · rw [hkind] at hlocal
    exact hlocal
  · rw [hkind] at hlocal
    exact hlocal

/-- **Errors are put down to the template at fault.**  With the standard engine, for every catalog,
library, random source, template and scope:

* an error about an expression, a malformed reference or a body without alternatives that comes out,
  unless a function of the host raises it, is the error of a template evaluated on the way, at
  whatever depth; it tells the name and the document of this template, which is in the catalog, and
  the text of its body is the cause;
* an error of the language that any template evaluated on the way fails with, except for guards, is
  what comes out at the top, neither replaced nor wrapped. -/
theorem evaluate_attributes (c : Catalog) (lib : Library) (functions : Registry)
    (random : RandomSource) (name : Text) (scope : Value) :
    let ev : Evaluator := ⟨c, Engine.sandboxed lib functions, random⟩
    let top : Visit := ⟨name, scope, .fresh⟩
    (∀ e, (ev.evaluate name scope).outcome .fresh = .error (.template e) → e.kind.IsLocal →
      ¬ lib.CanRaise e → ∃ v t, ev.Within top v ∧
        v.outcome ev.evaluate = .error (.template e) ∧ c.find? v.name = some t ∧
        e.location = ⟨some t.source, none, none, some v.name⟩ ∧ t.body.Causes e.kind) ∧
      ∀ v e, ev.Within top v → v.outcome ev.evaluate = .error (.template e) →
        (ev.evaluate name scope).outcome .fresh = .error (.template e) := by
  intro ev top
  have hengine : ∀ source scope, ∃ may, (ev.engine ev.catalog.has source scope).Keeps may
      (fun _ => True) fun f => ∀ e, f = .template e → lib.CanRaise e :=
    fun source scope => ⟨_, Engine.keeps_sandboxed lib functions _ source scope⟩
  refine ⟨fun e herror hlocal hhost => ?_, fun v e hwithin herror => ?_⟩
  · rcases exists_visit_of_error hengine _ top (Nat.lt_succ_self _) herror with hother | hsource
    · exact absurd hother (not_isOther_of_isLocal hlocal hhost)
    · obtain ⟨v, hwithin, hv, t, hfind, hlocation, hcause⟩ := hsource
      exact ⟨v, t, hwithin, hv, hfind, hlocation, hcause⟩
  · have hpasses := fun source scope => Engine.handsOn_sandboxed lib functions c.has source scope
    exact hwithin.hands_on hpasses herror

/-- An argument that fails below a call in an expression and an expression of a block. -/
theorem evaluate_attributes_nested :
    ∃ (ev : Evaluator) (e : TemplateError) (v : Visit) (t : Template),
      (Template.readDocument "d"
          "#a\n-\x7bb()\x7d\n#b\n-```@\x7bc(1)\x7d```\n#c(x)\n-[b(x, z )]".toList).toOption =
        some ev.catalog.templates ∧
      (ev.evaluate "a" .null).outcome .fresh = .error (.template e) ∧
      e.kind = .expression "z".toList ∧ ev.Within ⟨"a", .null, .fresh⟩ v ∧ v.name = "c".toList ∧
      v.outcome ev.evaluate = .error (.template e) ∧ ev.catalog.find? v.name = some t ∧
      t.body.Causes e.kind := by
  let line : Nat → FragmentKind → Text → Body :=
    fun n kind text => .normal [⟨[⟨kind, text, ⟨n, 2⟩⟩], n⟩]
  let c : Catalog := ⟨[⟨"a", [], line 2 .expression "\x7bb()\x7d", "d", 1⟩,
    ⟨"b", [], line 4 .multiLine "```@\x7bc(1)\x7d```", "d", 3⟩,
    ⟨"c", ["x"], line 6 .reference "[b(x, z )]", "d", 5⟩], by decide⟩
  let lib : Library := .empty
  let ev : Evaluator := ⟨c, .sandboxed lib [], fun turn _ => turn⟩
  have hlib : ∀ e, ¬ lib.CanRaise e := by
    rintro e ⟨_, _, h⟩
    cases h
  let e : TemplateError := .ofKind (.expression "z")
    ("Error occurs when evaluating argument 'z' in template 'c': " ++
      "Unknown name 'z' in expression") ⟨some "d", none, none, some "c"⟩ none
  have herror : (ev.evaluate "a" .null).outcome .fresh = .error (.template e) := by decide +kernel
  obtain ⟨v, t, hwithin, hv, hfind, hlocation, hcause⟩ :=
    (evaluate_attributes c lib [] (fun turn _ => turn) "a" .null).1 e herror trivial (hlib e)
  exact ⟨ev, e, v, t, by decide +kernel, herror, rfl, hwithin,
    (Option.some.inj (congrArg Location.template hlocation)).symm, hv, hfind, hcause⟩

end Evaluator

end Phrasebook
