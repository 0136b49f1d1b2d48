import Phrasebook.Book
import Phrasebook.Proofs.Document.Phrase
import Phrasebook.Proofs.Rendering.Termination

/-!
# Interpolation

A phrase renders to its texts with the values of its names between them.  The texts come out as
they are, whatever they hold, and so do the values: nothing in them is read as template syntax.

* `Evaluation.Yields`: a computation gives a result and makes no choice;
* `Evaluator.yields_fragments`: the fragments of a phrase;
* `Book.evaluate_phrase`: a phrase from its document to the output.
-/

namespace Phrasebook

namespace Evaluation

variable {α β : Type} {stack : List Target}

/-! ## Computations without choices -/

/-- On a stack, the computation gives a result, leaves the stack alone and makes no choice. -/
structure Yields (stack : List Target) (x : Evaluation α) (a : α) : Prop where
  outcome : ∀ s : Session, s.stack = stack → x.outcome s = .ok a
  balanced : ∀ s : Session, s.stack = stack → (x.final s).stack = stack
  choices : ∀ s : Session, s.stack = stack → (x.final s).choices = s.choices

namespace Yields

theorem pure (a : α) : Yields stack (Pure.pure a) a where
  outcome s _ := outcome_pure a s
  balanced s hs := by rw [final_pure, hs]
  choices s _ := by rw [final_pure]

theorem bind {x : Evaluation α} {f : α → Evaluation β} {a : α} {b : β} (hx : Yields stack x a)
    (hf : Yields stack (f a) b) : Yields stack (x >>= f) b where
  outcome s hs := by
    rw [outcome_bind_ok (hx.outcome s hs)]
    exact hf.outcome _ (hx.balanced s hs)
  balanced s hs := by
    rw [final_bind_ok (hx.outcome s hs)]
    exact hf.balanced _ (hx.balanced s hs)
  choices s hs := by
    rw [final_bind_ok (hx.outcome s hs), hf.choices _ (hx.balanced s hs), hx.choices s hs]

theorem update {f : Session → Session} (hstack : ∀ s, (f s).stack = s.stack)
    (hchoices : ∀ s, (f s).choices = s.choices) :
    Yields stack (modify f : Evaluation PUnit) ⟨⟩ where
  outcome s _ := outcome_modify f s
  balanced s hs := by rw [final_modify, hstack, hs]
  choices s _ := by rw [final_modify, hchoices]

theorem currentTarget (target : Target) (below : List Target) :
    Yields (target :: below) Evaluation.currentTarget target where
  outcome _ hs := (currentTarget_cons hs).1
  balanced s hs := by rw [(currentTarget_cons hs).2, hs]
  choices _ hs := by rw [(currentTarget_cons hs).2]

end Yields

end Evaluation

namespace Evaluator

open Evaluation

variable {ev : Evaluator} {again : Recursion} {target : Target} {below : List Target}

/-! ## The fragments of a phrase -/

/-- An expression that has a text as its value renders to that text. -/
theorem yields_expression {source t : Text}
    (h : ev.engine ev.catalog.has source target.scope = .done (.value (.text t))) :
    Yields (target :: below) (ev.renderExpression again source) t := by
  have hsource : Yields (target :: below) (ev.evaluateSource again source) (.value (.text t)) := by
    have hcalls : Yields (target :: below)
        (modify fun s => { s with calls := s.calls ++ [(source, target.scope)] } : Evaluation PUnit)
        ⟨⟩ := .update (fun _ => rfl) fun _ => rfl
    unfold evaluateSource
    refine (Yields.currentTarget target below).bind (hcalls.bind ?_)
    rw [h]
    exact .pure _
  exact hsource.bind (.pure t)

/-- A fragment that stands for a text renders to it, and does nothing else. -/
theorem renderFragment_literal {f : Fragment} (h : f.kind.isLiteral = true) :
    ev.renderFragment again f = pure (unescape f.text) := by
  obtain ⟨kind, text, position⟩ := f
  cases kind <;> first | rfl | cases h

theorem renderFragment_slot {f : Fragment} {s : Slot} (hs : s.name.IsPlainName)
    (hf : f.content = Piece.content (.expression, s.expression)) :
    ev.renderFragment again f = ev.renderExpression again s.name := by
  obtain ⟨kind, text, position⟩ := f
  cases hf
  show ev.renderExpression again (stripBraces s.expression) = _
  rw [Slot.expression, stripBraces_name hs]

/-- Fragments that stand for a text render to it. -/
theorem yields_literal {stack : List Target} {line : List Piece} {fs gs : List Fragment} {t u : Text}
    (hline : Spells line t) (hfs : fs.map Fragment.content = line.map Piece.content)
    (hgs : Yields stack (ev.renderFragments again gs) u) :
    Yields stack (ev.renderFragments again (fs ++ gs)) (t ++ u) := by
  obtain ⟨hkinds, rfl⟩ := hline
  induction line generalizing fs with
  | nil =>
    rw [List.map_nil, List.map_eq_nil_iff] at hfs
    rw [hfs]
    exact hgs
  | cons p line ih =>
    obtain ⟨f, fs, rfl, hf, hfs⟩ := List.map_eq_cons_iff.1 hfs
    have hrest := ih hfs fun q hq => hkinds q (List.mem_cons_of_mem p hq)
    obtain ⟨hkind, htext⟩ : f.kind = p.1.fragmentKind ∧ f.text = p.2 := Prod.mk.inj hf
    have hliteral : f.kind.isLiteral = true :=
      hkind ▸ TokenKind.isLiteral_fragmentKind (hkinds p List.mem_cons_self)
    rw [List.cons_append, renderFragments, renderFragment_literal hliteral, htext,
      List.flatMap_cons, List.append_assoc]
    exact (Yields.pure _).bind (hrest.bind (.pure _))

/-- Fragments that stand for names with texts behind them render to the values and the texts. -/
theorem yields_slots {line : List Piece} {slots : List Slot} {fs : List Fragment}
    {value : Text → Text} (hline : Fills line slots) (hnames : ∀ s ∈ slots, s.name.IsPlainName)
    (hvalues : ∀ s ∈ slots, ev.engine ev.catalog.has s.name target.scope =
      .done (.value (.text (value s.name))))
    (hfs : fs.map Fragment.content = line.map Piece.content) :
    Yields (target :: below) (ev.renderFragments again fs) (slots.flatMap (Slot.filled value)) := by
  induction hline generalizing fs with
  | nil =>
    rw [List.map_nil, List.map_eq_nil_iff] at hfs
    rw [hfs]
    exact .pure _
  | @cons line rest s slots hline _ ih =>
    obtain ⟨f, fs, rfl, hf, hfs⟩ := List.map_eq_cons_iff.1 hfs
    rw [List.map_append] at hfs
    obtain ⟨fs₁, fs₂, rfl, hfs₁, hfs₂⟩ := List.map_eq_append_iff.1 hfs
    have hrest := ih (fun s' hs' => hnames s' (List.mem_cons_of_mem s hs'))
      (fun s' hs' => hvalues s' (List.mem_cons_of_mem s hs')) hfs₂
    have hexpression : Yields (target :: below) (ev.renderFragment again f) (value s.name) := by
      rw [renderFragment_slot (hnames s List.mem_cons_self) hf]
      exact yields_expression (hvalues s List.mem_cons_self)
    rw [renderFragments, List.flatMap_cons, Slot.filled, List.append_assoc]
    exact hexpression.bind ((yields_literal hline hfs₁ hrest).bind (.pure _))

/-- The fragments of a phrase render to its texts with the values between them. -/
theorem yields_fragments {p : Phrase} (hp : p.Writable) {line₀ line : List Piece} {fs : List Fragment}
    {value : Text → Text} (hline₀ : Spells line₀ p.first) (hline : Fills line p.slots)
    (hvalues : ∀ s ∈ p.slots, ev.engine ev.catalog.has s.name target.scope =
      .done (.value (.text (value s.name))))
    (hfs : fs.map Fragment.content = (line₀ ++ line).map Piece.content) :
    Yields (target :: below) (ev.renderFragments again fs) (p.filled value) := by
  rw [List.map_append] at hfs
  obtain ⟨fs₁, fs₂, rfl, hfs₁, hfs₂⟩ := List.map_eq_append_iff.1 hfs
  exact yields_literal hline₀ hfs₁ (yields_slots hline hp.names hvalues hfs₂)

/-- A body with one alternative renders without a choice. -/
theorem yields_body {a : Alternative} {t : Text} {stack : List Target}
    (h : Yields stack (ev.renderFragments again a.fragments) t) :
    Yields stack (ev.renderBody again (.normal [a])) (some t) :=
  h.bind (.pure _)

end Evaluator

/-! ## From the document to the output -/

theorem Catalog.insertAll_singleton (t : Template) :
    ∃ c, Catalog.empty.insertAll [t] = .ok c ∧ c.find? t.name = some t := by
  have hinsert : ∃ c, Catalog.empty.insert t = .ok c ∧ c.templates = [t] := by
    unfold Catalog.insert
    split
    · rename_i old hold
      cases hold
    · exact ⟨_, rfl, rfl⟩
  obtain ⟨c, hc, htemplates⟩ := hinsert
  refine ⟨c, ?_, ?_⟩
  · rw [Catalog.insertAll, List.foldlM_cons, hc]
    rfl
  · rw [Catalog.find?, htemplates, List.find?_cons_of_pos (by simp)]

/-- An evaluation of a template with one alternative. -/
theorem Evaluator.evaluate_alternative {ev : Evaluator} {name : Text} {t : Template} {a : Alternative}
    {scope : Value} {u : Text} (hfind : ev.catalog.find? name = some t) (hbody : t.body = .normal [a])
    (h : Evaluation.Yields [⟨name, scope⟩] (ev.renderFragments ev.evaluate a.fragments) u) :
    (ev.evaluate name scope).outcome .fresh = .ok (some u) ∧
      ((ev.evaluate name scope).final .fresh).choices = [] := by
  have hfresh : ¬ Session.fresh.IsOn name := by
    rintro ⟨target, hmem, -⟩
    cases hmem
  obtain ⟨houtcome, hfinal⟩ := ev.enter_free hfind hfresh ev.evaluate scope
  rw [Evaluation.outcome, Evaluation.final, run_evaluate_eq_enter]
  change (ev.enter ev.evaluate name scope).outcome .fresh = _ ∧
    ((ev.enter ev.evaluate name scope).final .fresh).choices = []
  have hyields := yields_body h
  rw [houtcome, hfinal, hbody]
  exact ⟨hyields.outcome _ rfl, hyields.choices _ rfl⟩

/-- **Interpolation.**  Every phrase can be written as a template: its document is read, and
evaluating the template in a scope that binds the names to texts gives the texts of the phrase with
the values between them, without a random choice.  The values are arbitrary texts. -/
theorem Book.evaluate_phrase {p : Phrase} (hp : p.Writable) (settings : Settings)
    (functions : Registry) (label : Text) :
    ∃ b, (Book.empty settings (.standard functions)).addText label p.document = .ok b ∧
      ∀ (lib : Library) (random : RandomSource) (entries : List (Value × Value))
        (value : Text → Text),
        (∀ s ∈ p.slots, Value.lookupName? entries s.name = some (.text (value s.name))) →
          (b.evaluate lib random "t" (.dict entries)).outcome .fresh = .ok (some (p.filled value)) ∧
            ((b.evaluate lib random "t" (.dict entries)).final .fresh).choices = [] := by
  obtain ⟨t, a, line₀, line, hread, hname, hbody, hline₀, hline, hfragments⟩ :=
    Phrase.readDocument hp label
  obtain ⟨c, hc, hfind⟩ := Catalog.insertAll_singleton t
  refine ⟨⟨settings, .standard functions, [t], c, none⟩, ?_, ?_⟩
  · rw [addText, hread]
    show Book.add (Book.empty settings (.standard functions)) [t] = _
    have hcatalog : Catalog.ofList ((Book.empty settings (.standard functions)).added ++ [t]) = .ok c :=
      hc
    rw [add, run_insert, hcatalog]
    rfl
  · intro lib random entries value hvalues
    rw [hname] at hfind
    refine Evaluator.evaluate_alternative hfind hbody ?_
    refine Evaluator.yields_fragments hp hline₀ hline (fun s hs => ?_) hfragments
    exact Engine.sandboxed_name lib functions _ (hp.names s hs) (hvalues s hs)

/-- A phrase with a brace in front of a name, and a value that looks like an expression. -/
theorem Book.evaluate_phrase_brace :
    ∃ (p : Phrase) (b : Book), p.Writable ∧ p.document = "#t\n- \\\x7b\x7bx\x7d\\\\\n".toList ∧
      (Book.empty .standard (.standard [])).addText "d" p.document = .ok b ∧
      ∀ (lib : Library) (random : RandomSource),
        (b.evaluate lib random "t" (.dict [(.text "x", .text "[u]@\x7bx\x7d")])).outcome .fresh =
          .ok (some "\x7b[u]@\x7bx\x7d\\".toList) := by
  have hname : Text.IsPlainName ['x'] := ⟨by simp, by decide, by decide, by decide⟩
  have hwritable : Phrase.Writable ⟨['\x7b'], [⟨['x'], ['\\']⟩]⟩ := by
    refine ⟨fun s hs => ?_, by decide, by decide, by decide, by decide⟩
    rw [List.mem_singleton.1 hs]
    exact hname
  obtain ⟨b, hb, hrender⟩ := Book.evaluate_phrase hwritable .standard [] "d"
  refine ⟨_, b, hwritable, rfl, hb, fun lib random => ?_⟩
  refine (hrender lib random _ (fun _ => "[u]@\x7bx\x7d") fun s hs => ?_).1
  rw [List.mem_singleton.1 hs]
  rfl

end Phrasebook
