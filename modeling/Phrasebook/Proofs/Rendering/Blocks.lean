import Phrasebook.Proofs.Document.Block
import Phrasebook.Proofs.Rendering.Calling
import Phrasebook.Proofs.Rendering.Interpolation

/-!
# Rendering blocks

A block renders to its raw texts with the values of its names between them.  The raw texts are
copied character by character, a value goes into the output as it is, and the engine is asked for
each name in turn and for nothing else.

* `Evaluator.run_renderBlock_literal`, `Evaluator.run_renderBlock_slots`: the pieces of a block;
* `Evaluator.run_renderFragment_block`: a block in an evaluation;
* `Book.evaluate_block`: a block from its document to the output.
-/

namespace Phrasebook

namespace Evaluator

open Evaluation

variable {ev : Evaluator} {again : Recursion} {target : Target} {below : List Target} {s : Session}

/-- The session in which the engine has been asked for the names of a phrase. -/
def named (s : Session) (scope : Value) (slots : List Slot) : Session :=
  { s with calls := s.calls ++ slots.map fun slot => (slot.name, scope) }

/-- The characters of a raw text are copied. -/
theorem run_renderBlock_literal {pieces : List BlockPiece} {u : Text} {s' : Session} (t : Text)
    (h : (ev.renderBlock again pieces).run s = (.ok u, s')) :
    (ev.renderBlock again (t.map .literal ++ pieces)).run s = (.ok (t ++ u), s') := by
  induction t with
  | nil => exact h
  | cons c t ih =>
    obtain ⟨hout, hfinal⟩ := run_eq_iff.1 ih
    rw [List.map_cons, List.cons_append, renderBlock, Evaluation.run_bind, hout, hfinal]
    rfl

/-- An expression whose value is a text puts it into the output. -/
theorem run_renderExpression {source t : Text} (hs : s.stack = target :: below)
    (h : ev.engine ev.catalog.has source target.scope = .done (.value (.text t))) :
    (ev.renderExpression again source).run s =
      (.ok t, { s with calls := s.calls ++ [(source, target.scope)] }) := by
  have hsource := run_evaluateSource_done ev again hs h
  obtain ⟨hout, hfinal⟩ := run_eq_iff.1 hsource
  unfold renderExpression
  rw [Evaluation.run_bind, hout, hfinal]
  rfl

/-- Names and raw texts render to the values and the texts, from left to right. -/
theorem run_renderBlock_slots {slots : List Slot} {value : Text → Text}
    (hs : s.stack = target :: below)
    (hvalues : ∀ slot ∈ slots, ev.engine ev.catalog.has slot.name target.scope =
      .done (.value (.text (value slot.name)))) :
    (ev.renderBlock again (slots.flatMap Slot.blockPieces)).run s =
      (.ok (slots.flatMap (Slot.filled value)), named s target.scope slots) := by
  induction slots generalizing s with
  | nil =>
    rw [named, List.map_nil, List.append_nil]
    rfl
  | cons slot slots ih =>
    have hfirst : (ev.renderExpression again slot.name).run s = _ :=
      run_renderExpression hs (hvalues slot List.mem_cons_self)
    obtain ⟨hout, hfinal⟩ := run_eq_iff.1 hfirst
    have hrest := ih (s := { s with calls := s.calls ++ [(slot.name, target.scope)] }) hs
      fun slot' hslot' => hvalues slot' (List.mem_cons_of_mem slot hslot')
    obtain ⟨hout', hfinal'⟩ := run_eq_iff.1 (run_renderBlock_literal slot.after hrest)
    rw [List.flatMap_cons, Slot.blockPieces, List.cons_append, renderBlock, Evaluation.run_bind, hout,
      hfinal]
    dsimp only
    rw [Evaluation.run_bind, hout', hfinal', List.flatMap_cons, Slot.filled, List.append_assoc, named,
      named, List.map_cons, List.append_assoc]
    rfl

/-- **A block in an evaluation** renders to its texts with the values of its names between them. -/
theorem run_renderFragment_block {p : Phrase} (hp : p.Quotable) {f : Fragment}
    (hf : f.content = (.multiLine, p.block)) {value : Text → Text} (hs : s.stack = target :: below)
    (hvalues : ∀ slot ∈ p.slots, ev.engine ev.catalog.has slot.name target.scope =
      .done (.value (.text (value slot.name)))) :
    (ev.renderFragment again f).run s = (.ok (p.filled value), named s target.scope p.slots) := by
  obtain ⟨kind, text, position⟩ := f
  cases hf
  show (ev.renderBlock again (blockPieces (blockInside p.block))).run s = _
  rw [Phrase.blockInside_block, hp.blockPieces_raw]
  exact run_renderBlock_literal p.first (run_renderBlock_slots hs hvalues)

/-- A fragment alone renders to its text. -/
theorem run_renderFragments_single {f : Fragment} {u : Text} {s' : Session}
    (h : (ev.renderFragment again f).run s = (.ok u, s')) :
    (ev.renderFragments again [f]).run s = (.ok u, s') := by
  obtain ⟨hout, hfinal⟩ := run_eq_iff.1 h
  rw [renderFragments, Evaluation.run_bind, hout, hfinal]
  show (Except.ok (u ++ []), s') = _
  rw [List.append_nil]

/-- An evaluation of a template with one alternative gives what its fragments give. -/
theorem run_evaluate_alternative {name : Text} {t : Template} {a : Alternative} {scope : Value}
    {u : Text} {s' : Session} (hfind : ev.catalog.find? name = some t) (hbody : t.body = .normal [a])
    (h : (ev.renderFragments ev.evaluate a.fragments).run (bodySession .fresh name scope) =
      (.ok u, s')) :
    (ev.evaluate name scope).run .fresh = (.ok (some u), { s' with stack := s'.stack.tail }) := by
  have hfresh : ¬ Session.fresh.IsOn name := by
    rintro ⟨target, hmem, -⟩
    cases hmem
  have hrun : (ev.renderBody ev.evaluate t.body).run (bodySession .fresh name scope) =
      (.ok (some u), s') := by
    obtain ⟨hout, hfinal⟩ := run_eq_iff.1 h
    rw [hbody]
    show (ev.renderFragments ev.evaluate a.fragments >>= fun u => pure (some u)).run _ = _
    rw [Evaluation.run_bind, hout, hfinal]
    rfl
  obtain ⟨hout, hfinal⟩ := run_eq_iff.1 hrun
  obtain ⟨houtcome, hleft⟩ := ev.enter_free hfind hfresh ev.evaluate scope
  rw [run_evaluate_eq_enter, run_eq, houtcome, hleft, hout, hfinal]

end Evaluator

/-! ## From the document to the output -/

/-- A document with one template makes a book in which the template is found. -/
theorem Book.addText_single (settings : Settings) (functions : Registry) {label document : Text}
    {t : Template} (h : Template.readDocument label document = .ok [t]) :
    ∃ b, (Book.empty settings (.standard functions)).addText label document = .ok b ∧
      ∀ (lib : Library) (random : RandomSource),
        (b.evaluator lib random).catalog.find? t.name = some t ∧
          (b.evaluator lib random).engine = .sandboxed lib functions := by
  obtain ⟨c, hc, hfind⟩ := Catalog.insertAll_singleton t
  refine ⟨⟨settings, .standard functions, [t], c, none⟩, ?_, fun lib random => ⟨hfind, rfl⟩⟩
  have hcatalog : Catalog.ofList ((Book.empty settings (.standard functions)).added ++ [t]) = .ok c :=
    hc
  rw [addText, h]
  show Book.add (Book.empty settings (.standard functions)) [t] = _
  rw [add, run_insert, hcatalog]
  rfl

/-- **Blocks.**  A block between marks holds raw texts with names between them; the texts hold
neither of the two marks, and the last one does not end in the character of the closing mark.

* In a body line, at any place and before anything, the block is one token.
* Where the names are bound to texts, its fragment renders to the raw texts with the values between
  them, and the engine is asked for each name once, from left to right.  Nothing in the texts or the
  values is read again.
* The document of one template with this line is read as one alternative with this one fragment, and
  its evaluation gives the same. -/
theorem Book.evaluate_block {p : Phrase} (hp : p.Quotable) :
    (∀ (fresh : Bool) (place : Position) (w : Text),
      Token.scanFrom (.body fresh) place (p.block ++ w) =
        (Token.scanFrom (.body false) (place.after p.block) w).map
          (⟨.multiLine, p.block, place⟩ :: ·)) ∧
    (∀ (c : Catalog) (lib : Library) (functions : Registry) (random : RandomSource)
      (again : Evaluator.Recursion) (f : Fragment) (s : Session) (name : Text) (below : List Target)
      (entries : List (Value × Value)) (value : Text → Text),
      f.content = (.multiLine, p.block) → s.stack = ⟨name, .dict entries⟩ :: below →
      (∀ slot ∈ p.slots, Value.lookupName? entries slot.name = some (.text (value slot.name))) →
      (Evaluator.renderFragment ⟨c, .sandboxed lib functions, random⟩ again f).run s =
        (.ok (p.filled value),
          { s with calls := s.calls ++ p.slots.map fun slot => (slot.name, .dict entries) })) ∧
    ∀ (settings : Settings) (functions : Registry) (label : Text),
      ∃ b t a, Template.readDocument label (Template.onlyLine p.block) = .ok [t] ∧
        t.body = .normal [a] ∧ a.fragments.map Fragment.content = [(.multiLine, p.block)] ∧
        (Book.empty settings (.standard functions)).addText label (Template.onlyLine p.block) =
          .ok b ∧
        ∀ (lib : Library) (random : RandomSource) (entries : List (Value × Value))
          (value : Text → Text),
          (∀ slot ∈ p.slots, Value.lookupName? entries slot.name = some (.text (value slot.name))) →
            (b.evaluate lib random "t" (.dict entries)).outcome .fresh =
                .ok (some (p.filled value)) ∧
              ((b.evaluate lib random "t" (.dict entries)).final .fresh).calls =
                p.slots.map fun slot => (slot.name, .dict entries) := by
  have hsandboxed : ∀ (lib : Library) (functions : Registry) (known : Text → Bool)
      (entries : List (Value × Value)) (value : Text → Text),
      (∀ slot ∈ p.slots, Value.lookupName? entries slot.name = some (.text (value slot.name))) →
      ∀ slot ∈ p.slots, Engine.sandboxed lib functions known slot.name (.dict entries) =
        .done (.value (.text (value slot.name))) :=
    fun lib functions known entries value hvalues slot hslot =>
      Engine.sandboxed_name lib functions known (hp.names slot hslot) (hvalues slot hslot)
  refine ⟨hp.scanFrom_block, ?_, fun settings functions label => ?_⟩
  · intro c lib functions random again f s name below entries value hf hs hvalues
    exact Evaluator.run_renderFragment_block hp hf hs (hsandboxed lib functions _ entries value hvalues)
  · obtain ⟨t, a, hread, hname, hbody, hcontent⟩ := hp.readDocument label
    obtain ⟨b, hb, hbook⟩ := Book.addText_single settings functions hread
    refine ⟨b, t, a, hread, hbody, hcontent, hb, fun lib random entries value hvalues => ?_⟩
    obtain ⟨hfind, hengine⟩ := hbook lib random
    obtain ⟨f, hf, hone⟩ := List.map_eq_singleton_iff.1 hcontent
    have hfragment : (Evaluator.renderFragment (b.evaluator lib random)
        (b.evaluator lib random).evaluate f).run
          (Evaluator.bodySession .fresh t.name (.dict entries)) = _ :=
      Evaluator.run_renderFragment_block hp hone rfl
        (by rw [hengine]; exact hsandboxed lib functions _ entries value hvalues)
    have hfragments := Evaluator.run_renderFragments_single hfragment
    rw [← hf] at hfragments
    have hrun := Evaluator.run_evaluate_alternative hfind hbody hfragments
    rw [hname] at hrun
    obtain ⟨hout, hfinal⟩ := Evaluation.run_eq_iff.1 hrun
    exact ⟨hout, congrArg Session.calls hfinal⟩

/-- A block with marks that are not complete, an escape, a line feed, and a value that looks like an
expression. -/
theorem Book.evaluate_block_marks :
    ∃ (p : Phrase) (b : Book), p.Quotable ∧
      p.block = "```a``@@\x7bx\x7d\\n\x7d\n@```".toList ∧
      (Book.empty .standard (.standard [])).addText "d" (Template.onlyLine p.block) = .ok b ∧
      ∀ (lib : Library) (random : RandomSource),
        (b.evaluate lib random "t" (.dict [(.text "x", .text "@\x7bx\x7d")])).outcome .fresh =
          .ok (some "a``@@\x7bx\x7d\\n\x7d\n@".toList) := by
  have hname : Text.IsPlainName ['x'] := ⟨by simp, by decide, by decide, by decide⟩
  have hquotable : Phrase.Quotable ⟨"a``@", [⟨['x'], "\\n\x7d\n@"⟩]⟩ := by
    refine ⟨fun s hs => ?_, by decide, by decide, by decide⟩
    rw [List.mem_singleton.1 hs]
    exact hname
  obtain ⟨b, t, a, -, -, -, hb, hrender⟩ := (Book.evaluate_block hquotable).2.2 .standard [] "d"
  refine ⟨_, b, hquotable, rfl, hb, fun lib random => ?_⟩
  refine (hrender lib random _ (fun _ => "@\x7bx\x7d") fun s hs => ?_).1
  rw [List.mem_singleton.1 hs]
  rfl

end Phrasebook
