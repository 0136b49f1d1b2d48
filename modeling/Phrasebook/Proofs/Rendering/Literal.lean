import Phrasebook.Proofs.Document.Unescaping
import Phrasebook.Proofs.Rendering.Interpolation

/-!
# Literal alternatives

An alternative without expressions, references and blocks renders to its source, unescaped as a
whole.  Nothing else has a say in it: neither the scope nor the catalog is looked at, and the engine
is not asked.

* `Fragment.RendersTo`, `Alternative.RendersTo`: what is rendered to a text in every session;
* `Alternative.rendersTo_literal`: the fragments of a literal alternative, one after the other;
* `Template.readDocument_literal`: the alternatives of a document.
-/

namespace Phrasebook

/-- A fragment renders to a text whatever evaluator is at work and in whatever session, which is
left as it is. -/
def Fragment.RendersTo (f : Fragment) (v : Text) : Prop :=
  ∀ (ev : Evaluator) (again : Evaluator.Recursion) (s : Session),
    (ev.renderFragment again f).run s = (.ok v, s)

/-- An alternative renders to a text whatever evaluator is at work and in whatever session, which is
left as it is. -/
def Alternative.RendersTo (a : Alternative) (v : Text) : Prop :=
  ∀ (ev : Evaluator) (again : Evaluator.Recursion) (s : Session),
    (ev.renderFragments again a.fragments).run s = (.ok v, s)

theorem Fragment.rendersTo_literal {f : Fragment} (h : f.kind.isLiteral = true) :
    f.RendersTo (unescape f.text) := by
  intro ev again s
  rw [Evaluator.renderFragment_literal h]
  rfl

/-- Literal fragments render to what each of them stands for. -/
theorem Alternative.rendersTo_literal {a : Alternative}
    (h : ∀ f ∈ a.fragments, f.kind.isLiteral = true) :
    a.RendersTo (a.fragments.flatMap (unescape ·.text)) := by
  intro ev again s
  generalize a.fragments = fs at h
  induction fs with
  | nil => rfl
  | cons f fs ih =>
    have hfirst := Fragment.rendersTo_literal (h f List.mem_cons_self) ev again s
    have hrest := ih fun g hg => h g (List.mem_cons_of_mem f hg)
    obtain ⟨hout, hfinal⟩ := Evaluation.run_eq_iff.1 hfirst
    obtain ⟨hout', hfinal'⟩ := Evaluation.run_eq_iff.1 hrest
    rw [Evaluator.renderFragments, Evaluation.run_bind, hout, hfinal]
    dsimp only
    rw [Evaluation.run_bind, hout', hfinal']
    rfl

namespace Alternative

variable {a : Alternative}

/-- The units of a literal piece of an alternative. -/
theorem IsLaid.units_of_mem (h : a.IsLaid) {f : Fragment} (hf : f ∈ a.fragments)
    (hliteral : f.kind.isLiteral = true) : units f.text = f.kind.units f.text := by
  obtain ⟨dash, before, t, ts, us, ss, rfl, hts, hlaid, htokens⟩ := h
  obtain ⟨u, hu, rfl⟩ := List.mem_map.1 hf
  exact hlaid.units_of_mem htokens hts hu hliteral

/-- The units of a literal alternative are those of its pieces. -/
theorem IsLaid.units_source (h : a.IsLaid) (hliteral : ∀ f ∈ a.fragments, f.kind.isLiteral = true) :
    units a.source = a.fragments.flatMap fun f => units f.text := by
  have hpieces : (a.fragments.flatMap fun f => units f.text) =
      a.fragments.flatMap fun f => f.kind.units f.text :=
    List.flatMap_congr fun f hf => h.units_of_mem hf (hliteral f hf)
  obtain ⟨dash, before, t, ts, us, ss, rfl, hts, hlaid, htokens⟩ := h
  have hline := hlaid.units_line htokens hts fun u hu => hliteral _ (List.mem_map_of_mem hu)
  rw [hpieces, BodyLine.source_alternative, hline, BodyLine.alternative, List.flatMap_map]

/-- Unescaping a literal alternative as a whole is unescaping its pieces. -/
theorem IsLaid.unescape_source (h : a.IsLaid)
    (hliteral : ∀ f ∈ a.fragments, f.kind.isLiteral = true) :
    unescape a.source = a.fragments.flatMap (unescape ·.text) := by
  rw [unescape_eq_flatMap_units, h.units_source hliteral, List.flatMap_assoc]
  exact List.flatMap_congr fun f _ => (unescape_eq_flatMap_units f.text).symm

end Alternative

/-- An escape is one unit, and renders to one character. -/
theorem Alternative.IsLaid.escape {a : Alternative} (h : a.IsLaid) {f : Fragment}
    (hf : f ∈ a.fragments) (hkind : f.kind = .escape) :
    units f.text = [f.text] ∧ ∃ c, f.RendersTo [c] := by
  have hliteral : f.kind.isLiteral = true := by rw [hkind]; rfl
  have hunits : units f.text = [f.text] := by
    rw [h.units_of_mem hf hliteral, FragmentKind.units, if_pos hkind]
  have hlength : (unescape f.text).length = 1 :=
    length_unescape_of_mem_units (t := f.text) (by rw [hunits]; exact List.mem_singleton_self _)
  obtain ⟨c, hc⟩ := List.length_eq_one_iff.1 hlength
  exact ⟨hunits, c, hc ▸ Fragment.rendersTo_literal hliteral⟩

/-- Every character of any other literal piece is a unit, and the piece renders to itself. -/
theorem Alternative.IsLaid.plain {a : Alternative} (h : a.IsLaid) {f : Fragment}
    (hf : f ∈ a.fragments) (hliteral : f.kind.isLiteral = true) (hkind : f.kind ≠ .escape) :
    units f.text = f.text.map ([·]) ∧ f.RendersTo f.text := by
  have hunits : units f.text = f.text.map ([·]) := by
    rw [h.units_of_mem hf hliteral, FragmentKind.units, if_neg hkind]
  have hself : unescape f.text = f.text := by
    rw [unescape_eq_flatMap_units, hunits, List.flatMap_map]
    exact List.flatMap_singleton' f.text
  have hrenders := Fragment.rendersTo_literal hliteral
  rw [hself] at hrenders
  exact ⟨hunits, hrenders⟩

/-- **Literal alternatives.**  For every alternative of a document that is read:

* It is a slice of the document, from the first character behind the dash that is no blank up to the
  token that ends the line.
* Each of its escapes is one unit and renders to one character; every other literal piece has no
  units but its characters and renders to itself.
* If all its pieces are literal, the units of its source are those of its pieces, one after the
  other: no escape is split between pieces, and none is formed of two.  The pieces render to the
  source unescaped as a whole, whatever evaluator is at work, and the session is left as it is, with
  its scopes and the calls of the engine. -/
theorem Template.readDocument_literal {label t : Text} {templates : List Template}
    (h : readDocument label t = .ok templates) :
    ∃ tokens, Token.scan t = .ok tokens ∧
      ∀ template ∈ templates, ∀ a ∈ template.body.alternatives,
        (∃ before blanks after e, a.StandsIn t tokens before blanks after e) ∧
        (∀ f ∈ a.fragments, f.kind = .escape → units f.text = [f.text] ∧ ∃ c, f.RendersTo [c]) ∧
        (∀ f ∈ a.fragments, f.kind.isLiteral = true → f.kind ≠ .escape →
          units f.text = f.text.map ([·]) ∧ f.RendersTo f.text) ∧
        ((∀ f ∈ a.fragments, f.kind.isLiteral = true) →
          units a.source = (a.fragments.flatMap fun f => units f.text) ∧
            a.RendersTo (unescape a.source)) := by
  obtain ⟨tokens, hscan, hall⟩ := standsIn_of_readDocument h
  refine ⟨tokens, hscan, fun template htemplate a ha => ?_⟩
  obtain ⟨hlaid, hslice⟩ := hall template htemplate a ha
  refine ⟨hslice, fun f hf => hlaid.escape hf, fun f hf => hlaid.plain hf, fun hliteral => ?_⟩
  refine ⟨hlaid.units_source hliteral, ?_⟩
  rw [hlaid.unescape_source hliteral]
  exact a.rendersTo_literal hliteral

/-- Backslashes in front of letters, in front of a lone return, at the end of a line, and at the end
of the document. -/
theorem Template.readDocument_literal_backslashes :
    ∃ templates, readDocument "d" "#t\n-  a\\n\\\\\\q ]\\\rb\\\r\n- \\\\\\".toList = .ok templates ∧
      (templates.flatMap (·.body.alternatives)).map Alternative.source =
        ["a\\n\\\\\\q ]\\\rb\\".toList, "\\\\\\".toList] ∧
      ∀ a ∈ templates.flatMap (·.body.alternatives), a.RendersTo (unescape a.source) := by
  have hread : ((readDocument "d" "#t\n-  a\\n\\\\\\q ]\\\rb\\\r\n- \\\\\\".toList).toOption.map
      fun templates => ((templates.flatMap (·.body.alternatives)).map Alternative.source,
        (templates.flatMap (·.body.alternatives)).all (·.fragments.all (·.kind.isLiteral)))) =
      some (["a\\n\\\\\\q ]\\\rb\\".toList, "\\\\\\".toList], true) := by
    decide +kernel
  cases htemplates : readDocument "d" "#t\n-  a\\n\\\\\\q ]\\\rb\\\r\n- \\\\\\".toList with
  | error f =>
    rw [htemplates] at hread
    cases hread
  | ok templates =>
    rw [htemplates] at hread
    obtain ⟨hsources, hliteral⟩ := Prod.mk.inj (Option.some.inj hread)
    refine ⟨templates, rfl, hsources, fun a ha => ?_⟩
    have hfragments := List.all_eq_true.1 (List.all_eq_true.1 hliteral a ha)
    obtain ⟨template, htemplate, ha⟩ := List.mem_flatMap.1 ha
    obtain ⟨tokens, -, hall⟩ := readDocument_literal htemplates
    exact ((hall template htemplate a ha).2.2.2 hfragments).2

end Phrasebook
