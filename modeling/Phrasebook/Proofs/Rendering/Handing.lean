import Phrasebook.Proofs.Document.SourceOrder
import Phrasebook.Proofs.Document.Spans
import Phrasebook.Proofs.Rendering.Attribution
import Phrasebook.Proofs.Rendering.Guards

/-!
# What the engine is handed of an expression

An expression stands in braces, and the engine is handed what is between them.  The braces are
stripped off both ends as long as there are any.  No inside begins with a brace, so in front that is
one; but an inside may end in an escaped brace, and this one is lost as well.

* `handed`: what the engine is handed of an expression;
* `stripBraces_span`: what is left when the braces are stripped off;
* `Template.exists_token_of_fragment`, `Template.exists_token_of_condition`: the expressions of a
  document and its tokens;
* `PutsOnce`, `Evaluator.renderFragment_puts`, `Evaluator.ruleApplies_puts`: how the engine is
  asked;
* `Template.readDocument_handed`: every expression of every document.
-/

namespace Phrasebook

open Evaluation

/-! ## Stripping braces -/

/-- What stands between the first character and the last one. -/
def Text.between (t : Text) : Text := t.tail.dropLast

/-- What the engine is handed of an expression: what stands between its braces, but an escaped brace
at the end is taken for one of them. -/
def handed (v : Text) : Text :=
  if ['\\', '\x7d'] <:+ v.between then v.between.dropLast else v.between

namespace Text

variable {p : Char → Bool} {t : Text} {c : Char}

theorem between_cons_concat (a b : Char) (t : Text) : between (a :: (t ++ [b])) = t := by
  rw [between, List.tail_cons, List.dropLast_concat]

theorem stripStart_cons (hc : p c = true) (t : Text) : stripStart p (c :: t) = stripStart p t :=
  List.dropWhile_cons_of_pos hc

theorem stripEnd_concat (hc : p c = true) (t : Text) : stripEnd p (t ++ [c]) = stripEnd p t := by
  rw [stripEnd, stripEnd, List.reverse_concat, List.dropWhile_cons_of_pos hc]

end Text

theorem IsExpressionSpan.eq_between {v : Text} (h : IsExpressionSpan v) :
    v = '\x7b' :: (v.between ++ ['\x7d']) := by
  obtain ⟨t, -, rfl⟩ := h
  rw [Text.between_cons_concat]

/-- An inside begins with no brace. -/
theorem Inside.head?_ne {t : Text} (h : Inside t) : t.head? ≠ some '\x7b' := by
  cases h with
  | nil => simp
  | plain hc _ =>
    rintro ⟨⟩
    simp at hc
  | pair _ _ => simp

/-- **Stripping braces off an expression.**  One is stripped off the beginning, one off the end, and
another one if the inside ends in an escaped brace. -/
theorem stripBraces_span {v : Text} (h : IsExpressionSpan v) : stripBraces v = handed v := by
  obtain ⟨t, ht, rfl⟩ := h
  have hstart : Text.stripStart (· = '\x7b') ('\x7b' :: (t ++ ['\x7d'])) = t ++ ['\x7d'] := by
    rw [Text.stripStart_cons (by simp), Text.stripStart_eq_self]
    intro c hc
    cases t with
    | nil =>
      obtain rfl : '\x7d' = c := by simpa using hc
      decide
    | cons d t =>
      obtain rfl : d = c := by simpa using hc
      have hne := ht.head?_ne
      simpa using hne
  rw [stripBraces, hstart, Text.stripEnd_concat (by simp), handed, Text.between_cons_concat]
  by_cases hlast : t.getLast? = some '\x7d'
  · -- the last brace stands behind a backslash, where the stripping ends
    obtain ⟨a, rfl⟩ := List.getLast?_eq_some_iff.1 hlast
    obtain ⟨front, rfl, -⟩ := ht.paired (by simp)
    have hsuffix : ['\\', '\x7d'] <:+ front ++ ['\\'] ++ ['\x7d'] := ⟨front, by simp⟩
    rw [if_pos hsuffix, List.dropLast_concat, Text.stripEnd_concat (by simp),
      Text.stripEnd_eq_self (by simp)]
  · have hsuffix : ¬ ['\\', '\x7d'] <:+ t := by
      rintro ⟨front, rfl⟩
      simp at hlast
    rw [if_neg hsuffix, Text.stripEnd_eq_self]
    intro c hc
    refine decide_eq_false ?_
    rintro rfl
    exact hlast hc

/-! ## The expressions of a document -/

namespace Template

variable {label source : Text} {templates : List Template} {tokens : List Token} {t : Template}

/-- The lines that a template is read from. -/
theorem exists_lines_of_readDocument (hscan : Token.scan source = .ok tokens)
    (h : readDocument label source = .ok templates) (ht : t ∈ templates) :
    ∃ ls : List BodyLine, t.body = bodyOf ls ∧ ∀ l ∈ ls, l.content ⊆ tokens := by
  obtain ⟨found, ds, hfound, hshape, rfl⟩ := exists_shape h
  obtain rfl : found = tokens := Except.ok.inj (hfound.symm.trans hscan)
  obtain ⟨d, hd, rfl⟩ := List.mem_map.1 ht
  refine ⟨d.lines.map LineTokens.line, rfl, fun l hl u hu => ?_⟩
  obtain ⟨lt, hlt, rfl⟩ := List.mem_map.1 hl
  have hinside : u ∈ lt.inside := by
    unfold LineTokens.line at hu
    split at hu
    · rename_i heq
      rw [heq]
      exact List.mem_cons_of_mem _ hu
    · exact hu
  obtain ⟨e, -, rfl⟩ := hshape.tokens
  refine List.mem_append_left _ (List.mem_flatMap.2 ⟨d, hd, ?_⟩)
  have hline : u ∈ lt.tokens := List.mem_cons_of_mem _ (List.mem_append_left _ hinside)
  have hlines : u ∈ d.lines.flatMap LineTokens.tokens := List.mem_flatMap.2 ⟨lt, hlt, hline⟩
  simp only [DefinitionTokens.tokens, List.mem_cons, List.mem_append]
  exact .inr (.inr (.inr (.inr hlines)))

/-- A fragment that is an expression is a token of the document. -/
theorem exists_token_of_fragment (hscan : Token.scan source = .ok tokens)
    (h : readDocument label source = .ok templates) (ht : t ∈ templates) {f : Fragment}
    (hf : f ∈ t.body.fragments) (hkind : f.kind = .expression) :
    ∃ u ∈ tokens, u.kind = .expression ∧ u.value = f.text ∧ u.position = f.position := by
  obtain ⟨ls, hbody, hls⟩ := exists_lines_of_readDocument hscan h ht
  obtain ⟨a, ha, hfa⟩ := List.mem_flatMap.1 hf
  rw [hbody] at ha
  obtain ⟨l, hl, -, rfl⟩ := Grammar.exists_line_of_mem ha
  obtain ⟨u, hu, rfl⟩ := List.mem_map.1 hfa
  refine ⟨u, hls l hl hu, ?_, rfl, rfl⟩
  have hfragment : u.kind.fragmentKind = .expression := hkind
  cases hk : u.kind with
  | expression => rfl
  | _ =>
    rw [hk] at hfragment
    cases hfragment

/-- A guard is a token of the document. -/
theorem exists_token_of_condition (hscan : Token.scan source = .ok tokens)
    (h : readDocument label source = .ok templates) (ht : t ∈ templates) {rules : List Rule}
    (hrules : t.body = .conditional rules) {r : Rule} (hr : r ∈ rules) {condition : Text}
    (hcondition : r.condition = some condition) :
    ∃ u ∈ tokens, u.kind = .expression ∧ u.value = condition := by
  obtain ⟨ls, hbody, hls⟩ := exists_lines_of_readDocument hscan h ht
  rw [hrules, bodyOf] at hbody
  split at hbody
  · cases hbody
  · obtain rfl := Body.conditional.inj hbody
    obtain ⟨tail, htail, hrule⟩ := List.mem_filterMap.1 hr
    cases tail with
    | nil => cases hrule
    | cons head tail =>
      obtain ⟨⟨k, p⟩, -, rfl⟩ := Option.map_eq_some_iff.1 hrule
      have hhead : head ∈ ls := ((List.mem_tails _ _).1 htail).subset List.mem_cons_self
      dsimp only at hcondition
      split at hcondition
      · cases hcondition
      · obtain ⟨u, hu, rfl⟩ := Option.map_eq_some_iff.1 hcondition
        exact ⟨u, hls head hhead (List.mem_of_find?_eq_some hu),
          by simpa using List.find?_some hu, rfl⟩

end Template

/-! ## Asking the engine -/

/-- A computation puts one expression to the engine, in the scope of the innermost template: its
call comes first, and all others are made for the answer. -/
def PutsOnce {α : Type} (x : Evaluation α) (source : Text) : Prop :=
  ∀ (s : Session) (target : Target) (below : List Target), s.stack = target :: below →
    ∃ new, (x.final s).calls = s.calls ++ new ∧ Asked target.scope [source] new

namespace Evaluator

variable {ev : Evaluator} {target : Target} {below : List Target} {s : Session}

/-- What an error is told with changes nothing. -/
theorem final_expressionError (hs : s.stack = target :: below) (what source outcome : Text) :
    (ev.expressionError what source outcome).final s = s := by
  have hplace : ev.here.final s = s := by
    obtain ⟨htarget, hsame⟩ := currentTarget_cons hs
    obtain ⟨-, htemplate⟩ := ev.currentTemplate_eq s
    unfold here
    rw [final_bind_ok htarget, hsame, final_bind, htemplate]
    cases ev.currentTemplate.outcome s <;> rfl
  unfold expressionError
  rw [final_bind, hplace]
  cases ev.here.outcome s <;> rfl

theorem final_throwExpression (hs : s.stack = target :: below) (what source outcome : Text) :
    (do throw (.template (← ev.expressionError what source outcome)) : Evaluation Text).final s =
      s := by
  rw [final_bind, final_expressionError hs]
  cases (ev.expressionError what source outcome).outcome s <;> rfl

/-- Behind its question, rendering an expression changes nothing. -/
theorem final_renderExpression (hs : s.stack = target :: below) (source : Text) :
    (ev.renderExpression ev.evaluate source).final s = (ev.ask target.scope source).final s := by
  obtain ⟨hout, hfinal⟩ := run_source hs (run_eq (ev.ask target.scope source) s)
  have hs' : ((ev.ask target.scope source).final s).stack = target :: below :=
    (ev.ask_leaves target.scope source s).1.trans hs
  unfold renderExpression
  rw [final_bind, hout, hfinal]
  match (ev.ask target.scope source).outcome s with
  | .error f => rfl
  | .ok (.error message) => exact final_throwExpression hs' _ _ _
  | .ok (.value v) =>
    cases v with
    | null => exact final_throwExpression hs' _ _ _
    | _ =>
      show (Evaluation.ofExcept _).final _ = _
      cases Fault.orFail _ <;> rfl

/-- **An expression is put to the engine once** when it is rendered, without its braces. -/
theorem renderFragment_puts (ev : Evaluator) {f : Fragment} (hkind : f.kind = .expression) :
    PutsOnce (ev.renderFragment ev.evaluate f) (stripBraces f.text) := by
  intro s target below hs
  have hrender : ev.renderFragment ev.evaluate f =
      ev.renderExpression ev.evaluate (stripBraces f.text) := by
    unfold renderFragment
    rw [hkind]
  rw [hrender, final_renderExpression hs]
  exact (leaves_of_run (run_eq (ev.ask target.scope (stripBraces f.text)) s)).2

/-- **A guard is put to the engine once** when its rule is tried, without its braces. -/
theorem ruleApplies_puts (ev : Evaluator) {r : Rule} {condition : Text}
    (hr : r.condition = some condition) :
    PutsOnce (ev.ruleApplies ev.evaluate r) (stripBraces condition) := by
  intro s target below hs
  obtain ⟨holds, s', hjudged⟩ := ev.exists_judged target r s
  have hguards : Rule.guards [r] = [stripBraces condition] := by
    rw [Rule.guards, List.filterMap_cons, hr]
    rfl
  have hfinal : (ev.ruleApplies ev.evaluate r).final s = s' := (run_eq_iff.1 (hjudged.run hs)).2
  rw [hfinal, ← hguards]
  exact hjudged.leaves.2

end Evaluator

/-! ## Every document -/

/-- **What the engine is handed.**  In every document that can be read, every fragment that is an
expression and every guard is an expression among the tokens.  When it is rendered or tested, in any
session under any template, the engine is asked once: for exactly what stands between the braces of
the token, unless that ends in an escaped brace, which is lost then. -/
theorem Template.readDocument_handed {label source : Text} {templates : List Template}
    (h : readDocument label source = .ok templates) :
    ∃ tokens, Token.scan source = .ok tokens ∧ ∀ t ∈ templates,
      (∀ f ∈ t.body.fragments, f.kind = .expression →
        ∃ u ∈ tokens, u.kind = .expression ∧ u.value = f.text ∧ u.position = f.position ∧
          u.value = '\x7b' :: (u.value.between ++ ['\x7d']) ∧
          ∀ ev : Evaluator, PutsOnce (ev.renderFragment ev.evaluate f) (handed u.value)) ∧
      ∀ rules, t.body = .conditional rules → ∀ r ∈ rules, ∀ condition,
        r.condition = some condition →
          ∃ u ∈ tokens, u.kind = .expression ∧ u.value = condition ∧
            u.value = '\x7b' :: (u.value.between ++ ['\x7d']) ∧
            ∀ ev : Evaluator, PutsOnce (ev.ruleApplies ev.evaluate r) (handed u.value) := by
  cases hscan : Token.scan source with
  | error f =>
    rw [readDocument, hscan] at h
    cases h
  | ok tokens =>
    have hcuts : Cuts .between source (tokens.map Token.piece) :=
      Token.scan_iff.1 ⟨tokens, hscan, rfl⟩
    have hspan : ∀ u ∈ tokens, u.kind = .expression → IsExpressionSpan u.value := fun u hu hkind =>
      hcuts.isExpressionSpan u.piece (List.mem_map_of_mem hu) hkind
    refine ⟨tokens, rfl, fun t ht => ⟨fun f hf hkind => ?_, fun rules hrules r hr condition hc => ?_⟩⟩
    · obtain ⟨u, hu, huk, hvalue, hposition⟩ := exists_token_of_fragment hscan h ht hf hkind
      refine ⟨u, hu, huk, hvalue, hposition, (hspan u hu huk).eq_between, fun ev => ?_⟩
      rw [← stripBraces_span (hspan u hu huk), hvalue]
      exact ev.renderFragment_puts hkind
    · obtain ⟨u, hu, huk, hvalue⟩ := exists_token_of_condition hscan h ht hrules hr hc
      refine ⟨u, hu, huk, hvalue, (hspan u hu huk).eq_between, fun ev => ?_⟩
      rw [← stripBraces_span (hspan u hu huk), hvalue]
      exact ev.ruleApplies_puts hc

/-- An expression with an escaped brace inside is handed on as it is. -/
theorem Template.readDocument_handed_quoted :
    ∃ t f, readDocument "d" "#t\n- \x7b'a\\\x7db'\x7d\n" = .ok [t] ∧ f ∈ t.body.fragments ∧
      f.kind = .expression ∧ f.text = "\x7b'a\\\x7db'\x7d".toList ∧
      ∀ ev : Evaluator, PutsOnce (ev.renderFragment ev.evaluate f) "'a\\\x7db'" := by
  have hread : (readDocument "d" "#t\n- \x7b'a\\\x7db'\x7d\n").toOption =
      some [⟨"t", [], .normal [⟨[⟨.expression, "\x7b'a\\\x7db'\x7d", ⟨2, 3⟩⟩], 2⟩], "d", 1⟩] := by
    decide +kernel
  cases htemplates : readDocument "d" "#t\n- \x7b'a\\\x7db'\x7d\n" with
  | error f =>
    rw [htemplates] at hread
    cases hread
  | ok templates =>
    rw [htemplates] at hread
    obtain rfl := Option.some.inj hread
    obtain ⟨tokens, -, hhanded⟩ := readDocument_handed htemplates
    obtain ⟨u, -, -, hvalue, -, -, hputs⟩ :=
      (hhanded _ List.mem_cons_self).1 _ List.mem_cons_self rfl
    refine ⟨_, _, rfl, List.mem_cons_self, rfl, rfl, fun ev => ?_⟩
    have hsame : handed u.value = "'a\\\x7db'" := by
      rw [hvalue]
      decide
    exact hsame ▸ hputs ev

/-- An escaped brace at the end of an expression is lost on the way to the engine. -/
theorem Template.readDocument_shortened :
    ∃ t f, (readDocument "d" "#t\n- \x7ba\\\x7d\x7d\n").toOption = some [t] ∧
      f ∈ t.body.fragments ∧ f.kind = .expression ∧ f.text.between = "a\\\x7d".toList ∧
      ∃ (ev : Evaluator) (s : Session), s.stack = [⟨"t", .null⟩] ∧ s.calls = [] ∧
        ((ev.renderFragment ev.evaluate f).final s).calls.map Prod.fst = ["a\\".toList] := by
  let t : Template :=
    ⟨"t", [], .normal [⟨[⟨.expression, "\x7ba\\\x7d\x7d", ⟨2, 3⟩⟩], 2⟩], "d", 1⟩
  let ev : Evaluator :=
    ⟨⟨[t], by decide⟩, .sandboxed .empty [], fun turn _ => turn⟩
  refine ⟨t, _, by decide +kernel, List.mem_cons_self, rfl, by decide, ev,
    Session.fresh.push ⟨"t", .null⟩, rfl, rfl, by decide +kernel⟩

end Phrasebook
