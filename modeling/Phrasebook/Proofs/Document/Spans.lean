import Phrasebook.Proofs.Document.Moves
import Phrasebook.Proofs.Document.Recutting
import Phrasebook.Proofs.Document.Stopping

/-!
# The extent of expressions and references

An expression runs from a brace to the first closing brace that no backslash makes literal, and a
reference from a bracket to the bracket that closes it.  Both stay on their line, with one
exception: a backslash inside an expression takes any character but a line feed with it, a return
among them.

* `Inside`, `IsExpressionSpan`: the text of an expression;
* `Closes`, `IsReferenceSpan`: the text of a reference;
* `Scan.expressionRest_eq_some_iff`, `Scan.referenceRest_eq_some_iff`: both are found, and nothing
  else is;
* `Token.scan_passes`: the tokens in front of a place and those behind it;
* `Token.scan_spans`: the expressions and the references of a document.
-/

namespace Phrasebook

open Scan

/-! ## Expressions -/

/-- The inside of an expression: characters that are no brace, no backslash and no line end, and
pairs of a backslash with any character but a line feed. -/
inductive Inside : Text → Prop
  | nil : Inside []
  | plain {c : Char} {t : Text} :
      c ∉ ['\x7b', '\x7d', '\\', '\r', '\n'] → Inside t → Inside (c :: t)
  | pair {c : Char} {t : Text} : c ≠ '\n' → Inside t → Inside ('\\' :: c :: t)

/-- The text of an expression. -/
def IsExpressionSpan (v : Text) : Prop := ∃ t, Inside t ∧ v = '\x7b' :: (t ++ ['\x7d'])

namespace Inside

variable {t : Text}

theorem notMem_feed (h : Inside t) : '\n' ∉ t := by
  induction h with
  | nil => exact List.not_mem_nil
  | plain hc _ ih =>
    rintro (_ | ⟨_, hmem⟩)
    · simp at hc
    · exact ih hmem
  | pair hc _ ih =>
    intro hmem
    simp only [List.mem_cons] at hmem
    rcases hmem with hmem | hmem | hmem
    · exact absurd hmem (by decide)
    · exact hc hmem.symm
    · exact ih hmem

/-- **What no plain character is stands in a pair**, behind the backslash that begins it. -/
theorem paired {a b : Text} {c : Char} (h : Inside (a ++ c :: b))
    (hc : c ∈ ['\x7b', '\x7d', '\r']) : ∃ front, a = front ++ ['\\'] ∧ Inside front := by
  generalize ht : a ++ c :: b = t at h
  induction h generalizing a with
  | nil => simp at ht
  | @plain d t hd hrest ih =>
    cases a with
    | nil =>
      obtain ⟨rfl, -⟩ := List.cons.inj ht
      simp only [List.mem_cons, List.not_mem_nil, or_false] at hc hd
      tauto
    | cons e a =>
      obtain ⟨rfl, htail⟩ := List.cons.inj ht
      obtain ⟨front, rfl, hfront⟩ := ih htail
      exact ⟨e :: front, rfl, .plain hd hfront⟩
  | @pair d t hd hrest ih =>
    match a, ht with
    | [], ht =>
      obtain ⟨rfl, -⟩ := List.cons.inj ht
      exact absurd hc (by decide)
    | [e], ht =>
      obtain ⟨rfl, -⟩ := List.cons.inj ht
      exact ⟨[], rfl, .nil⟩
    | e :: e' :: a, ht =>
      obtain ⟨rfl, htail⟩ := List.cons.inj ht
      obtain ⟨rfl, htail'⟩ := List.cons.inj htail
      obtain ⟨front, rfl, hfront⟩ := ih htail'
      exact ⟨'\\' :: e' :: front, rfl, .pair hd hfront⟩

end Inside

namespace Scan

variable {t : Text} {n depth : Nat}

theorem expressionRest_inside {inside : Text} (h : Inside inside) (t : Text) :
    expressionRest (inside ++ '\x7d' :: t) = some (inside.length + 1) := by
  induction h with
  | nil => exact expressionRest_close t
  | @plain c inside hc _ ih =>
    simp only [List.mem_cons, List.not_mem_nil, or_false, not_or] at hc
    obtain ⟨hopen, hclose, hescape, hreturn, hfeed⟩ := hc
    have hplain : ¬ (c = '\x7b' ∨ isLineEnd c = true) := by
      rw [isLineEnd_iff]
      tauto
    rw [List.cons_append, expressionRest_cons hclose hescape, if_neg hplain, ih]
    rfl
  | @pair c inside hc _ ih =>
    rw [List.cons_append, List.cons_append, expressionRest_escape, if_neg hc, ih]
    rfl

/-- **An expression is found as far as it goes**: behind its opening brace the text goes on with an
inside and a closing brace. -/
theorem expressionRest_eq_some_iff : expressionRest t = some n ↔
    ∃ inside rest, Inside inside ∧ t = inside ++ '\x7d' :: rest ∧ n = inside.length + 1 := by
  constructor
  · intro h
    fun_induction expressionRest t generalizing n with
    | case1 => cases h
    | case2 t =>
      cases h
      exact ⟨[], t, .nil, rfl, rfl⟩
    | case3 => cases h
    | case4 c t hfeed ih =>
      obtain ⟨i, hi, rfl⟩ := Option.map_eq_some_iff.1 h
      obtain ⟨inside, rest, hinside, rfl, rfl⟩ := ih hi
      exact ⟨'\\' :: c :: inside, rest, .pair hfeed hinside, rfl, rfl⟩
    | case5 => cases h
    | case6 c t hclose hpair hplain ih =>
      obtain ⟨i, hi, rfl⟩ := Option.map_eq_some_iff.1 h
      obtain ⟨inside, rest, hinside, rfl, rfl⟩ := ih hi
      refine ⟨c :: inside, rest, .plain ?_ hinside, rfl, rfl⟩
      rw [isLineEnd_iff] at hplain
      simp only [List.mem_cons, List.not_mem_nil, or_false]
      tauto
  · rintro ⟨inside, rest, hinside, rfl, rfl⟩
    exact expressionRest_inside hinside rest

end Scan

/-! ## References -/

/-- A text that closes `depth` open brackets: on one line, with that many more closing brackets
than opening ones, and with no such beginning. -/
structure Closes (depth : Nat) (t : Text) : Prop where
  oneLine : ∀ c ∈ t, isLineEnd c = false
  balanced : List.count ']' t = List.count '[' t + depth
  inside : ∀ p, p <+: t → p ≠ t → List.count ']' p < List.count '[' p + depth

/-- The text of a reference: a bracket and what follows it up to the bracket that closes it. -/
structure IsReferenceSpan (v : Text) : Prop where
  opens : v.head? = some '['
  oneLine : ∀ c ∈ v, isLineEnd c = false
  balanced : List.count '[' v = List.count ']' v
  inside : ∀ p, p <+: v → p ≠ [] → p ≠ v → List.count ']' p < List.count '[' p

section

variable {depth : Nat} {c : Char} {t : Text}

theorem closes_zero : Closes 0 t ↔ t = [] := by
  constructor
  · intro h
    by_contra hne
    have := h.inside [] List.nil_prefix (Ne.symm hne)
    simp at this
  · rintro rfl
    exact ⟨by simp, by simp, fun p hp hne => absurd (List.prefix_nil.1 hp) hne⟩

theorem not_closes_nil (hdepth : 0 < depth) : ¬ Closes depth [] := by
  intro h
  have := h.balanced
  simp at this
  omega

/-- What a text closes behind one more character. -/
theorem closes_cons (hdepth : 0 < depth) : Closes depth (c :: t) ↔ isLineEnd c = false ∧
    (∀ d ∈ t, isLineEnd d = false) ∧
    List.count ']' (c :: t) = List.count '[' (c :: t) + depth ∧
      ∀ p, p <+: t → p ≠ t → List.count ']' (c :: p) < List.count '[' (c :: p) + depth := by
  constructor
  · rintro ⟨hline, hbalanced, hinside⟩
    refine ⟨hline c List.mem_cons_self, fun d hd => hline d (List.mem_cons_of_mem c hd), hbalanced,
      fun p hp hne => hinside (c :: p) ((List.prefix_cons_inj c).2 hp) ?_⟩
    exact fun heq => hne (List.cons.inj heq).2
  · rintro ⟨hc, hline, hbalanced, hinside⟩
    refine ⟨List.forall_mem_cons.2 ⟨hc, hline⟩, hbalanced, fun p hp hne => ?_⟩
    rcases List.prefix_cons_iff.1 hp with rfl | ⟨q, rfl, hq⟩
    · simpa using hdepth
    · exact hinside q hq fun heq => hne (by rw [heq])

theorem closes_open (hdepth : 0 < depth) : Closes depth ('[' :: t) ↔ Closes (depth + 1) t := by
  rw [closes_cons hdepth]
  simp only [List.count_cons_self, List.count_cons_of_ne (show '[' ≠ ']' by decide)]
  constructor
  · rintro ⟨-, hline, hbalanced, hinside⟩
    exact ⟨hline, by omega, fun p hp hne => by have := hinside p hp hne; omega⟩
  · rintro ⟨hline, hbalanced, hinside⟩
    exact ⟨rfl, hline, by omega, fun p hp hne => by have := hinside p hp hne; omega⟩

theorem closes_close : Closes (depth + 1) (']' :: t) ↔ Closes depth t := by
  rw [closes_cons (Nat.succ_pos depth)]
  simp only [List.count_cons_self, List.count_cons_of_ne (show ']' ≠ '[' by decide)]
  constructor
  · rintro ⟨-, hline, hbalanced, hinside⟩
    exact ⟨hline, by omega, fun p hp hne => by have := hinside p hp hne; omega⟩
  · rintro ⟨hline, hbalanced, hinside⟩
    exact ⟨rfl, hline, by omega, fun p hp hne => by have := hinside p hp hne; omega⟩

theorem closes_other (hdepth : 0 < depth) (hopen : c ≠ '[') (hclose : c ≠ ']') :
    Closes depth (c :: t) ↔ isLineEnd c = false ∧ Closes depth t := by
  rw [closes_cons hdepth]
  simp only [List.count_cons_of_ne hopen, List.count_cons_of_ne hclose]
  constructor
  · rintro ⟨hc, hline, hbalanced, hinside⟩
    exact ⟨hc, hline, hbalanced, hinside⟩
  · rintro ⟨hc, hline, hbalanced, hinside⟩
    exact ⟨hc, hline, hbalanced, hinside⟩

/-- A reference is a bracket and a text that closes it. -/
theorem isReferenceSpan_cons : IsReferenceSpan ('[' :: t) ↔ Closes 1 t := by
  constructor
  · rintro ⟨-, hline, hbalanced, hinside⟩
    rw [List.count_cons_self, List.count_cons_of_ne (by decide)] at hbalanced
    refine ⟨fun c hc => hline c (List.mem_cons_of_mem _ hc), hbalanced.symm, fun p hp hne => ?_⟩
    have := hinside ('[' :: p) ((List.prefix_cons_inj _).2 hp) (List.cons_ne_nil _ _)
      fun heq => hne (List.cons.inj heq).2
    rwa [List.count_cons_self, List.count_cons_of_ne (by decide)] at this
  · rintro ⟨hline, hbalanced, hinside⟩
    refine ⟨rfl, List.forall_mem_cons.2 ⟨rfl, hline⟩, ?_, fun p hp hne hne' => ?_⟩
    · rw [List.count_cons_self, List.count_cons_of_ne (by decide), hbalanced]
    · rcases List.prefix_cons_iff.1 hp with rfl | ⟨q, rfl, hq⟩
      · exact absurd rfl hne
      · rw [List.count_cons_self, List.count_cons_of_ne (by decide)]
        exact hinside q hq fun heq => hne' (by rw [heq])

theorem IsReferenceSpan.exists_cons {v : Text} (h : IsReferenceSpan v) :
    ∃ t, v = '[' :: t ∧ Closes 1 t := by
  obtain ⟨t, rfl⟩ := List.head?_eq_some_iff.1 h.opens
  exact ⟨t, rfl, isReferenceSpan_cons.1 h⟩

end

namespace Scan

variable {t : Text} {n depth : Nat}

/-- **A reference is found as far as it goes**: what is taken closes the open brackets. -/
theorem referenceRest_eq_some_iff (hdepth : 0 < depth) :
    referenceRest depth t = some n ↔ n ≤ t.length ∧ Closes depth (t.take n) := by
  induction t generalizing depth n with
  | nil =>
    refine iff_of_false (by simp [referenceRest]) ?_
    rw [List.take_nil]
    exact fun h => not_closes_nil hdepth h.2
  | cons c t ih =>
    cases n with
    | zero =>
      refine iff_of_false (fun h => ?_) fun h => not_closes_nil hdepth h.2
      rw [referenceRest] at h
      split_ifs at h <;> simp at h
    | succ n =>
      have hstep : ∀ {d : Nat}, 0 < d → ((referenceRest d t).map (· + 1) = some (n + 1) ↔
          n ≤ t.length ∧ Closes d (t.take n)) := by
        intro d hd
        rw [← ih hd]
        simp
      rw [List.take_succ_cons, List.length_cons, Nat.succ_le_succ_iff, referenceRest]
      by_cases hend : isLineEnd c = true
      · rw [if_pos hend]
        refine iff_of_false (by simp) fun h => ?_
        rw [h.2.oneLine c List.mem_cons_self] at hend
        cases hend
      · rw [if_neg hend]
        by_cases hopen : c = '['
        · rw [if_pos hopen, hstep (Nat.succ_pos depth), hopen, closes_open hdepth]
        · rw [if_neg hopen]
          by_cases hclose : c = ']'
          · obtain ⟨d, rfl⟩ := Nat.exists_eq_succ_of_ne_zero hdepth.ne'
            rw [if_pos hclose, hclose, closes_close]
            by_cases hlast : d = 0
            · -- the last open bracket is closed, so nothing more is taken
              subst hlast
              rw [if_pos rfl, closes_zero, List.take_eq_nil_iff]
              simp only [Option.some.injEq]
              constructor
              · intro h
                exact ⟨by omega, .inl (by omega)⟩
              · rintro ⟨hle, rfl | rfl⟩
                · rfl
                · simp at hle
                  omega
            · rw [if_neg (by omega), Nat.succ_sub_one, hstep (Nat.pos_of_ne_zero hlast)]
          · rw [if_neg hclose, hstep hdepth, closes_other hdepth hopen hclose,
              Bool.not_eq_true] at *
            tauto

end Scan

/-! ## Moves -/

namespace Mode

variable {c : Char}

/-- A brace or a bracket begins a piece of content wherever content may stand. -/
theorem move_span (hc : c = '\x7b' ∨ c = '[') (fresh : Bool) (t : Text) :
    (body fresh).move c t = .ok ⟨some (content c t).1, (content c t).2, body false⟩ := by
  have hfalse : moveBody false c t = .ok ⟨some (content c t).1, (content c t).2, body false⟩ := by
    rcases hc with rfl | rfl <;> exact moveBody_content rfl (by decide) (by decide) t
  cases fresh with
  | false => exact hfalse
  | true =>
    have hkeyword : keywordMove? (c :: t) = none := by
      rcases hc with rfl | rfl <;> exact keywordMove?_of_other (by decide) (by decide) t
    rw [move, moveBody_fresh (by rcases hc with rfl | rfl <;> rfl) hkeyword]
    exact hfalse

/-- **An expression is taken where one stands.** -/
theorem move_expression {v : Text} (hv : IsExpressionSpan v) (fresh : Bool) (rest : Text) :
    ∃ r, v = '\x7b' :: r ∧
      (body fresh).move '\x7b' (r ++ rest) = .ok ⟨some .expression, r.length, body false⟩ := by
  obtain ⟨inside, hinside, rfl⟩ := hv
  refine ⟨inside ++ ['\x7d'], rfl, ?_⟩
  rw [move_span (.inl rfl), content_brace, List.append_assoc, List.singleton_append,
    expressionRest_inside hinside, List.length_append]
  rfl

/-- **A reference is taken where one stands.** -/
theorem move_reference {v : Text} (hv : IsReferenceSpan v) (fresh : Bool) (rest : Text) :
    ∃ r, v = '[' :: r ∧
      (body fresh).move '[' (r ++ rest) = .ok ⟨some .reference, r.length, body false⟩ := by
  obtain ⟨r, rfl, hcloses⟩ := hv.exists_cons
  have hrest : referenceRest 1 (r ++ rest) = some r.length := by
    rw [referenceRest_eq_some_iff Nat.one_pos, List.take_left' rfl, List.length_append]
    exact ⟨Nat.le_add_right _ _, hcloses⟩
  refine ⟨r, rfl, ?_⟩
  rw [move_span (.inr rfl), content_bracket, hrest]
  rfl

end Mode

/-! ## Documents -/

namespace Cuts

variable {m : Mode} {t : Text} {pieces : List Piece}

theorem isExpressionSpan (h : Cuts m t pieces) :
    ∀ p ∈ pieces, p.1 = .expression → IsExpressionSpan p.2 := by
  refine h.forall_piece (by rintro ⟨⟩) ?_
  rintro m c t k n m' hmove rfl
  have hcontent := Mode.move_content hmove rfl
  obtain ⟨rfl, hrest⟩ := content_expression (congrArg Prod.fst hcontent)
  rw [hcontent] at hrest
  obtain ⟨inside, rest, hinside, rfl, rfl⟩ := expressionRest_eq_some_iff.1 hrest
  refine ⟨inside, hinside, ?_⟩
  rw [← List.singleton_append (x := '\x7d'), ← List.append_assoc,
    List.take_left' (by rw [List.length_append, List.length_singleton])]

theorem isReferenceSpan (h : Cuts m t pieces) :
    ∀ p ∈ pieces, p.1 = .reference → IsReferenceSpan p.2 := by
  refine h.forall_piece (by rintro ⟨⟩) ?_
  rintro m c t k n m' hmove rfl
  have hcontent := Mode.move_content hmove rfl
  obtain ⟨rfl, hrest⟩ := content_reference (congrArg Prod.fst hcontent)
  rw [hcontent] at hrest
  exact isReferenceSpan_cons.2 ((referenceRest_eq_some_iff Nat.one_pos).1 hrest).2

end Cuts

namespace Token

/-- **The tokens of a text are those in front of a place and those behind it.** -/
theorem scan_passes {m : Mode} {before t rest : Text} {ss : List Stretch}
    (h : Passes m before t ss rest) :
    scanFrom m (.behind before) t =
      (scanFrom (modeAfter m ss) (.behind (before ++ textOf ss)) rest).map
        (ss.filterMap Stretch.token? ++ ·) := by
  induction h with
  | here m before t =>
    rw [modeAfter_nil, textOf_nil, List.append_nil, List.filterMap_nil]
    cases scanFrom m (.behind before) t <;> rfl
  | skip hmove _ ih =>
    rw [scanFrom_skip hmove, Position.after_behind, ih, modeAfter_layout, textOf_cons,
      List.append_assoc]
    rfl
  | take hmove _ ih =>
    rw [scanFrom_take hmove, Position.after_behind, ih, modeAfter_token, textOf_cons,
      List.append_assoc]
    simp only [Stretch.text]
    cases scanFrom _ _ _ <;> rfl

/-- A move that takes a token at some place gives that token of the document. -/
theorem scan_taken {source v rest : Text} {tokens : List Token} {ss : List Stretch} {c : Char}
    {r : Text} {k : TokenKind} {m' : Mode} (h : scan source = .ok tokens)
    (hpasses : Passes .between [] source ss (v ++ rest)) (hv : v = c :: r)
    (hmove : (modeAfter .between ss).move c (r ++ rest) = .ok ⟨some k, r.length, m'⟩) :
    ∃ more, tokens = ss.filterMap Stretch.token? ++ ⟨k, v, .behind (textOf ss)⟩ :: more := by
  subst hv
  have hscan : scanFrom .between (.behind []) source = .ok tokens := h
  rw [scan_passes hpasses, List.nil_append] at hscan
  cases hrest : scanFrom (modeAfter .between ss) (.behind (textOf ss)) (c :: r ++ rest) with
  | error f =>
    rw [hrest] at hscan
    cases hscan
  | ok found =>
    rw [hrest] at hscan
    obtain ⟨more, -, rfl⟩ := scanFrom_take_ok hmove hrest
    rw [List.take_left' rfl] at hscan
    exact ⟨more, (Except.ok.inj hscan).symm⟩

/-- **The extent of expressions and references.**  Every expression of a document is a brace, an
inside and a closing brace; it has no line feed, and a brace or a return in it stands behind a
backslash that begins a pair.  Every reference is on one line, and its brackets close each other at
its end and not before.  Conversely, wherever such a text stands where content may stand, it is the
token there. -/
theorem scan_spans {source : Text} {tokens : List Token} (h : scan source = .ok tokens) :
    (∀ t ∈ tokens, t.kind = .expression → '\n' ∉ t.value ∧
      ∃ inside, Inside inside ∧ t.value = '\x7b' :: (inside ++ ['\x7d']) ∧
        ∀ a c b, inside = a ++ c :: b → c = '\x7b' ∨ c = '\x7d' ∨ c = '\r' →
          ∃ front, a = front ++ ['\\'] ∧ Inside front) ∧
    (∀ t ∈ tokens, t.kind = .reference → IsReferenceSpan t.value) ∧
    ∀ ss span rest fresh, Passes .between [] source ss (span ++ rest) →
      modeAfter .between ss = .body fresh →
        (IsExpressionSpan span → ∃ more, tokens =
          ss.filterMap Stretch.token? ++ ⟨.expression, span, .behind (textOf ss)⟩ :: more) ∧
        (IsReferenceSpan span → ∃ more, tokens =
          ss.filterMap Stretch.token? ++ ⟨.reference, span, .behind (textOf ss)⟩ :: more) := by
  have hcuts : Cuts .between source (tokens.map piece) := scan_iff.1 ⟨tokens, h, rfl⟩
  refine ⟨fun t ht hkind => ?_, fun t ht hkind => ?_, fun ss span rest fresh hpasses hmode => ?_⟩
  · obtain ⟨inside, hinside, hvalue⟩ :=
      hcuts.isExpressionSpan t.piece (List.mem_map_of_mem ht) hkind
    have hvalue' : t.value = '\x7b' :: (inside ++ ['\x7d']) := hvalue
    refine ⟨?_, inside, hinside, hvalue', ?_⟩
    · rw [hvalue']
      simp [hinside.notMem_feed]
    · rintro a c b rfl hc
      exact hinside.paired (by simpa using hc)
  · exact hcuts.isReferenceSpan t.piece (List.mem_map_of_mem ht) hkind
  · constructor
    · intro hspan
      obtain ⟨r, hr, hmove⟩ := Mode.move_expression hspan fresh rest
      exact scan_taken h hpasses hr (hmode ▸ hmove)
    · intro hspan
      obtain ⟨r, hr, hmove⟩ := Mode.move_reference hspan fresh rest
      exact scan_taken h hpasses hr (hmode ▸ hmove)

/-- An expression with an escaped brace, at the beginning of the content, and a reference with
brackets inside. -/
theorem scan_spans_nested :
    ∃ tokens, scan "- \x7ba\\\x7db\x7d[c[d]]".toList = .ok tokens ∧
      (∀ t ∈ tokens, t.kind = .reference → IsReferenceSpan t.value) ∧
      ⟨.reference, "[c[d]]".toList, ⟨1, 9⟩⟩ ∈ tokens ∧
      ∃ more, tokens =
        [⟨.dash, ['-'], ⟨1, 1⟩⟩, ⟨.expression, "\x7ba\\\x7db\x7d".toList, ⟨1, 3⟩⟩] ++ more := by
  have hscan : ((scan "- \x7ba\\\x7db\x7d[c[d]]".toList).toOption.map fun tokens =>
      decide (⟨.reference, "[c[d]]".toList, ⟨1, 9⟩⟩ ∈ tokens)) = some true := by
    decide +kernel
  cases htokens : scan "- \x7ba\\\x7db\x7d[c[d]]".toList with
  | error f =>
    rw [htokens] at hscan
    cases hscan
  | ok tokens =>
    rw [htokens] at hscan
    obtain ⟨-, hreferences, hspans⟩ := scan_spans htokens
    have hpasses : Passes .between [] "- \x7ba\\\x7db\x7d[c[d]]".toList
        [.token ⟨.dash, ['-'], .behind []⟩, .layout [' ']]
        ("\x7ba\\\x7db\x7d".toList ++ "[c[d]]".toList) :=
      .take (n := 0) (k := .dash) rfl (.skip (n := 0) rfl (.here _ _ _))
    have hspan : IsExpressionSpan "\x7ba\\\x7db\x7d".toList :=
      ⟨"a\\\x7db".toList, .plain (by decide) (.pair (by decide) (.plain (by decide) .nil)), rfl⟩
    obtain ⟨more, hmore⟩ := (hspans _ _ _ true hpasses rfl).1 hspan
    exact ⟨tokens, rfl, hreferences, of_decide_eq_true (Option.some.inj hscan), more, hmore⟩

/-- A backslash takes a return into an expression, which is then on two lines. -/
theorem scan_return :
    ∃ tokens, scan "- \x7b\\\r\x7d".toList = .ok tokens ∧
      ∃ t ∈ tokens, t.kind = .expression ∧ '\r' ∈ t.value := by
  have hscan : ((scan "- \x7b\\\r\x7d".toList).toOption.map fun tokens =>
      decide (⟨.expression, "\x7b\\\r\x7d".toList, ⟨1, 3⟩⟩ ∈ tokens)) = some true := by
    decide +kernel
  cases htokens : scan "- \x7b\\\r\x7d".toList with
  | error f =>
    rw [htokens] at hscan
    cases hscan
  | ok tokens =>
    rw [htokens] at hscan
    exact ⟨tokens, rfl, _, of_decide_eq_true (Option.some.inj hscan), rfl, by decide⟩

end Token

end Phrasebook
