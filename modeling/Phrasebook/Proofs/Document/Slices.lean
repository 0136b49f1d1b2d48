import Phrasebook.Proofs.Document.Recutting
import Phrasebook.Proofs.Document.Rejection
import Phrasebook.Proofs.Document.Reprinting

/-!
# Alternatives as slices of the document

An alternative is read from a body line, and nothing of the line is lost: its source is the slice
of the document from the first character behind the dash that is no blank up to the token that ends
the line.

* `Body.alternatives`: all alternatives of a body;
* `Alternative.StandsIn`: the slice of a document that an alternative is;
* `Laid.take_body`, `Laid.line`, `Laid.behind_dash`: the tokens of a body line and their characters;
* `Alternative.Lays`: an alternative with the moves that its line is cut by;
* `Template.lays_of_readDocument`: every alternative of a document.
-/

namespace Phrasebook

open Scan

/-! ## Alternatives -/

/-- The alternatives of a body, those of its rules in their order. -/
def Body.alternatives : Body → List Alternative
  | normal alternatives => alternatives
  | conditional rules => rules.flatMap fun r => r.body.getD []

/-- **An alternative as a slice of a document.**  Behind `before` stand a dash, the blanks behind
it, and the source of the alternative, which goes up to the token `e`. -/
structure Alternative.StandsIn (a : Alternative) (document : Text) (tokens : List Token)
    (before blanks after : Text) (e : Token) : Prop where
  covers : document = before ++ '-' :: (blanks ++ (a.source ++ after))
  blank : ∀ c ∈ blanks, isBlank c = true
  /-- The slice begins at the first character that is no blank. -/
  first : ∀ c ∈ (a.source ++ after).head?, isBlank c = false
  /-- The alternative is what the tokens of the line make, and `e` is the first that ends it. -/
  line : ∃ us ts vs, tokens = us ++ ⟨.dash, ['-'], .behind before⟩ :: (ts ++ e :: vs) ∧
    (∀ u ∈ ts, u.kind.endsLine = false) ∧
    a = BodyLine.alternative ⟨⟨.dash, ['-'], .behind before⟩, none, ts⟩
  /-- The slice goes up to the place of `e`. -/
  place : e.position = .behind (before ++ '-' :: (blanks ++ a.source))
  finish : e.kind = .newline ∧ e.value <+: after ∨ e.kind = .finish ∧ after = []

theorem BodyLine.source_alternative (dash : Token) (keyword : Option (Keyword × Position))
    (ts : List Token) :
    (BodyLine.alternative ⟨dash, keyword, ts⟩).source = ts.flatMap (·.value) := by
  rw [Alternative.source, BodyLine.alternative, List.flatMap_map]

/-! ## Lines among tokens -/

namespace Grammar

open Template

variable {label : Text} {ts us vs rest : List Token} {dash : Token}

/-- Tokens have a line without a keyword among them. -/
def HasLine (tokens : List Token) (dash : Token) (ts : List Token) : Prop :=
  ∃ us vs ws, tokens = us ++ dash :: (ts ++ vs) ∧ dash.kind = .dash ∧
    (∀ t ∈ ts, t.kind.endsLine = false) ∧ (∀ t ∈ ts.head?, t.kind.isKeyword = false) ∧ LineEnd vs ws

theorem HasLine.behind (h : HasLine rest dash ts) (us : List Token) :
    HasLine (us ++ rest) dash ts := by
  obtain ⟨us', vs, ws, rfl, hline⟩ := h
  exact ⟨us ++ us', vs, ws, (List.append_assoc _ _ _).symm, hline⟩

theorem Lines.hasLine {ls : List BodyLine} (h : Lines ts ls rest) :
    ∀ l ∈ ls, l.keyword = none → HasLine ts l.dash l.content := by
  induction h with
  | done _ => simp
  | @cons dash ts us vs rest l ls hdash hcontent hend _ ih =>
    intro l' hl' hkeyword
    rcases List.mem_cons.1 hl' with rfl | hl'
    · cases hcontent with
      | plain hts hhead => exact ⟨[], us, vs, rfl, hdash, hts, hhead, hend⟩
      | headed => cases hkeyword
    · -- the line stands behind this one and what ends this one
      have hmore := ih l' hl' hkeyword
      rw [← List.cons_append]
      cases hend with
      | @newline e _ _ =>
        have hbehind := hmore.behind ((dash :: ts) ++ [e])
        rwa [List.append_assoc] at hbehind
      | finish _ => exact hmore.behind (dash :: ts)

/-- An alternative of a body is what one of its lines makes, and that line has no keyword. -/
theorem exists_line_of_mem {ls : List BodyLine} {a : Alternative}
    (h : a ∈ (bodyOf ls).alternatives) : ∃ l ∈ ls, l.keyword = none ∧ a = l.alternative := by
  unfold bodyOf at h
  split at h
  · rename_i hplain
    obtain ⟨l, hl, rfl⟩ := List.mem_map.1 h
    exact ⟨l, hl, by simpa using List.all_eq_true.1 hplain l hl, rfl⟩
  · obtain ⟨r, hr, ha⟩ := List.mem_flatMap.1 h
    obtain ⟨tail, htail, hrule⟩ := List.mem_filterMap.1 hr
    cases tail with
    | nil => cases hrule
    | cons head tail =>
      obtain ⟨k, -, rfl⟩ := Option.map_eq_some_iff.1 hrule
      have ha : a ∈ (tail.takeWhile (·.keyword.isNone)).map (·.alternative) := by
        dsimp only at ha
        split at ha
        · cases ha
        · exact ha
      obtain ⟨l, hl, rfl⟩ := List.mem_map.1 ha
      refine ⟨l, ?_, by simpa using List.all_eq_true.1 List.all_takeWhile l hl, rfl⟩
      exact ((List.mem_tails _ _).1 htail).subset
        (List.mem_cons_of_mem head ((List.takeWhile_prefix _).subset hl))

theorem Definition.hasLine {t : Template} (h : Definition label ts t rest) :
    ∀ a ∈ t.body.alternatives, ∃ dash content, HasLine ts dash content ∧
      a = BodyLine.alternative ⟨dash, none, content⟩ := by
  intro a ha
  cases h with
  | @intro hash e us vs ws rest names parameters lines body _ _ _ _ hlines _ hbody =>
    obtain ⟨-, -, rfl⟩ := readBody_iff.1 hbody
    obtain ⟨⟨dash, keyword, content⟩, hl, rfl, rfl⟩ := exists_line_of_mem ha
    refine ⟨dash, content, ?_, rfl⟩
    have hbehind := (hlines.hasLine _ hl rfl).behind (hash :: (us ++ (vs ++ [e])))
    simpa using hbehind

theorem Document.hasLine {templates : List Template} (h : Document label ts templates) :
    ∀ t ∈ templates, ∀ a ∈ t.body.alternatives, ∃ dash content, HasLine ts dash content ∧
      a = BodyLine.alternative ⟨dash, none, content⟩ := by
  induction h with
  | done _ => simp
  | cons hd _ ih =>
    intro t ht a ha
    rcases List.mem_cons.1 ht with rfl | ht
    · exact hd.hasLine a ha
    · obtain ⟨dash, content, hline, heq⟩ := ih t ht a ha
      obtain ⟨d, rfl, -⟩ := hd.exists_tokens
      exact ⟨dash, content, hline.behind d.tokens, heq⟩

/-- In a document that ends, every line ends in a token. -/
theorem HasLine.exists_end (h : HasLine ts dash us) (hended : Ended ts) :
    ∃ before e after, ts = before ++ dash :: (us ++ e :: after) ∧ dash.kind = .dash ∧
      (∀ t ∈ us, t.kind.endsLine = false) ∧ (∀ t ∈ us.head?, t.kind.isKeyword = false) ∧
      e.kind.endsLine = true := by
  obtain ⟨before, vs, ws, rfl, hdash, hus, hhead, hend⟩ := h
  cases vs with
  | cons e after =>
    refine ⟨before, e, after, rfl, hdash, hus, hhead, ?_⟩
    cases hend with
    | newline he => rw [he]; rfl
    | finish hat => rw [kind_of_isAt hat]; rfl
  | nil =>
    -- the last token would be one of the line
    obtain ⟨front, last, heq, hlast, -⟩ := hended
    rw [List.append_nil] at heq
    have hmem : last ∈ dash :: us := by
      have hgetLast := congrArg List.getLast? heq
      rw [List.getLast?_append_cons, List.getLast?_concat] at hgetLast
      exact List.mem_of_getLast? hgetLast
    rcases List.mem_cons.1 hmem with rfl | hmem
    · rw [hdash] at hlast
      cases hlast
    · have hinside := hus last hmem
      rw [hlast] at hinside
      cases hinside

end Grammar

/-! ## The characters of a line -/

theorem Mode.move_dash {m m' : Mode} {c : Char} {t : Text} {n : Nat}
    (h : m.move c t = .ok ⟨some .dash, n, m'⟩) : c = '-' ∧ n = 0 := by
  cases m with
  | between =>
    rcases moveBetween_cases h with ⟨-, hm⟩ | ⟨-, hm⟩ | ⟨-, hm⟩ | ⟨rfl, hm⟩ <;> cases hm
    exact ⟨rfl, rfl⟩
  | declaration =>
    rcases moveDeclaration_cases h with ⟨_, -, hm⟩ | ⟨-, -, hm⟩ | ⟨_, hk, hm⟩ | ⟨-, hm⟩ <;> cases hm
    cases (punctuation?_modeBehind hk).1
  | body fresh =>
    rcases moveBody_cases h with ⟨-, hm⟩ | ⟨-, _, -, hm⟩ | ⟨-, _, _, -, hm⟩ | ⟨-, -, -, hm⟩
    · cases fresh <;> cases hm
    · cases hm
    · cases hm
    · have hcontent := isContent_content c t
      rw [← Option.some.inj (Move.mk.inj hm).1] at hcontent
      cases hcontent

namespace Laid

open Mode

variable {m : Mode} {before t : Text} {ss : List Stretch} {u e : Token} {ts us vs : List Token}

/-- The stretches of a text with a token among them fall apart at that token. -/
theorem split_token (h : Laid m before t ss) (hready : Ready m before t)
    (htokens : ss.filterMap Stretch.token? = us ++ u :: vs) :
    ∃ m' front rest after, t = front ++ rest ∧ Laid m' (before ++ front) rest (.token u :: after) ∧
      after.filterMap Stretch.token? = vs := by
  obtain ⟨ss₁, ss₂, rfl, -, htokens⟩ := List.filterMap_eq_append_iff.1 htokens
  obtain ⟨ss₃, s, after, rfl, hnone, hs, hafter⟩ := List.filterMap_eq_cons_iff.1 htokens
  cases s with
  | layout => cases hs
  | token v =>
    cases hs
    have hcovers := h.covers
    rw [← List.append_assoc] at h
    obtain ⟨t', hlaid, -⟩ := h.split hready
    refine ⟨_, _, t', after, ?_, hlaid, hafter⟩
    rw [← hcovers, ← hlaid.covers, textOf, textOf, textOf, ← List.flatMap_append, List.append_assoc]

/-- Behind content, the next token is taken where it stands. -/
theorem take_body (h : Laid (.body false) before t ss)
    (htokens : ss.filterMap Stretch.token? = u :: us) (hu : u.kind.endsLine = false) :
    ∃ c rest n ss', t = c :: rest ∧ u.value = c :: rest.take n ∧
      moveBody false c rest = .ok ⟨some u.kind, n, .body false⟩ ∧
      Laid (.body false) (before ++ u.value) (rest.drop n) ss' ∧
      ss'.filterMap Stretch.token? = us := by
  cases h with
  | finish =>
    cases htokens
    cases hu
  | skip hmove _ => exact absurd hmove (moveBody_ne_skip _)
  | take hmove hrest =>
    cases htokens
    have hbody := Cuts.modeBehind_body hmove hu
    rw [hbody] at hmove hrest
    exact ⟨_, _, _, _, rfl, rfl, hmove, hrest, rfl⟩

/-- Behind content, the tokens of a line stand one behind the other. -/
theorem line (h : Laid (.body false) before t ss)
    (htokens : ss.filterMap Stretch.token? = ts ++ us) (hts : ∀ u ∈ ts, u.kind.endsLine = false) :
    ∃ rest ss', t = ts.flatMap (·.value) ++ rest ∧
      Laid (.body false) (before ++ ts.flatMap (·.value)) rest ss' ∧
      ss'.filterMap Stretch.token? = us := by
  induction ts generalizing before t ss with
  | nil => exact ⟨t, ss, rfl, by simpa using h, htokens⟩
  | cons u ts ih =>
    obtain ⟨c, rest, n, ss', rfl, hvalue, -, hlaid, htokens'⟩ :=
      h.take_body htokens (hts u List.mem_cons_self)
    obtain ⟨rest', ss'', hrest, hlaid', htokens''⟩ :=
      ih hlaid htokens' fun v hv => hts v (List.mem_cons_of_mem u hv)
    refine ⟨rest', ss'', ?_, ?_, htokens''⟩
    · rw [List.flatMap_cons, List.append_assoc, ← hrest, hvalue, List.cons_append,
        List.take_append_drop]
    · rwa [List.flatMap_cons, ← List.append_assoc]

/-- Behind content, what ends the line stands where the content ends. -/
theorem lineEnd (h : Laid (.body false) before t ss)
    (htokens : ss.filterMap Stretch.token? = e :: us) (he : e.kind.endsLine = true) :
    e.position = .behind before ∧
      (e.kind = .newline ∧ e.value <+: t ∨ e.kind = .finish ∧ t = []) := by
  cases h with
  | finish =>
    cases htokens
    exact ⟨rfl, .inr ⟨rfl, rfl⟩⟩
  | skip hmove _ => exact absurd hmove (moveBody_ne_skip _)
  | @take _ c _ t n k ss hmove _ =>
    cases htokens
    have hk : k = .newline := by
      simpa [TokenKind.endsLine, move_ne_finish hmove] using he
    exact ⟨rfl, .inl ⟨hk, (List.prefix_cons_inj c).2 (List.take_prefix n t)⟩⟩

/-! ## Behind the dash -/

/-- In front of a character that is no blank and no keyword, a line is cut as behind content. -/
theorem settle (h : Laid (.body true) before t ss) (hblank : ∀ c ∈ t.head?, isBlank c = false)
    (hkeyword : ∀ u ∈ (ss.filterMap Stretch.token?).head?, u.kind.isKeyword = false) :
    Laid (.body false) before t ss := by
  cases h with
  | finish => exact .finish _ _
  | @skip _ c _ t _ _ hmove _ =>
    rcases moveBody_cases hmove with ⟨hc, -⟩ | ⟨-, _, -, hm⟩ | ⟨-, _, _, -, hm⟩ | ⟨-, -, -, hm⟩
    · rw [hblank c rfl] at hc
      cases hc
    all_goals cases hm
  | @take _ c _ t n k ss hmove hrest =>
    refine .take ?_ hrest
    rcases moveBody_cases hmove with ⟨hc, -⟩ | ⟨hc, i, hnewline, hm⟩ | ⟨-, k', _, -, hm⟩ |
      ⟨hc, -, hnone, -⟩
    · rw [hblank c rfl] at hc
      cases hc
    · rw [hm, Mode.move, moveBody, hc, if_neg Bool.false_ne_true, hnewline]
    · cases hm
      cases hkeyword _ rfl
    · rw [← hmove]
      exact (moveBody_fresh hc (hnone rfl)).symm

/-- The blanks behind a dash are skipped at once. -/
theorem skip_blanks (h : Laid (.body true) before t ss) :
    ∃ blanks rest ss', t = blanks ++ rest ∧ (∀ c ∈ blanks, isBlank c = true) ∧
      (∀ c ∈ rest.head?, isBlank c = false) ∧ Laid (.body true) (before ++ blanks) rest ss' ∧
      ss'.filterMap Stretch.token? = ss.filterMap Stretch.token? := by
  cases h with
  | finish => exact ⟨[], [], _, rfl, by simp, by simp, by simpa using .finish _ _, rfl⟩
  | @skip _ c _ t n ss hmove hrest =>
    rcases moveBody_cases hmove with ⟨hc, hm⟩ | ⟨-, _, -, hm⟩ | ⟨-, _, _, -, hm⟩ | ⟨-, -, -, hm⟩
    · obtain rfl : n = run isBlank t := (Move.mk.inj hm).2.1
      refine ⟨c :: t.take (run isBlank t), t.drop (run isBlank t), ss, ?_, ?_, ?_, hrest, rfl⟩
      · rw [List.cons_append, List.take_append_drop]
      · intro d hd
        rcases List.mem_cons.1 hd with rfl | hd
        · exact hc
        · exact of_mem_take_run hd
      · intro d hd
        have hend := List.head?_dropWhile_not isBlank t
        rw [drop_run, Option.mem_def] at hd
        simpa [hd] using hend
    all_goals cases hm
  | @take _ c _ t n k ss hmove hrest =>
    refine ⟨[], c :: t, _, rfl, by simp, ?_, by simpa using .take hmove hrest, rfl⟩
    rintro d ⟨⟩
    cases hblank : isBlank c with
    | false => rfl
    | true =>
      rw [Mode.move, moveBody, if_pos hblank] at hmove
      cases hmove

/-- What follows a dash. -/
theorem dash (h : Laid m before t (.token u :: ss)) (hu : u.kind = .dash) :
    ∃ rest, t = '-' :: rest ∧ u = ⟨.dash, ['-'], .behind before⟩ ∧
      Laid (.body true) (before ++ ['-']) rest ss := by
  cases h with
  | finish => cases hu
  | take hmove hrest =>
    obtain rfl := hu
    obtain ⟨rfl, rfl⟩ := Mode.move_dash hmove
    exact ⟨_, rfl, rfl, hrest⟩

end Laid

/-! ## Every alternative -/

/-- The tokens of an alternative are the first that some text is cut into behind a dash and
blanks. -/
def Alternative.IsLaid (a : Alternative) : Prop :=
  ∃ dash before t ts us ss, a = BodyLine.alternative ⟨dash, none, ts⟩ ∧
    (∀ u ∈ ts, u.kind.endsLine = false) ∧ Laid (.body false) before t ss ∧
    ss.filterMap Stretch.token? = ts ++ us

/-- **A line among the tokens of a document is a slice of the document.** -/
theorem Grammar.HasLine.standsIn {t : Text} {tokens ts : List Token} {dash : Token}
    (hscan : Token.scan t = .ok tokens) (h : HasLine tokens dash ts) :
    (BodyLine.alternative ⟨dash, none, ts⟩).IsLaid ∧ ∃ before blanks after e,
      (BodyLine.alternative ⟨dash, none, ts⟩).StandsIn t tokens before blanks after e := by
  obtain ⟨us, e, vs, rfl, hdash, hts, hhead, he⟩ := h.exists_end (Token.ended_of_scan hscan)
  obtain ⟨ss, hlaid, htokens⟩ := Token.laid_of_scanFrom .between [] t hscan
  have hready : Ready .between [] t := fun _ => .inl (by simp [OpensLine])
  obtain ⟨m, before, rest, ss₁, rfl, hlaid₁, htokens₁⟩ := hlaid.split_token hready htokens
  rw [List.nil_append] at hlaid₁
  obtain ⟨rest, rfl, rfl, hlaid₂⟩ := hlaid₁.dash hdash
  obtain ⟨blanks, rest, ss₂, rfl, hblanks, hfirst, hlaid₃, htokens₂⟩ := hlaid₂.skip_blanks
  rw [htokens₁] at htokens₂
  have hkeyword : ∀ u ∈ (ss₂.filterMap Stretch.token?).head?, u.kind.isKeyword = false := by
    rw [htokens₂]
    intro u hu
    cases ts with
    | nil =>
      obtain rfl : e = u := Option.some.inj hu
      cases hk : e.kind <;> rw [hk] at he <;> first | rfl | cases he
    | cons u' ts => exact hhead u hu
  have hcontent := hlaid₃.settle hfirst hkeyword
  obtain ⟨after, ss₃, hsplit, hlaid₄, htokens₃⟩ := hcontent.line htokens₂ hts
  obtain ⟨hplace, hend⟩ := hlaid₄.lineEnd htokens₃ he
  have hsource := BodyLine.source_alternative ⟨.dash, ['-'], .behind before⟩ none ts
  refine ⟨⟨_, _, _, ts, _, ss₂, rfl, hts, hcontent, htokens₂⟩, before, blanks, after, e, ?_⟩
  exact {
    covers := by rw [hsource, ← hsplit]
    blank := hblanks
    first := by rwa [hsource, ← hsplit]
    line := ⟨us, ts, vs, rfl, hts, rfl⟩
    place := by
      rw [hsource, hplace]
      simp
    finish := hend }

/-- **Every alternative of a document is a slice of it.** -/
theorem Template.standsIn_of_readDocument {label t : Text} {templates : List Template}
    (h : readDocument label t = .ok templates) :
    ∃ tokens, Token.scan t = .ok tokens ∧
      ∀ template ∈ templates, ∀ a ∈ template.body.alternatives, a.IsLaid ∧
        ∃ before blanks after e, a.StandsIn t tokens before blanks after e := by
  obtain ⟨tokens, hscan, hdocument⟩ := readDocument_iff.1 h
  refine ⟨tokens, hscan, fun template htemplate a ha => ?_⟩
  obtain ⟨dash, ts, hline, rfl⟩ := hdocument.hasLine template htemplate a ha
  exact hline.standsIn hscan

end Phrasebook
