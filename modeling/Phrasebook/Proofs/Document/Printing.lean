import Phrasebook.Document.Definition
import Phrasebook.Proofs.Document.Recutting

/-!
# Printing templates

A template is printed as a declaration line and body lines.  Comments, layout and whatever a line
with a keyword holds besides its condition are not printed.

* `Template.printed`, `Template.printedAll`: templates as a document;
* `BodyLine.core`: a body line without what is not printed;
* `Template.printed_readBody`: a body is printed as the lines that it is made of;
* `Cuts.heading`, `Cuts.joined`: how printed lines and the names of a declaration are cut.
-/

namespace Phrasebook

/-! ## Printed documents -/

/-- An alternative as a body line. -/
def Alternative.printed (a : Alternative) : Text := "- ".toList ++ (a.source ++ ['\n'])

/-- The line that begins a rule. -/
def Rule.heading (k : Keyword) (condition : Option Text) : Text :=
  "- ".toList ++ (k.name ++ (':' :: ((condition.map (' ' :: ·)).getD [] ++ ['\n'])))

/-- A rule as body lines. -/
def Rule.printed (r : Rule) : Text :=
  Rule.heading r.keyword r.condition ++ (r.body.getD []).flatMap Alternative.printed

/-- A body as body lines. -/
def Body.printed : Body → Text
  | .normal alternatives => alternatives.flatMap Alternative.printed
  | .conditional rules => rules.flatMap Rule.printed

/-- A template as a declaration line and body lines. -/
def Template.printed (t : Template) : Text := '#' :: (t.signature ++ '\n' :: t.body.printed)

/-- Templates as a document. -/
def Template.printedAll (templates : List Template) : Text := templates.flatMap Template.printed

namespace BodyLine

/-- The condition of the rule that a line with a keyword begins. -/
def guard? (l : BodyLine) (k : Keyword) : Option Text := if k = .elseWord then none else l.condition?

/-- A line as it is printed. -/
def printed (l : BodyLine) : Text :=
  match l.keyword with
  | none => l.alternative.printed
  | some (k, _) => Rule.heading k (l.guard? k)

/-- The tokens of a line with a keyword that its condition is. -/
def guardTokens (l : BodyLine) (k : Keyword) : List Token :=
  if k = .elseWord then [] else (l.content.find? (·.kind = .expression)).toList

/-- A line without the tokens that are not printed. -/
def core (l : BodyLine) : BodyLine :=
  match l.keyword with
  | none => l
  | some (k, _) => { l with content := l.guardTokens k }

theorem guard?_eq (l : BodyLine) (k : Keyword) :
    l.guard? k = (l.guardTokens k).head?.map (·.value) := by
  unfold guard? guardTokens condition?
  by_cases hk : k = .elseWord
  · rw [if_pos hk, if_pos hk]
    rfl
  · rw [if_neg hk, if_neg hk, Option.head?_toList]

/-- The condition of a line is one of its tokens. -/
theorem guardTokens_cases (l : BodyLine) (k : Keyword) :
    (l.guardTokens k = [] ∧ l.guard? k = none) ∨
      ∃ t ∈ l.content, t.kind = .expression ∧ l.guardTokens k = [t] ∧ l.guard? k = some t.value := by
  rw [guard?_eq]
  unfold guardTokens
  by_cases hk : k = .elseWord
  · rw [if_pos hk]
    exact .inl ⟨rfl, rfl⟩
  · rw [if_neg hk]
    cases hfind : l.content.find? (·.kind = .expression) with
    | none => exact .inl ⟨rfl, rfl⟩
    | some t =>
      have ht := List.find?_some hfind
      exact .inr ⟨t, List.mem_of_find?_eq_some hfind, by simpa using ht, rfl, rfl⟩

/-- A condition is the value of a token of the line. -/
theorem mem_content_of_guard? {l : BodyLine} {k : Keyword} {v : Text} (h : v ∈ l.guard? k) :
    ∃ t ∈ l.content, t.piece = (.expression, v) := by
  rcases l.guardTokens_cases k with ⟨-, hnone⟩ | ⟨t, hmem, hkind, -, hsome⟩
  · rw [hnone] at h
    cases h
  · rw [hsome] at h
    cases h
    exact ⟨t, hmem, by rw [Token.piece, hkind]⟩

theorem mem_content_of_guardTokens {l : BodyLine} {k : Keyword} {t : Token}
    (h : t ∈ l.guardTokens k) : t ∈ l.content := by
  rcases l.guardTokens_cases k with ⟨hnil, -⟩ | ⟨t', hmem, -, hsingle, -⟩
  · rw [hnil] at h
    cases h
  · rw [hsingle, List.mem_singleton] at h
    exact h ▸ hmem

/-- The condition as a piece is the token that it is. -/
theorem piece_guardTokens (l : BodyLine) (k : Keyword) :
    (l.guardTokens k).map Token.piece = (l.guard? k).toList.map (TokenKind.expression, ·) := by
  rcases l.guardTokens_cases k with ⟨hnil, hnone⟩ | ⟨t, -, hkind, hsingle, hsome⟩
  · rw [hnil, hnone]
    rfl
  · rw [hsingle, hsome, List.map_singleton, Token.piece, hkind]
    rfl

theorem keyword_core (l : BodyLine) : l.core.keyword = l.keyword := by
  unfold core
  split <;> rfl

theorem dash_core (l : BodyLine) : l.core.dash = l.dash := by
  unfold core
  split <;> rfl

theorem core_of_plain {l : BodyLine} (h : l.keyword = none) : l.core = l := by
  unfold core
  rw [h]

theorem condition?_core {l : BodyLine} {k : Keyword} {p : Position} (h : l.keyword = some (k, p))
    (hk : k ≠ .elseWord) : l.core.condition? = l.condition? := by
  unfold core condition?
  rw [h]
  simp only [guardTokens, if_neg hk]
  cases hfind : l.content.find? (·.kind = .expression) with
  | none => rfl
  | some t =>
    have ht := List.find?_some hfind
    rw [Option.toList_some, List.find?_cons, ht]

end BodyLine

namespace Template

theorem readRules_core (ls : List BodyLine) : readRules (ls.map BodyLine.core) = readRules ls := by
  induction ls with
  | nil => rfl
  | cons l ls ih =>
    rw [List.map_cons, readRules, readRules, BodyLine.keyword_core, ih]
    cases hk : l.keyword with
    | none => rw [BodyLine.core_of_plain hk]
    | some head =>
      obtain ⟨k, p⟩ := head
      dsimp only
      by_cases hword : k = .elseWord
      · simp only [hword, ne_eq, not_true_eq_false, false_and, if_false, if_true]
      · rw [BodyLine.condition?_core hk hword]

theorem readBody_core (name : Text) (ls : List BodyLine) :
    readBody name (ls.map BodyLine.core) = readBody name ls := by
  have hfind : (ls.map BodyLine.core).find? (·.keyword.isSome) =
      (ls.find? (·.keyword.isSome)).map BodyLine.core := by
    rw [List.find?_map]
    congr 2
    funext l
    exact congrArg Option.isSome l.keyword_core
  have hhead : ((ls.map BodyLine.core).head?.bind (·.keyword)) = ls.head?.bind (·.keyword) := by
    cases ls with
    | nil => rfl
    | cons l ls => exact l.keyword_core
  unfold readBody
  rw [hfind, hhead, readRules_core]
  cases hls : ls.find? (·.keyword.isSome) with
  | none =>
    rw [List.find?_eq_none] at hls
    rw [Option.map_none]
    refine congrArg (fun as => Except.ok (Body.normal as)) ?_
    rw [List.map_map]
    refine List.map_congr_left ?_
    intro l hl
    have hplain : l.keyword = none := by simpa using hls l hl
    exact congrArg BodyLine.alternative (BodyLine.core_of_plain hplain)
  | some l =>
    rw [Option.map_some]
    dsimp only
    rw [BodyLine.dash_core]

theorem printed_readRules {ls : List BodyLine} {alternatives : List Alternative} {rules : List Rule}
    (h : readRules ls = .ok (alternatives, rules)) :
    alternatives.flatMap Alternative.printed ++ rules.flatMap Rule.printed =
      ls.flatMap BodyLine.printed := by
  induction ls generalizing alternatives rules with
  | nil =>
    cases h
    rfl
  | cons l ls ih =>
    rw [readRules] at h
    rw [List.flatMap_cons, BodyLine.printed]
    cases hk : l.keyword with
    | none =>
      rw [hk] at h
      dsimp only at h ⊢
      cases hrest : readRules ls with
      | error f =>
        rw [hrest] at h
        cases h
      | ok found =>
        obtain ⟨as, rs⟩ := found
        rw [hrest] at h
        cases h
        rw [List.flatMap_cons, List.append_assoc, ih hrest]
    | some head =>
      obtain ⟨k, p⟩ := head
      rw [hk] at h
      dsimp only at h ⊢
      split at h
      · cases h
      · cases hrest : readRules ls with
        | error f =>
          rw [hrest] at h
          cases h
        | ok found =>
          obtain ⟨as, rs⟩ := found
          rw [hrest] at h
          cases h
          have hbody : (ruleBody as).getD [] = as := by
            unfold ruleBody
            by_cases has : as = []
            · rw [if_pos has, has]
              rfl
            · rw [if_neg has]
              rfl
          rw [List.flatMap_nil, List.nil_append, List.flatMap_cons, Rule.printed, hbody,
            List.append_assoc, ih hrest]
          rfl

/-- A body is printed as the lines that it is made of. -/
theorem printed_readBody {name : Text} {ls : List BodyLine} {body : Body}
    (h : readBody name ls = .ok body) : body.printed = ls.flatMap BodyLine.printed := by
  unfold readBody at h
  cases hfind : ls.find? (·.keyword.isSome) with
  | none =>
    rw [hfind] at h
    cases h
    rw [List.find?_eq_none] at hfind
    rw [Body.printed, List.flatMap_map]
    refine congrArg List.flatten (List.map_congr_left ?_)
    intro l hl
    have hplain : l.keyword = none := by simpa using hfind l hl
    rw [BodyLine.printed, hplain]
  | some l =>
    rw [hfind] at h
    dsimp only at h
    cases ls with
    | nil => cases hfind
    | cons first ls =>
      rw [List.head?_cons, Option.bind_some] at h
      by_cases hfirst : first.keyword.isSome = true
      · rw [if_pos hfirst] at h
        obtain ⟨⟨k, p⟩, hk⟩ := Option.isSome_iff_exists.1 hfirst
        cases hrules : readRules (first :: ls) with
        | error f =>
          rw [hrules] at h
          cases h
        | ok found =>
          obtain ⟨as, rs⟩ := found
          have hprinted := printed_readRules hrules
          rw [hrules] at h
          cases h
          -- the first line has a keyword, so no alternative stands in front of the rules
          have has : as = [] := by
            rw [readRules, hk] at hrules
            dsimp only at hrules
            split at hrules
            · cases hrules
            · cases hrest : readRules ls with
              | error f =>
                rw [hrest] at hrules
                cases hrules
              | ok found =>
                rw [hrest] at hrules
                cases hrules
                rfl
          rw [has, List.flatMap_nil, List.nil_append] at hprinted
          exact hprinted
      · rw [if_neg hfirst] at h
        cases h

end Template

open Scan
open Text (atLineEnd_cons isWord join)

/-! ## What tokens are spelt with -/

/-- The letters of an identifier. -/
def IsNameText (v : Text) : Prop :=
  ∃ c r, v = c :: r ∧ isWord c = true ∧ ∀ d ∈ r, (isWord d || d == '-') = true

/-- The letters of an expression: a brace, and the rest up to the brace that closes it. -/
def IsExpressionText (v : Text) : Prop :=
  ∃ r s, v = '\x7b' :: r ∧ expressionRest (r ++ s) = some r.length

theorem IsNameText.forall_mem {v : Text} (h : IsNameText v) :
    ∀ c ∈ v, (isWord c || c == '-') = true := by
  obtain ⟨c, r, rfl, hc, hr⟩ := h
  intro d hd
  rcases List.mem_cons.1 hd with rfl | hd
  · rw [hc, Bool.true_or]
  · exact hr d hd

namespace Cuts

open Mode

variable {m : Mode} {t w v : Text} {pieces : List Piece} {k : TokenKind}

theorem isNameText (h : Cuts m t pieces) : ∀ p ∈ pieces, p.1 = .identifier → IsNameText p.2 := by
  refine h.forall_piece (by rintro ⟨⟩) ?_
  rintro m c t k n m' hmove rfl
  cases m with
  | between =>
    rcases moveBetween_cases hmove with ⟨-, hm⟩ | ⟨-, hm⟩ | ⟨-, hm⟩ | ⟨-, hm⟩ <;> cases hm
  | declaration =>
    rcases moveDeclaration_cases hmove with
      ⟨_, -, hm⟩ | ⟨-, -, hm⟩ | ⟨kind, hkind, hm⟩ | ⟨hword, hm⟩
    · cases hm
    · cases hm
    · cases hm
      exact absurd rfl (punctuation?_modeBehind hkind).2
    · refine ⟨c, _, rfl, hword, ?_⟩
      intro d hd
      rw [(Move.mk.inj hm).2.1] at hd
      have htake := List.prefix_iff_eq_take.1
        (List.takeWhile_prefix (fun d => isWord d || d == '-') (l := t))
      exact List.all_eq_true.1 List.all_takeWhile d (htake ▸ hd)
  | body fresh =>
    rcases moveBody_cases hmove with ⟨-, hm⟩ | ⟨-, _, -, hm⟩ | ⟨-, _, _, -, hm⟩ | ⟨-, -, -, hm⟩
    · cases fresh <;> cases hm
    · cases hm
    · cases hm
    · have hcontent := isContent_content c t
      rw [← Option.some.inj (Move.mk.inj hm).1] at hcontent
      cases hcontent

theorem isExpressionText (h : Cuts m t pieces) :
    ∀ p ∈ pieces, p.1 = .expression → IsExpressionText p.2 := by
  refine h.forall_piece (by rintro ⟨⟩) ?_
  rintro m c t k n m' hmove rfl
  have hle : n ≤ t.length := extra_le hmove
  have hcontent := move_content hmove rfl
  obtain ⟨rfl, hrest⟩ := content_expression (congrArg Prod.fst hcontent)
  refine ⟨t.take n, t.drop n, rfl, ?_⟩
  rw [List.take_append_drop, hrest, hcontent, List.length_take, Nat.min_eq_left hle]

/-! ## Printed headings -/

/-- An expression is cut wherever it stands. -/
theorem expression (h : Cuts (.body false) w pieces) (hv : IsExpressionText v) :
    Cuts (.body false) (v ++ w) ((.expression, v) :: pieces) := by
  obtain ⟨r, s, rfl, hrest⟩ := hv
  have hrest' := expressionRest_append hrest w
  have hcontent : content '\x7b' (r ++ w) = (.expression, r.length) := by
    rw [content_brace, hrest']
    rfl
  have hmove : moveBody false '\x7b' (r ++ w) = .ok ⟨some .expression, r.length, .body false⟩ := by
    rw [moveBody_content rfl (by decide) (by decide), hcontent]
  have htaken := Cuts.take (m := .body false) hmove (by
    rw [List.drop_left' rfl]
    exact h)
  rwa [List.take_left' rfl] at htaken

theorem keywordMove?_name (k : Keyword) {c : Char} (hc : isSeparator c = true) (t : Text) :
    keywordMove? (k.name ++ ':' :: c :: t) =
      some (.ok ⟨some (.keyword k), k.name.length, .body true⟩) := by
  have hkeyword : keyword? (k.name ++ ':' :: c :: t) = some (k.name, k.name.length + 1) := by
    cases k <;> rfl
  have htext : textLength (k.name ++ ':' :: c :: t) = k.name.length + 1 := by
    have hend : textLength (c :: t) = 0 := by
      rw [textLength, if_pos (by rw [hc, Bool.true_or, Bool.true_or])]
    have hletters : ∀ u, textLength (k.name ++ ':' :: u) = textLength u + (k.name.length + 1) := by
      intro u
      cases k <;> rfl
    rw [hletters, hend, Nat.zero_add]
  have hexact : exactKeyword? k.name = some k := by
    cases k <;> rfl
  unfold keywordMove?
  rw [hkeyword]
  dsimp only
  rw [htext, if_neg (Nat.lt_irrefl _), hexact]
  rfl

/-- A keyword with its colon is cut where content may begin. -/
theorem keyword (k : Keyword) {c : Char} (hc : isSeparator c = true)
    (h : Cuts (.body true) (c :: t) pieces) :
    Cuts (.body true) (k.name ++ ':' :: c :: t) ((.keyword k, k.name ++ [':']) :: pieces) := by
  have hkeyword := keywordMove?_name k hc t
  obtain ⟨first, letters, hname, hblank, hline, hreturn⟩ : ∃ first letters,
      k.name = first :: letters ∧ isBlank first = false ∧ first ≠ '\n' ∧ first ≠ '\r' := by
    cases k <;> exact ⟨_, _, rfl, by decide, by decide, by decide⟩
  rw [hname, List.cons_append] at hkeyword ⊢
  have hmove : moveBody true first (letters ++ ':' :: c :: t) =
      .ok ⟨some (.keyword k), letters.length + 1, .body true⟩ := by
    unfold moveBody
    rw [hblank, if_neg Bool.false_ne_true, newline?_of_ne hline hreturn, if_pos rfl, hkeyword]
    rfl
  have hsplit : letters ++ ':' :: c :: t = (letters ++ [':']) ++ c :: t := by simp
  have hlength : (letters ++ [':']).length = letters.length + 1 := by simp
  have htaken := Cuts.take (m := .body true) hmove (by
    rw [hsplit, List.drop_left' hlength]
    exact h)
  rw [hsplit, List.take_left' hlength] at htaken
  rw [hsplit]
  exact htaken

/-- The heading of a rule is cut into a dash, the keyword, the condition and the end of the line. -/
theorem heading (k : Keyword) {condition : Option Text}
    (hcondition : ∀ v ∈ condition, IsExpressionText v) (h : Cuts .between t pieces) :
    Cuts .between (Rule.heading k condition ++ t)
      ((.dash, ['-']) :: (.keyword k, k.name ++ [':']) ::
        (condition.toList.map (TokenKind.expression, ·) ++ (.newline, ['\n']) :: pieces)) := by
  have hline := h.newline
  have hrest : Cuts (.body true)
      (' ' :: (k.name ++ ':' :: ((condition.map (' ' :: ·)).getD [] ++ '\n' :: t)))
      ((.keyword k, k.name ++ [':']) ::
        (condition.toList.map (TokenKind.expression, ·) ++ (.newline, ['\n']) :: pieces)) := by
    refine Cuts.blank ?_ (by cases k <;> rintro c ⟨⟩ <;> rfl)
    cases condition with
    | none => exact keyword k rfl (hline.freshen_atLineEnd (atLineEnd_cons t))
    | some v =>
      have hv := hcondition v rfl
      have hexpression := hline.expression hv
      obtain ⟨r, s, rfl, -⟩ := hv
      refine keyword k rfl (Cuts.blank (hexpression.freshen rfl rfl) ?_)
      rintro c ⟨⟩
      rfl
  have hdash := Cuts.take (m := .between) (c := '-') (n := 0) rfl hrest
  simpa [Rule.heading] using hdash

/-- A heading has marks of blocks only in its condition. -/
theorem marksFrom_heading {u : Text} (k : Keyword) {condition : Option Text}
    (hcondition : ∀ v ∈ condition, MarksFrom v t) (hu : MarksFrom u t) :
    MarksFrom (Rule.heading k condition ++ u) t := by
  have hend : MarksFrom ((condition.map (' ' :: ·)).getD [] ++ '\n' :: u) t := by
    refine .append_cons newline_notMem_blockMark ?_ hu
    cases condition with
    | none => exact MarksFrom.of_isInfix List.nil_infix
    | some v => exact .append_of_disjoint (a := [' ']) (by simp [blockMark]) (hcondition v rfl)
  have hall : MarksFrom ("- ".toList ++ (k.name ++ ([':'] ++
      ((condition.map (' ' :: ·)).getD [] ++ '\n' :: u)))) t := by
    refine .append_of_disjoint (by simp [blockMark]) (.append_of_disjoint ?_ ?_)
    · cases k <;> simp [Keyword.name, blockMark]
    · exact .append_of_disjoint (by simp [blockMark]) hend
  simpa [Rule.heading] using hall

/-! ## Printed declarations -/

theorem isWord_punctuation {c : Char} (h : isWord c = true) :
    c ≠ '\n' ∧ c ≠ '\r' ∧ isBlank c = false ∧ punctuation? c = none ∧ c ≠ ';' ∧ c ∉ blockMark := by
  have hne : ∀ d, isWord d = false → c ≠ d := by
    rintro d hd rfl
    rw [hd] at h
    cases h
  have hblank : isBlank c = false := by
    rw [isBlank, Bool.or_eq_false_iff, beq_eq_false_iff_ne, beq_eq_false_iff_ne]
    exact ⟨hne _ (by decide), hne _ (by decide)⟩
  have hpunctuation : punctuation? c = none := by
    unfold punctuation?
    split
    · exact absurd rfl (hne '.' (by decide))
    · exact absurd rfl (hne '(' (by decide))
    · exact absurd rfl (hne ')' (by decide))
    · exact absurd rfl (hne ',' (by decide))
    · rfl
  refine ⟨hne _ (by decide), hne _ (by decide), hblank, hpunctuation, hne _ (by decide), ?_⟩
  have hmark := hne '\x60' (by decide)
  simpa [blockMark] using hmark

/-- A character that no identifier holds. -/
def EndsName (c : Char) : Prop := (isWord c || c == '-') = false

instance (c : Char) : Decidable (EndsName c) :=
  inferInstanceAs (Decidable ((isWord c || c == '-') = false))

theorem identifier {c : Char} (hv : IsNameText v) (hc : EndsName c)
    (h : Cuts .declaration (c :: t) pieces) :
    Cuts .declaration (v ++ c :: t) ((.identifier, v) :: pieces) := by
  obtain ⟨first, r, rfl, hword, hr⟩ := hv
  obtain ⟨hline, hreturn, hblank, hpunctuation, hsemicolon, -⟩ := isWord_punctuation hword
  have hrun : run (fun d => isWord d || d == '-') (r ++ c :: t) = r.length := by
    rw [run, List.takeWhile_append_of_pos hr, List.takeWhile_cons_of_neg (by rw [hc]; decide),
      List.append_nil]
  have hmove : moveDeclaration first (r ++ c :: t) =
      .ok ⟨some .identifier, r.length, .declaration⟩ := by
    unfold moveDeclaration
    rw [newline?_of_ne hline hreturn]
    dsimp only
    rw [if_neg (by rw [hblank]; rintro (h | h); cases h; exact hreturn h), hpunctuation]
    dsimp only
    rw [if_neg hsemicolon, if_pos hword, hrun]
  have htaken := Cuts.take (m := .declaration) hmove (by
    rw [List.drop_left' rfl]
    exact h)
  rwa [List.take_left' rfl] at htaken

theorem punctuation {c : Char} (hkind : punctuation? c = some k) (hc : newline? (c :: t) = none)
    (hblank : ¬ (isBlank c ∨ c = '\r')) (h : Cuts .declaration t pieces) :
    Cuts .declaration (c :: t) ((k, [c]) :: pieces) := by
  have hmove : moveDeclaration c t = .ok ⟨some k, 0, .declaration⟩ := by
    unfold moveDeclaration
    rw [hc]
    dsimp only
    rw [if_neg hblank, hkind]
  exact .take (m := .declaration) hmove h

/-- Identifiers are cut from the text that is joined from them. -/
theorem joined {sep : Text} {mark : Piece} {names : List Text} {name : Text} {c : Char}
    (hsep : ∀ u ps, Cuts .declaration u ps → Cuts .declaration (sep ++ u) (mark :: ps))
    (hhead : ∃ d s, sep = d :: s ∧ EndsName d) (hnames : ∀ n ∈ name :: names, IsNameText n)
    (hc : EndsName c) (h : Cuts .declaration (c :: t) pieces) :
    Cuts .declaration (join sep (name :: names) ++ c :: t)
      ((.identifier, name) :: (names.flatMap (fun n => [mark, (.identifier, n)]) ++ pieces)) := by
  induction names generalizing name with
  | nil => exact h.identifier (hnames name List.mem_cons_self) hc
  | cons next names ih =>
    obtain ⟨d, s, rfl, hd⟩ := hhead
    have hnext := hsep _ _ (ih fun n hn => hnames n (List.mem_cons_of_mem name hn))
    rw [List.cons_append] at hnext
    have hname := hnext.identifier (hnames name List.mem_cons_self) hd
    simpa [join] using hname

theorem dot (h : Cuts .declaration t pieces) :
    Cuts .declaration (".".toList ++ t) ((.dot, ['.']) :: pieces) :=
  h.punctuation rfl rfl (by decide)

theorem comma (h : Cuts .declaration t pieces) :
    Cuts .declaration (", ".toList ++ t) ((.comma, [',']) :: pieces) :=
  (Cuts.skip (m := .declaration) (c := ' ') (n := 0) rfl h).punctuation rfl rfl (by decide)

theorem declarationEnd (h : Cuts .between t pieces) :
    Cuts .declaration ('\n' :: t) ((.newline, ['\n']) :: pieces) :=
  .take (n := 0) rfl h

end Cuts

end Phrasebook
