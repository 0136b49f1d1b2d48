import Mathlib.Data.List.Infix
import Phrasebook.Proofs.Document.Grammar
import Phrasebook.Proofs.Document.Tiling

/-!
# The shape of documents

The tokens of a document that is read are definitions, one behind the other, and the end.  A
definition is a declaration line with body lines below it; which of its lines are rules, and which
alternatives belong to a rule, is told by the lines that begin with a keyword.

* `LineTokens`, `DefinitionTokens`: the tokens of a body line and of a definition;
* `DefinitionTokens.template`: the template that a definition denotes;
* `Shape`: the tokens of a whole document;
* `Grammar.document_iff`: the documents of the grammar are the tokens of that shape.
-/

namespace Phrasebook

/-! ## Lines -/

/-- The tokens of a body line: its dash, the tokens up to its end, and the one that ends it, if not
the end of the document does. -/
structure LineTokens where
  dash : Token
  inside : List Token
  newline : Option Token

namespace LineTokens

/-- The tokens of a line in order. -/
def tokens (l : LineTokens) : List Token := l.dash :: (l.inside ++ l.newline.toList)

/-- A line with its keyword apart from its content. -/
def line (l : LineTokens) : BodyLine :=
  match l.inside with
  | ⟨.keyword k, _, p⟩ :: content => ⟨l.dash, some (k, p), content⟩
  | content => ⟨l.dash, none, content⟩

/-- The keyword that a line begins with. -/
def keyword? (l : LineTokens) : Option Keyword := l.line.keyword.map (·.1)

/-- A dash, tokens none of which ends a line, and a line feed. -/
structure IsLine (l : LineTokens) : Prop where
  dash : l.dash.kind = .dash
  inside : ∀ t ∈ l.inside, t.kind ≠ .newline ∧ t.kind ≠ .finish
  newline : ∀ t ∈ l.newline, t.kind = .newline

end LineTokens

/-! ## Bodies -/

/-- The rule that begins with the first of some lines, if a rule begins there: its guard is the
first expression of that line, and the lines up to the next keyword are its alternatives. -/
def ruleOf? : List BodyLine → Option Rule
  | [] => none
  | l :: rest =>
    let plain := rest.takeWhile (·.keyword.isNone)
    l.keyword.map fun (k, p) =>
      ⟨k, if k = .elseWord then none else l.condition?,
        if plain = [] then none else some (plain.map (·.alternative)), p.line⟩

/-- What body lines denote: alternatives, or the rules that begin at some of the lines. -/
def bodyOf (lines : List BodyLine) : Body :=
  if lines.all (·.keyword.isNone) then .normal (lines.map (·.alternative))
  else .conditional (lines.tails.filterMap ruleOf?)

/-! ## Definitions -/

/-- The tokens of a definition: the declaration line up to its end, and the body lines. -/
structure DefinitionTokens where
  hash : Token
  name : List Token
  parameters : List Token
  newline : Token
  lines : List LineTokens

/-- The letters of the identifiers among tokens. -/
def identifiers (ts : List Token) : List Text := (ts.filter (·.kind = .identifier)).map (·.value)

namespace DefinitionTokens

/-- The tokens of a definition in order. -/
def tokens (d : DefinitionTokens) : List Token :=
  d.hash :: (d.name ++ (d.parameters ++ d.newline :: d.lines.flatMap LineTokens.tokens))

/-- The template that a definition denotes. -/
def template (label : Text) (d : DefinitionTokens) : Template :=
  ⟨Text.join "." (identifiers d.name), identifiers d.parameters,
    bodyOf (d.lines.map LineTokens.line), label, d.hash.position.line⟩

/-- A name with points between its parts, parameters in parentheses with commas between them if
there are parentheses at all, and at least one line below.  Either no line begins with a keyword,
or the first one does, and a line that begins with a word that asks for a guard has one. -/
structure IsDefinition (d : DefinitionTokens) : Prop where
  hash : d.hash.kind = .hash
  name : ∃ names, Grammar.Listed .dot d.name names
  parameters : ∃ names, Grammar.Parameters d.parameters names
  newline : d.newline.kind = .newline
  nonempty : d.lines ≠ []
  lines : ∀ l ∈ d.lines, l.IsLine
  keywords : (∀ l ∈ d.lines, l.keyword? = none) ∨ ∃ l ∈ d.lines.head?, l.keyword? ≠ none
  guards : ∀ l ∈ d.lines, (l.keyword? = some .ifWord ∨ l.keyword? = some .elseIfWord) →
    ∃ t ∈ l.inside, t.kind = .expression

end DefinitionTokens

/-- **The tokens of a document**: definitions and the end, where the end of the document may stand
for the end of its last line. -/
structure Shape (ds : List DefinitionTokens) (tokens : List Token) : Prop where
  definitions : ∀ d ∈ ds, d.IsDefinition
  closed : ∀ l ∈ (ds.flatMap (·.lines)).dropLast, l.newline.isSome = true
  tokens : ∃ e, e.kind = .finish ∧ tokens = ds.flatMap DefinitionTokens.tokens ++ [e]

/-! ## Bodies as they are read -/

namespace BodyLine

/-- The line has a guard if it begins with a word that asks for one. -/
def Guarded (l : BodyLine) : Prop :=
  ∀ k p, l.keyword = some (k, p) → k ≠ .elseWord → l.condition?.isSome = true

end BodyLine

namespace Template

variable {ls : List BodyLine}

theorem ruleBody_map (ls : List BodyLine) :
    ruleBody (ls.map (·.alternative)) =
      if ls = [] then none else some (ls.map (·.alternative)) := by
  simp [ruleBody]

theorem readRules_of_guarded (h : ∀ l ∈ ls, l.Guarded) :
    readRules ls = .ok ((ls.takeWhile (·.keyword.isNone)).map (·.alternative),
      ls.tails.filterMap ruleOf?) := by
  induction ls with
  | nil => rfl
  | cons l ls ih =>
    have hrest := ih fun m hm => h m (List.mem_cons_of_mem _ hm)
    cases hkeyword : l.keyword with
    | none =>
      have hrule : ruleOf? (l :: ls) = none := by simp [ruleOf?, hkeyword]
      rw [readRules, hkeyword]
      simp only [hrest]
      simp [hkeyword, hrule]
    | some head =>
      obtain ⟨k, p⟩ := head
      have hguard : ¬ (k ≠ .elseWord ∧ l.condition?.isNone = true) := by
        rintro ⟨hk, hnone⟩
        have := h l List.mem_cons_self k p hkeyword hk
        simp [Option.isNone_iff_eq_none.1 hnone] at this
      have hrule : ruleOf? (l :: ls) = some ⟨k, if k = .elseWord then none else l.condition?,
          ruleBody ((ls.takeWhile (·.keyword.isNone)).map (·.alternative)), p.line⟩ := by
        simp [ruleOf?, hkeyword, ruleBody_map]
      rw [readRules, hkeyword]
      simp only [if_neg hguard, hrest]
      simp [hkeyword, hrule]

theorem guarded_of_readRules {r : List Alternative × List Rule} (h : readRules ls = .ok r) :
    ∀ l ∈ ls, l.Guarded := by
  induction ls generalizing r with
  | nil => simp
  | cons l ls ih =>
    rw [readRules] at h
    have hsplit : l.Guarded ∧ ∃ r, readRules ls = .ok r := by
      cases hkeyword : l.keyword with
      | none =>
        rw [hkeyword] at h
        cases hrest : readRules ls with
        | error f => simp [hrest, bind, Except.bind] at h
        | ok r => exact ⟨by simp [BodyLine.Guarded, hkeyword], r, rfl⟩
      | some head =>
        obtain ⟨k, p⟩ := head
        rw [hkeyword] at h
        dsimp only at h
        split at h
        · cases h
        · rename_i hguard
          cases hrest : readRules ls with
          | error f => simp [hrest, bind, Except.bind] at h
          | ok r =>
            refine ⟨?_, r, rfl⟩
            rintro k' p' heq hk
            rw [hkeyword] at heq
            cases heq
            simpa [hk, Option.isSome_iff_ne_none] using hguard
    obtain ⟨hguarded, r, hrest⟩ := hsplit
    intro m hm
    rcases List.mem_cons.1 hm with rfl | hm
    · exact hguarded
    · exact ih hrest m hm

/-- **Body lines are read as what they denote**, if no line begins with a keyword or the first one
does, and no guard is missing. -/
theorem readBody_iff {name : Text} {body : Body} :
    readBody name ls = .ok body ↔
      ((∀ l ∈ ls, l.keyword = none) ∨ ∃ l ∈ ls.head?, l.keyword ≠ none) ∧
        (∀ l ∈ ls, l.Guarded) ∧ body = bodyOf ls := by
  unfold readBody
  cases hfind : ls.find? (·.keyword.isSome) with
  | none =>
    have hplain : ∀ l ∈ ls, l.keyword = none := by simpa using hfind
    have hguarded : ∀ l ∈ ls, l.Guarded := by
      intro l hl k p hkeyword
      simp [hplain l hl] at hkeyword
    have hbody : bodyOf ls = .normal (ls.map (·.alternative)) := by
      rw [bodyOf, if_pos]
      simpa [List.all_eq_true] using hplain
    constructor
    · rintro h
      cases h
      exact ⟨.inl hplain, hguarded, hbody.symm⟩
    · rintro ⟨-, -, rfl⟩
      rw [hbody]
  | some l =>
    have hkeyword : ∃ l ∈ ls, l.keyword ≠ none := by
      refine ⟨l, List.mem_of_find?_eq_some hfind, ?_⟩
      simpa [Option.isSome_iff_ne_none] using List.find?_some hfind
    have hbody : bodyOf ls = .conditional (ls.tails.filterMap ruleOf?) := by
      obtain ⟨l, hl, hne⟩ := hkeyword
      rw [bodyOf, if_neg]
      intro hall
      exact hne (by simpa using List.all_eq_true.1 hall l hl)
    have hnotplain : ¬ ∀ l ∈ ls, l.keyword = none := by
      intro hall
      obtain ⟨l, hl, hne⟩ := hkeyword
      exact hne (hall l hl)
    have hhead : (ls.head?.bind (·.keyword)).isSome = true ↔ ∃ l ∈ ls.head?, l.keyword ≠ none := by
      cases ls.head? <;> simp [Option.isSome_iff_ne_none]
    dsimp only
    by_cases hfirst : (ls.head?.bind (·.keyword)).isSome = true
    · rw [if_pos hfirst]
      constructor
      · intro h
        cases hrules : readRules ls with
        | error f => simp [hrules, Except.map] at h
        | ok r =>
          have hguarded := guarded_of_readRules hrules
          rw [readRules_of_guarded hguarded] at h
          cases h
          exact ⟨.inr (hhead.1 hfirst), hguarded, hbody.symm⟩
      · rintro ⟨-, hguarded, rfl⟩
        rw [readRules_of_guarded hguarded, hbody]
        rfl
    · rw [if_neg hfirst]
      simp only [hnotplain, ← hhead, hfirst, false_or, false_and, reduceCtorEq]

end Template

/-! ## Lines as they are read -/

namespace LineTokens

variable {l : LineTokens}

/-- A line either begins with a keyword, or all that is inside is content. -/
theorem line_cases (l : LineTokens) :
    (∃ k v p content, l.inside = ⟨.keyword k, v, p⟩ :: content ∧
        l.line = ⟨l.dash, some (k, p), content⟩) ∨
      ((∀ t ∈ l.inside.head?, t.kind.isKeyword = false) ∧ l.line = ⟨l.dash, none, l.inside⟩) := by
  unfold line
  split
  · rename_i k v p content hinside
    exact .inl ⟨k, v, p, content, hinside, rfl⟩
  · rename_i content hplain
    refine .inr ⟨fun t ht => ?_, rfl⟩
    obtain ⟨k, v, p⟩ := t
    cases k with
    | keyword k =>
      rw [Option.mem_def, List.head?_eq_some_iff] at ht
      obtain ⟨content, hinside⟩ := ht
      exact absurd hinside (hplain k v p content)
    | _ => rfl

theorem line_of_plain (dash : Token) {ts : List Token} (newline : Option Token)
    (h : ∀ t ∈ ts.head?, t.kind.isKeyword = false) :
    line ⟨dash, ts, newline⟩ = ⟨dash, none, ts⟩ := by
  rcases line_cases ⟨dash, ts, newline⟩ with ⟨k, v, p, content, rfl, -⟩ | ⟨-, hline⟩
  · have := h _ rfl
    cases this
  · exact hline

theorem endsLine_of_ne {k : TokenKind} (h : k ≠ .newline ∧ k ≠ .finish) : k.endsLine = false := by
  simp [TokenKind.endsLine, h]

theorem ne_of_endsLine {k : TokenKind} (h : k.endsLine = false) : k ≠ .newline ∧ k ≠ .finish := by
  simpa [TokenKind.endsLine] using h

theorem IsLine.content (h : l.IsLine) : Grammar.Content l.dash l.inside l.line := by
  have hinside : ∀ t ∈ l.inside, t.kind.endsLine = false :=
    fun t ht => endsLine_of_ne (h.inside t ht)
  rcases l.line_cases with ⟨k, v, p, content, heq, hline⟩ | ⟨hplain, hline⟩
  · rw [hline, heq]
    refine .headed fun t ht => hinside t ?_
    rw [heq]
    exact List.mem_cons_of_mem _ ht
  · rw [hline]
    exact .plain hinside hplain

/-- A line of the grammar is the line of some tokens. -/
theorem exists_of_content {dash : Token} {ts : List Token} {b : BodyLine}
    (hdash : dash.kind = .dash) (h : Grammar.Content dash ts b) (newline : Option Token)
    (hnewline : ∀ t ∈ newline, t.kind = .newline) :
    IsLine ⟨dash, ts, newline⟩ ∧ line ⟨dash, ts, newline⟩ = b := by
  cases h with
  | plain hts hhead =>
    exact ⟨⟨hdash, fun t ht => ne_of_endsLine (hts t ht), hnewline⟩, line_of_plain _ _ hhead⟩
  | headed hts =>
    refine ⟨⟨hdash, fun t ht => ?_, hnewline⟩, rfl⟩
    rcases List.mem_cons.1 ht with rfl | ht
    · exact ⟨nofun, nofun⟩
    · exact ne_of_endsLine (hts t ht)

/-- The guard of a line is an expression inside it. -/
theorem guarded_line_iff (l : LineTokens) :
    l.line.Guarded ↔ ((l.keyword? = some .ifWord ∨ l.keyword? = some .elseIfWord) →
      ∃ t ∈ l.inside, t.kind = .expression) := by
  rcases l.line_cases with ⟨k, v, p, content, hinside, hline⟩ | ⟨-, hline⟩
  · have hcondition : (BodyLine.condition? ⟨l.dash, some (k, p), content⟩).isSome = true ↔
        ∃ t ∈ l.inside, t.kind = .expression := by
      simp [BodyLine.condition?, hinside, List.find?_isSome]
    rw [← hcondition]
    cases k <;> simp [BodyLine.Guarded, keyword?, hline]
  · simp [BodyLine.Guarded, keyword?, hline]

end LineTokens

namespace Grammar

open Template LineTokens

variable {ls : List LineTokens} {ts rest : List Token}

/-- The lines of some tokens are lines of the grammar, if each of them is closed but for a last one
at the end of the document. -/
theorem lines_of_tokens (hlines : ∀ l ∈ ls, l.IsLine)
    (hclosed : ∀ l ∈ ls.dropLast, l.newline.isSome = true)
    (hlast : isAt .finish rest = true ∨ ∀ l ∈ ls, l.newline.isSome = true)
    (hrest : isAt .dash rest = false) :
    Lines (ls.flatMap LineTokens.tokens ++ rest) (ls.map LineTokens.line) rest := by
  induction ls with
  | nil => exact .done hrest
  | cons l ls ih =>
    have hl := hlines l List.mem_cons_self
    have hmore : Lines (ls.flatMap LineTokens.tokens ++ rest) (ls.map LineTokens.line) rest := by
      refine ih (fun m hm => hlines m (List.mem_cons_of_mem _ hm)) (fun m hm => hclosed m ?_) ?_
      · cases ls with
        | nil => simp at hm
        | cons l' ls => exact List.mem_cons_of_mem _ hm
      · exact hlast.imp_right fun h m hm => h m (List.mem_cons_of_mem _ hm)
    have hsplit : (l :: ls).flatMap LineTokens.tokens ++ rest =
        l.dash :: (l.inside ++ (l.newline.toList ++ (ls.flatMap LineTokens.tokens ++ rest))) := by
      simp [LineTokens.tokens]
    rw [hsplit]
    refine .cons hl.dash hl.content ?_ hmore
    cases hnewline : l.newline with
    | some e => exact .newline (hl.newline e hnewline)
    | none =>
      -- an open line is the last one
      have hnil : ls = [] := by
        cases ls with
        | nil => rfl
        | cons l' ls =>
          have := hclosed l List.mem_cons_self
          simp [hnewline] at this
      subst hnil
      rcases hlast with hfinish | hall
      · exact .finish hfinish
      · have := hall l List.mem_cons_self
        simp [hnewline] at this

/-- Lines of the grammar are the lines of some tokens. -/
theorem Lines.exists_tokens {bs : List BodyLine} (h : Lines ts bs rest) :
    ∃ ls : List LineTokens, ts = ls.flatMap LineTokens.tokens ++ rest ∧
      ls.map LineTokens.line = bs ∧ (∀ l ∈ ls, l.IsLine) ∧
      (∀ l ∈ ls.dropLast, l.newline.isSome = true) ∧
      (isAt .finish rest = true ∨ ∀ l ∈ ls, l.newline.isSome = true) := by
  induction h with
  | done _ => exact ⟨[], rfl, rfl, by simp, by simp, .inr (by simp)⟩
  | @cons dash ts us vs rest b bs hdash hcontent hend hmore ih =>
    obtain ⟨ls, rfl, rfl, hlines, hclosed, hlast⟩ := ih
    cases hend with
    | @newline e _ he =>
      obtain ⟨hline, rfl⟩ := exists_of_content hdash hcontent (some e) (by simpa using he)
      refine ⟨⟨dash, ts, some e⟩ :: ls, by simp [LineTokens.tokens], rfl, ?_, ?_, ?_⟩
      · simpa [hline] using hlines
      · intro l hl
        cases ls with
        | nil => simp at hl
        | cons l' ls =>
          rcases List.mem_cons.1 hl with rfl | hl
          · rfl
          · exact hclosed l hl
      · exact hlast.imp_right fun h => by simpa using h
    | finish hat =>
      -- nothing but the end of the document follows an open line
      have hnil : ls = [] := by
        cases ls with
        | nil => rfl
        | cons l ls =>
          have hkind : l.dash.kind = .finish := kind_of_isAt hat
          rw [(hlines l List.mem_cons_self).dash] at hkind
          cases hkind
      subst hnil
      obtain ⟨hline, rfl⟩ := exists_of_content hdash hcontent none (by simp)
      exact ⟨[⟨dash, ts, none⟩], by simp [LineTokens.tokens], rfl, by simpa using hline, by simp,
        .inl hat⟩

/-! ## Identifiers -/

theorem Marked.identifiers {mark : TokenKind} {names : List Text} (hmark : mark ≠ .identifier)
    (h : Marked mark ts names) : identifiers ts = names := by
  induction h with
  | nil => rfl
  | cons hm hi _ ih => simpa [Phrasebook.identifiers, hm, hi, hmark] using ih

theorem Listed.identifiers {mark : TokenKind} {names : List Text} (hmark : mark ≠ .identifier)
    (h : Listed mark ts names) : identifiers ts = names := by
  cases h with
  | intro hi hts => simpa [Phrasebook.identifiers, hi] using hts.identifiers hmark

theorem Parameters.identifiers {names : List Text} (h : Parameters ts names) :
    identifiers ts = names := by
  cases h with
  | absent => rfl
  | empty ho hc => simp [Phrasebook.identifiers, ho, hc]
  | given ho hts hc =>
    have := hts.identifiers (by decide)
    simpa [Phrasebook.identifiers, ho, hc] using this

/-! ## Definitions -/

variable {label : Text} {d : DefinitionTokens} {ds : List DefinitionTokens} {t : Template}

theorem keywords_map_line (ls : List LineTokens) :
    ((∀ b ∈ ls.map LineTokens.line, b.keyword = none) ∨
        ∃ b ∈ (ls.map LineTokens.line).head?, b.keyword ≠ none) ↔
      ((∀ l ∈ ls, l.keyword? = none) ∨ ∃ l ∈ ls.head?, l.keyword? ≠ none) := by
  simp [LineTokens.keyword?, List.head?_map]

theorem definition_of_tokens (h : d.IsDefinition)
    (hclosed : ∀ l ∈ d.lines.dropLast, l.newline.isSome = true)
    (hlast : isAt .finish rest = true ∨ ∀ l ∈ d.lines, l.newline.isSome = true)
    (hrest : isAt .dash rest = false) :
    Definition label (d.tokens ++ rest) (d.template label) rest := by
  obtain ⟨names, hnames⟩ := h.name
  obtain ⟨parameters, hparameters⟩ := h.parameters
  have hlines := lines_of_tokens h.lines hclosed hlast hrest
  have hbody : readBody (Text.join "." names) (d.lines.map LineTokens.line) =
      .ok (bodyOf (d.lines.map LineTokens.line)) := by
    refine readBody_iff.2 ⟨(keywords_map_line d.lines).2 h.keywords, ?_, rfl⟩
    intro b hb
    obtain ⟨l, hl, rfl⟩ := List.mem_map.1 hb
    exact l.guarded_line_iff.2 (h.guards l hl)
  have hdefinition : Definition label _ _ rest :=
    .intro h.hash hnames hparameters h.newline hlines (by simpa using h.nonempty) hbody
  simpa [DefinitionTokens.tokens, DefinitionTokens.template, hnames.identifiers (by decide),
    hparameters.identifiers] using hdefinition

/-- A definition of the grammar is the definition of some tokens. -/
theorem Definition.exists_tokens (h : Definition label ts t rest) :
    ∃ d : DefinitionTokens, ts = d.tokens ++ rest ∧ t = d.template label ∧ d.IsDefinition ∧
      (∀ l ∈ d.lines.dropLast, l.newline.isSome = true) ∧
      (isAt .finish rest = true ∨ ∀ l ∈ d.lines, l.newline.isSome = true) := by
  cases h with
  | @intro hash e us vs ws rest names parameters lines body hhash hus hvs he hlines hne hbody =>
    obtain ⟨ls, rfl, rfl, hls, hclosed, hlast⟩ := hlines.exists_tokens
    obtain ⟨hkeywords, hguarded, rfl⟩ := readBody_iff.1 hbody
    refine ⟨⟨hash, us, vs, e, ls⟩, by simp [DefinitionTokens.tokens], ?_, ?_, hclosed, hlast⟩
    · simp [DefinitionTokens.template, hus.identifiers (by decide), hvs.identifiers]
    · refine ⟨hhash, ⟨names, hus⟩, ⟨parameters, hvs⟩, he, by simpa using hne, hls,
        (keywords_map_line ls).1 hkeywords, fun l hl => ?_⟩
      exact l.guarded_line_iff.1 (hguarded _ (List.mem_map_of_mem hl))

/-! ## Documents -/

theorem flatMap_lines_ne_nil (hne : ds ≠ []) (h : ∀ d ∈ ds, d.IsDefinition) :
    ds.flatMap (·.lines) ≠ [] := by
  cases ds with
  | nil => exact absurd rfl hne
  | cons d ds => simp [(h d List.mem_cons_self).nonempty]

/-- Definitions that are followed by others begin with their sign. -/
theorem isAt_hash (hne : ds ≠ []) (h : ∀ d ∈ ds, d.IsDefinition) (rest : List Token) :
    isAt .hash (ds.flatMap DefinitionTokens.tokens ++ rest) = true := by
  cases ds with
  | nil => exact absurd rfl hne
  | cons d ds =>
    simp only [List.flatMap_cons, DefinitionTokens.tokens, List.cons_append]
    exact isAt_of_kind (h d List.mem_cons_self).hash _

theorem document_of_tokens {e : Token} (he : e.kind = .finish) (h : ∀ d ∈ ds, d.IsDefinition)
    (hclosed : ∀ l ∈ (ds.flatMap (·.lines)).dropLast, l.newline.isSome = true) :
    Document label (ds.flatMap DefinitionTokens.tokens ++ [e])
      (ds.map (DefinitionTokens.template label)) := by
  induction ds with
  | nil => exact .done (isAt_of_kind he _)
  | cons d ds ih =>
    have hds : ∀ d' ∈ ds, d'.IsDefinition := fun d' hd' => h d' (List.mem_cons_of_mem _ hd')
    rw [List.flatMap_cons, List.append_assoc, List.map_cons]
    rw [List.flatMap_cons] at hclosed
    by_cases hnil : ds = []
    · subst hnil
      have hd : Definition label (d.tokens ++ [e]) (d.template label) [e] :=
        definition_of_tokens (h d List.mem_cons_self) (by simpa using hclosed)
          (.inl (isAt_of_kind he _)) (not_isAt_of_kind he (by decide) _)
      exact .cons hd (ih hds (by simp))
    · rw [List.dropLast_append_of_ne_nil (flatMap_lines_ne_nil hnil hds)] at hclosed
      have hall : ∀ l ∈ d.lines, l.newline.isSome = true := fun l hl =>
        hclosed l (List.mem_append_left _ hl)
      have hd : Definition label _ (d.template label) _ :=
        definition_of_tokens (h d List.mem_cons_self)
          (fun l hl => hall l (List.mem_of_mem_dropLast hl)) (.inr hall)
          (isAt_of_isAt (isAt_hash hnil hds [e]) (by decide))
      exact .cons hd (ih hds fun l hl => hclosed l (List.mem_append_right _ hl))

/-- A document of the grammar is made of the tokens of definitions. -/
theorem Document.exists_tokens {templates : List Template} (h : Document label ts templates) :
    ∃ (ds : List DefinitionTokens) (rest : List Token),
      ts = ds.flatMap DefinitionTokens.tokens ++ rest ∧ isAt .finish rest = true ∧
      templates = ds.map (DefinitionTokens.template label) ∧ (∀ d ∈ ds, d.IsDefinition) ∧
      ∀ l ∈ (ds.flatMap (·.lines)).dropLast, l.newline.isSome = true := by
  induction h with
  | @done ts hfinish => exact ⟨[], ts, rfl, hfinish, rfl, by simp, by simp⟩
  | @cons ts rest t templates hd _ ih =>
    obtain ⟨d, rfl, rfl, hdefinition, hlines, hlast⟩ := hd.exists_tokens
    obtain ⟨ds, rest', rfl, hfinish, rfl, hds, hclosed⟩ := ih
    refine ⟨d :: ds, rest', by simp, hfinish, rfl, by simpa [hdefinition] using hds, ?_⟩
    rw [List.flatMap_cons]
    by_cases hnil : ds = []
    · subst hnil
      simpa using hlines
    · have hall : ∀ l ∈ d.lines, l.newline.isSome = true := by
        rcases hlast with hat | hall
        · have := isAt_of_isAt (isAt_hash hnil hds rest') (show TokenKind.hash ≠ .finish by decide)
          rw [hat] at this
          cases this
        · exact hall
      rw [List.dropLast_append_of_ne_nil (flatMap_lines_ne_nil hnil hds)]
      intro l hl
      rcases List.mem_append.1 hl with hl | hl
      · exact hall l hl
      · exact hclosed l hl

/-! ## The end -/

theorem Marked.kind_ne_finish {mark : TokenKind} {names : List Text} (hmark : mark ≠ .finish)
    (h : Marked mark ts names) : ∀ t ∈ ts, t.kind ≠ .finish := by
  induction h with
  | nil => simp
  | cons hm hi _ ih => simpa [hm, hi, hmark] using ih

theorem Listed.kind_ne_finish {mark : TokenKind} {names : List Text} (hmark : mark ≠ .finish)
    (h : Listed mark ts names) : ∀ t ∈ ts, t.kind ≠ .finish := by
  cases h with
  | intro hi hts => simpa [hi] using hts.kind_ne_finish hmark

theorem Parameters.kind_ne_finish {names : List Text} (h : Parameters ts names) :
    ∀ t ∈ ts, t.kind ≠ .finish := by
  cases h with
  | absent => simp
  | empty ho hc => simp [ho, hc]
  | given ho hts hc =>
    intro t ht
    rcases List.mem_cons.1 ht with rfl | ht
    · simp [ho]
    · rcases List.mem_append.1 ht with ht | ht
      · exact hts.kind_ne_finish (by decide) t ht
      · rw [List.mem_singleton.1 ht, hc]
        decide

theorem kind_ne_finish_of_isLine {l : LineTokens} (h : l.IsLine) :
    ∀ t ∈ l.tokens, t.kind ≠ .finish := by
  intro t ht
  simp only [LineTokens.tokens, List.mem_cons, List.mem_append, Option.mem_toList] at ht
  rcases ht with rfl | ht | ht
  · simp [h.dash]
  · exact (h.inside t ht).2
  · simp [h.newline t ht]

/-- A definition does not hold the end of the document. -/
theorem kind_ne_finish_of_isDefinition (h : d.IsDefinition) : ∀ t ∈ d.tokens, t.kind ≠ .finish := by
  obtain ⟨names, hnames⟩ := h.name
  obtain ⟨parameters, hparameters⟩ := h.parameters
  intro t ht
  simp only [DefinitionTokens.tokens, List.mem_cons, List.mem_append, List.mem_flatMap] at ht
  rcases ht with rfl | ht | ht | rfl | ⟨l, hl, ht⟩
  · simp [h.hash]
  · exact hnames.kind_ne_finish (by decide) t ht
  · exact hparameters.kind_ne_finish t ht
  · simp [h.newline]
  · exact kind_ne_finish_of_isLine (h.lines l hl) t ht

/-- Tokens that end once, at the end. -/
def Ended (ts : List Token) : Prop :=
  ∃ us e, ts = us ++ [e] ∧ e.kind = .finish ∧ ∀ u ∈ us, u.kind ≠ .finish

theorem Ended.drop {us : List Token} (h : Ended (us ++ rest)) (hus : ∀ t ∈ us, t.kind ≠ .finish) :
    Ended rest := by
  obtain ⟨vs, e, heq, he, hvs⟩ := h
  rcases List.append_eq_append_iff.1 heq with ⟨ws, rfl, rfl⟩ | ⟨ws, rfl, hws⟩
  · exact ⟨ws, e, rfl, he, fun u hu => hvs u (List.mem_append_right _ hu)⟩
  · cases ws with
    | nil => exact ⟨[], e, by simpa using hws.symm, he, by simp⟩
    | cons w ws =>
      obtain ⟨rfl, -⟩ := List.cons.inj hws
      exact absurd he (hus e (by simp))

theorem Ended.eq_singleton (h : Ended ts) (hat : isAt .finish ts = true) :
    ∃ e, e.kind = .finish ∧ ts = [e] := by
  obtain ⟨us, e, rfl, he, hus⟩ := h
  cases us with
  | nil => exact ⟨e, he, rfl⟩
  | cons u us => exact absurd (kind_of_isAt hat) (hus u List.mem_cons_self)

/-- **Documents of the grammar have the shape of documents**, and denote the templates of their
definitions. -/
theorem document_iff {templates : List Template} (hended : Ended ts) :
    Document label ts templates ↔
      ∃ ds, Shape ds ts ∧ templates = ds.map (DefinitionTokens.template label) := by
  constructor
  · intro h
    obtain ⟨ds, rest, rfl, hfinish, rfl, hds, hclosed⟩ := h.exists_tokens
    have hrest : Ended rest := by
      refine hended.drop fun t ht => ?_
      obtain ⟨d, hd, ht⟩ := List.mem_flatMap.1 ht
      exact kind_ne_finish_of_isDefinition (hds d hd) t ht
    obtain ⟨e, he, rfl⟩ := hrest.eq_singleton hfinish
    exact ⟨ds, ⟨hds, hclosed, e, he, rfl⟩, rfl⟩
  · rintro ⟨ds, ⟨hds, hclosed, e, he, rfl⟩, rfl⟩
    exact document_of_tokens he hds hclosed

end Grammar

end Phrasebook
