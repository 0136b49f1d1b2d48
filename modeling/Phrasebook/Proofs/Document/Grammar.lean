import Phrasebook.Document.Definition

/-!
# The grammar of documents

What token lists the reader accepts, and what they denote, told without the reader.  Each relation
holds between tokens, what they denote and, for the parts that are read up to something else, the
tokens that follow.

* `Grammar.Marked`, `Grammar.Listed`, `Grammar.Parameters`: declarations;
* `Grammar.Content`, `Grammar.LineEnd`, `Grammar.Lines`: body lines;
* `Grammar.Definition`, `Grammar.Document`: templates and documents;
* `Template.readAll_iff`: the reader accepts exactly the documents of the grammar.
-/

namespace Phrasebook

namespace Grammar

open Template

/-! ## The relations -/

/-- Identifiers with a mark in front of each, and their letters. -/
inductive Marked (mark : TokenKind) : List Token → List Text → Prop
  | nil : Marked mark [] []
  | cons {m i : Token} {ts : List Token} {names : List Text} :
      m.kind = mark → i.kind = .identifier → Marked mark ts names →
        Marked mark (m :: i :: ts) (i.value :: names)

/-- Identifiers with a mark between neighbours, and their letters. -/
inductive Listed (mark : TokenKind) : List Token → List Text → Prop
  | intro {i : Token} {ts : List Token} {names : List Text} :
      i.kind = .identifier → Marked mark ts names → Listed mark (i :: ts) (i.value :: names)

/-- The parameters of a declaration. -/
inductive Parameters : List Token → List Text → Prop
  | absent : Parameters [] []
  | empty {o c : Token} :
      o.kind = .openParenthesis → c.kind = .closeParenthesis → Parameters [o, c] []
  | given {o c : Token} {ts : List Token} {names : List Text} :
      o.kind = .openParenthesis → Listed .comma ts names → c.kind = .closeParenthesis →
        Parameters (o :: (ts ++ [c])) names

/-- The tokens between a dash and the end of its line, and the body line that they make. -/
inductive Content (dash : Token) : List Token → BodyLine → Prop
  | plain {ts : List Token} :
      (∀ t ∈ ts, t.kind.endsLine = false) → (∀ t ∈ ts.head?, t.kind.isKeyword = false) →
        Content dash ts ⟨dash, none, ts⟩
  | headed {k : Keyword} {v : Text} {p : Position} {ts : List Token} :
      (∀ t ∈ ts, t.kind.endsLine = false) →
        Content dash (⟨.keyword k, v, p⟩ :: ts) ⟨dash, some (k, p), ts⟩

/-- The end of a line, which the end of the document may replace, and the tokens that follow. -/
inductive LineEnd : List Token → List Token → Prop
  | newline {e : Token} {rest : List Token} : e.kind = .newline → LineEnd (e :: rest) rest
  | finish {rest : List Token} : isAt .finish rest = true → LineEnd rest rest

/-- Body lines, and the tokens that follow. -/
inductive Lines : List Token → List BodyLine → List Token → Prop
  | done {rest : List Token} : isAt .dash rest = false → Lines rest [] rest
  | cons {dash : Token} {ts us vs rest : List Token} {l : BodyLine} {ls : List BodyLine} :
      dash.kind = .dash → Content dash ts l → LineEnd us vs → Lines vs ls rest →
        Lines (dash :: (ts ++ us)) (l :: ls) rest

/-- A template, and the tokens that follow. -/
inductive Definition (label : Text) : List Token → Template → List Token → Prop
  | intro {hash e : Token} {us vs ws rest : List Token} {names parameters : List Text}
      {lines : List BodyLine} {body : Body} :
      hash.kind = .hash → Listed .dot us names → Parameters vs parameters → e.kind = .newline →
        Lines ws lines rest → lines ≠ [] → readBody (Text.join "." names) lines = .ok body →
          Definition label (hash :: (us ++ (vs ++ e :: ws)))
            ⟨Text.join "." names, parameters, body, label, hash.position.line⟩ rest

/-- The templates of a whole document. -/
inductive Document (label : Text) : List Token → List Template → Prop
  | done {ts : List Token} : isAt .finish ts = true → Document label ts []
  | cons {ts rest : List Token} {t : Template} {templates : List Template} :
      Definition label ts t rest → Document label rest templates → Document label ts (t :: templates)

end Grammar

namespace Template

open Grammar

variable {label : Text} {ts rest : List Token}

/-! ## The next token -/

theorem isAt_of_kind {k : TokenKind} {t : Token} (h : t.kind = k) (ts : List Token) :
    isAt k (t :: ts) = true :=
  decide_eq_true h

theorem kind_of_isAt {k : TokenKind} {t : Token} (h : isAt k (t :: ts) = true) : t.kind = k :=
  of_decide_eq_true h

theorem kind_ne_of_isAt {k : TokenKind} {t : Token} (h : isAt k (t :: ts) = false) : t.kind ≠ k :=
  of_decide_eq_false h

theorem not_isAt_of_kind {k l : TokenKind} {t : Token} (h : t.kind = l) (hne : l ≠ k)
    (ts : List Token) : isAt k (t :: ts) = false :=
  decide_eq_false (h ▸ hne)

/-- A list cannot be at two kinds of tokens. -/
theorem isAt_of_isAt {k l : TokenKind} (h : isAt k ts = true) (hne : k ≠ l) : isAt l ts = false := by
  have hk : (current ts).kind = k := of_decide_eq_true h
  exact decide_eq_false (hk ▸ hne)

theorem expect_ok {k : TokenKind} {t : Token} (hk : k ≠ .finish) (h : expect k ts = .ok (t, rest)) :
    ts = t :: rest ∧ t.kind = k := by
  unfold expect at h
  by_cases hat : isAt k ts = true
  · rw [if_pos hat] at h
    cases h
    cases ts with
    | nil => exact absurd (of_decide_eq_true hat).symm hk
    | cons t ts => exact ⟨rfl, kind_of_isAt hat⟩
  · rw [if_neg hat] at h
    cases h

theorem expect_cons {k : TokenKind} {t : Token} (h : t.kind = k) (ts : List Token) :
    expect k (t :: ts) = .ok (t, ts) := by
  rw [expect, if_pos (isAt_of_kind h ts)]
  rfl

/-! ## Declarations -/

theorem readMore_ok {mark : TokenKind} (ts : List Token) {names : List Text} {rest : List Token}
    (h : readMore mark ts = .ok (names, rest)) :
    ∃ us, ts = us ++ rest ∧ Marked mark us names := by
  match ts with
  | [] =>
    cases h
    exact ⟨[], rfl, .nil⟩
  | t :: ts =>
    unfold readMore at h
    by_cases hmark : t.kind = mark
    · rw [if_pos hmark] at h
      match ts with
      | [] => cases h
      | u :: ts =>
        dsimp only at h
        by_cases hident : u.kind = .identifier
        · rw [if_pos hident] at h
          cases hmore : readMore mark ts with
          | error f =>
            rw [hmore] at h
            cases h
          | ok found =>
            obtain ⟨more, after⟩ := found
            rw [hmore] at h
            cases h
            obtain ⟨us, rfl, hus⟩ := readMore_ok ts hmore
            exact ⟨t :: u :: us, rfl, .cons hmark hident hus⟩
        · rw [if_neg hident] at h
          cases h
    · rw [if_neg hmark] at h
      cases h
      exact ⟨[], rfl, .nil⟩

theorem readMore_append {mark : TokenKind} {us : List Token} {names : List Text}
    (h : Marked mark us names) (hrest : isAt mark rest = false) :
    readMore mark (us ++ rest) = .ok (names, rest) := by
  induction h with
  | nil =>
    cases rest with
    | nil => rfl
    | cons t rest =>
      rw [List.nil_append]
      unfold readMore
      rw [if_neg (kind_ne_of_isAt hrest)]
  | @cons m i us names hm hi _ ih =>
    rw [List.cons_append, List.cons_append]
    unfold readMore
    rw [if_pos hm]
    dsimp only
    rw [if_pos hi, ih]
    rfl

theorem readName_ok {name : Text} (h : readName ts = .ok (name, rest)) :
    ∃ us names, ts = us ++ rest ∧ Listed .dot us names ∧ name = Text.join "." names := by
  unfold readName at h
  cases hfirst : expect .identifier ts with
  | error f =>
    rw [hfirst] at h
    cases h
  | ok found =>
    obtain ⟨first, after⟩ := found
    rw [hfirst] at h
    obtain ⟨rfl, hkind⟩ := expect_ok (by decide) hfirst
    change (readMore .dot after >>= _) = _ at h
    cases hmore : readMore .dot after with
    | error f =>
      rw [hmore] at h
      cases h
    | ok found =>
      rw [hmore] at h
      cases h
      obtain ⟨us, rfl, hus⟩ := readMore_ok after hmore
      exact ⟨first :: us, first.value :: found.1, rfl, .intro hkind hus, rfl⟩

theorem readName_append {us : List Token} {names : List Text} (h : Listed .dot us names)
    (hrest : isAt .dot rest = false) :
    readName (us ++ rest) = .ok (Text.join "." names, rest) := by
  cases h with
  | @intro i us names hi hus =>
    unfold readName
    rw [List.cons_append, expect_cons hi]
    change (readMore .dot (us ++ rest) >>= _) = _
    rw [readMore_append hus hrest]
    rfl

theorem readParameters_ok {names : List Text} (h : readParameters ts = .ok (names, rest)) :
    ∃ us, ts = us ++ rest ∧ Parameters us names := by
  unfold readParameters at h
  by_cases hopen : isAt .openParenthesis ts = true
  · rw [if_pos hopen] at h
    cases ts with
    | nil => cases hopen
    | cons o ts =>
      simp only [List.drop_succ_cons, List.drop_zero] at h
      by_cases hident : isAt .identifier ts = true
      · rw [if_pos hident] at h
        cases ts with
        | nil => cases hident
        | cons i ts =>
          simp only [List.drop_succ_cons, List.drop_zero] at h
          cases hmore : readMore .comma ts with
          | error f =>
            rw [hmore] at h
            cases h
          | ok found =>
            obtain ⟨more, after⟩ := found
            rw [hmore] at h
            change (expect .closeParenthesis after >>= _) = _ at h
            cases hclose : expect .closeParenthesis after with
            | error f =>
              rw [hclose] at h
              cases h
            | ok found =>
              obtain ⟨c, after'⟩ := found
              rw [hclose] at h
              cases h
              obtain ⟨rfl, hkind⟩ := expect_ok (by decide) hclose
              obtain ⟨us, rfl, hus⟩ := readMore_ok ts hmore
              refine ⟨o :: (i :: us ++ [c]), by simp, ?_⟩
              exact .given (kind_of_isAt hopen) (.intro (kind_of_isAt hident) hus) hkind
      · rw [if_neg hident] at h
        change (expect .closeParenthesis ts >>= _) = _ at h
        cases hclose : expect .closeParenthesis ts with
        | error f =>
          rw [hclose] at h
          cases h
        | ok found =>
          obtain ⟨c, after⟩ := found
          rw [hclose] at h
          cases h
          obtain ⟨rfl, hkind⟩ := expect_ok (by decide) hclose
          exact ⟨[o, c], rfl, .empty (kind_of_isAt hopen) hkind⟩
  · rw [if_neg hopen] at h
    cases h
    exact ⟨[], rfl, .absent⟩

theorem readParameters_append {us : List Token} {names : List Text} (h : Parameters us names)
    (hrest : isAt .openParenthesis rest = false) :
    readParameters (us ++ rest) = .ok (names, rest) := by
  unfold readParameters
  cases h with
  | absent =>
    rw [List.nil_append, if_neg (by rw [hrest]; exact Bool.false_ne_true)]
    rfl
  | @empty o c ho hc =>
    rw [List.cons_append, List.cons_append, List.nil_append, if_pos (isAt_of_kind ho _)]
    simp only [List.drop_succ_cons, List.drop_zero]
    rw [if_neg (by rw [not_isAt_of_kind hc (by decide)]; exact Bool.false_ne_true)]
    change (expect .closeParenthesis (c :: rest) >>= _) = _
    rw [expect_cons hc]
    rfl
  | @given o c us names ho hus hc =>
    cases hus with
    | @intro i us names hi hus =>
      rw [List.cons_append, if_pos (isAt_of_kind ho _)]
      simp only [List.cons_append, List.append_assoc, List.nil_append, List.drop_succ_cons,
        List.drop_zero]
      rw [if_pos (isAt_of_kind hi _), readMore_append hus (not_isAt_of_kind hc (by decide) rest)]
      change (expect .closeParenthesis (c :: rest) >>= _) = _
      rw [expect_cons hc]
      rfl

/-! ## Lines -/

theorem readContent_append {us vs : List Token} (hts : ∀ t ∈ ts, t.kind.endsLine = false)
    (hend : LineEnd us vs) : readContent (ts ++ us) = (ts, vs) := by
  have hus : us = [] ∨ ∃ e after, us = e :: after ∧ e.kind.endsLine = true := by
    cases hend with
    | newline he => exact .inr ⟨_, _, rfl, by rw [he]; rfl⟩
    | finish hat =>
      cases us with
      | nil => exact .inl rfl
      | cons e after => exact .inr ⟨e, after, rfl, by rw [kind_of_isAt hat]; rfl⟩
  have htake : (ts ++ us).takeWhile (!·.kind.endsLine) = ts := by
    rw [List.takeWhile_append_of_pos fun t ht => by rw [hts t ht]; rfl]
    rcases hus with rfl | ⟨e, after, rfl, he⟩
    · simp
    · rw [List.takeWhile_cons_of_neg (by simp [he]), List.append_nil]
  have hdrop : (ts ++ us).dropWhile (!·.kind.endsLine) = us := by
    rw [List.dropWhile_append_of_pos fun t ht => by rw [hts t ht]; rfl]
    rcases hus with rfl | ⟨e, after, rfl, he⟩
    · rfl
    · rw [List.dropWhile_cons_of_neg (by simp [he])]
  simp only [readContent, htake, hdrop]
  cases hend with
  | newline he =>
    rw [if_pos (isAt_of_kind he _)]
    rfl
  | finish hat => rw [if_neg (by rw [isAt_of_isAt hat (by decide)]; exact Bool.false_ne_true)]

theorem readContent_split (ts : List Token) :
    ∃ us, ts = (readContent ts).1 ++ us ∧ (∀ t ∈ (readContent ts).1, t.kind.endsLine = false) ∧
      LineEnd us (readContent ts).2 := by
  refine ⟨ts.dropWhile (!·.kind.endsLine), List.takeWhile_append_dropWhile.symm, ?_, ?_⟩
  · intro t ht
    simpa using List.all_eq_true.1 List.all_takeWhile t ht
  · simp only [readContent]
    cases hrest : ts.dropWhile (!·.kind.endsLine) with
    | nil => exact .finish rfl
    | cons e after =>
      have he : e.kind.endsLine = true := by
        have := List.head?_dropWhile_not (fun t : Token => !t.kind.endsLine) ts
        rw [hrest] at this
        simpa using this
      by_cases hnewline : e.kind = .newline
      · rw [if_pos (isAt_of_kind hnewline after)]
        exact .newline hnewline
      · rw [if_neg fun h => hnewline (kind_of_isAt h)]
        refine .finish (isAt_of_kind ?_ after)
        simpa [TokenKind.endsLine, hnewline] using he

theorem readLine_split (dash : Token) (ts : List Token) :
    ∃ us vs, ts = us ++ vs ∧ Content dash us (readLine dash ts).1 ∧
      LineEnd vs (readLine dash ts).2 := by
  unfold readLine
  split
  · rename_i k v p after
    obtain ⟨vs, hsplit, hcontent, hend⟩ := readContent_split after
    refine ⟨⟨.keyword k, v, p⟩ :: (readContent after).1, vs, ?_, .headed hcontent, hend⟩
    rw [List.cons_append, ← hsplit]
  · rename_i hplain
    obtain ⟨vs, hsplit, hcontent, hend⟩ := readContent_split ts
    refine ⟨(readContent ts).1, vs, hsplit, .plain hcontent ?_, hend⟩
    intro t ht
    rw [Option.mem_def, List.head?_eq_some_iff] at ht
    obtain ⟨after, hafter⟩ := ht
    rw [hafter] at hsplit
    obtain ⟨k, v, p⟩ := t
    cases k with
    | keyword k => exact absurd hsplit (hplain k v p (after ++ vs))
    | _ => rfl

theorem readLine_append {dash : Token} {us vs : List Token} {l : BodyLine} (h : Content dash ts l)
    (hend : LineEnd us vs) : readLine dash (ts ++ us) = (l, vs) := by
  cases h with
  | headed hts => simp only [List.cons_append, readLine, readContent_append hts hend]
  | plain hts hhead =>
    have hcontent := readContent_append hts hend
    unfold readLine
    split
    · rename_i k v p after hsplit
      cases ts with
      | nil =>
        rw [List.nil_append] at hsplit
        cases hend with
        | newline he =>
          rw [(List.cons.inj hsplit).1] at he
          cases he
        | finish hat =>
          subst hsplit
          cases hat
      | cons t ts =>
        cases hsplit
        cases hhead _ rfl
    · rw [hcontent]

theorem readLines_split (ts : List Token) : Lines ts (readLines ts).1 (readLines ts).2 := by
  fun_induction readLines ts with
  | case1 => exact .done rfl
  | case2 t rest hdash line more ih =>
    obtain ⟨us, vs, hsplit, hcontent, hend⟩ := readLine_split t rest
    rw [hsplit]
    rw [← hsplit]
    have := Lines.cons hdash hcontent hend ih
    rwa [← hsplit] at this
  | case3 t rest hdash => exact .done (decide_eq_false hdash)

theorem readLines_of_lines {ls : List BodyLine} (h : Lines ts ls rest) : readLines ts = (ls, rest) := by
  induction h with
  | @done rest hdash =>
    cases rest with
    | nil => rw [readLines]
    | cons t rest => rw [readLines, if_neg (kind_ne_of_isAt hdash)]
  | @cons dash ts us vs rest l ls hdash hcontent hend _ ih =>
    rw [readLines, if_pos hdash]
    simp only [readLine_append hcontent hend, ih]

/-! ## Definitions -/

theorem readLineEnd_ok (h : readLineEnd ts = .ok rest) :
    (isAt .finish ts = true ∧ rest = ts) ∨ ∃ e, ts = e :: rest ∧ e.kind = .newline := by
  unfold readLineEnd at h
  by_cases hfinish : isAt .finish ts = true
  · rw [if_pos hfinish] at h
    cases h
    exact .inl ⟨hfinish, rfl⟩
  · rw [if_neg hfinish] at h
    cases hexpect : expect .newline ts with
    | error f =>
      rw [hexpect] at h
      cases h
    | ok found =>
      obtain ⟨e, after⟩ := found
      rw [hexpect] at h
      cases h
      obtain ⟨hsplit, hkind⟩ := expect_ok (by decide) hexpect
      exact .inr ⟨e, hsplit, hkind⟩

theorem readLineEnd_cons {e : Token} (h : e.kind = .newline) (rest : List Token) :
    readLineEnd (e :: rest) = .ok rest := by
  rw [readLineEnd, if_neg (by rw [not_isAt_of_kind h (by decide)]; exact Bool.false_ne_true),
    expect_cons h]
  rfl

/-- A token list at its end has no body lines. -/
theorem readLines_finish (h : isAt .finish ts = true) : readLines ts = ([], ts) :=
  readLines_of_lines (.done (isAt_of_isAt h (by decide)))

theorem readDefinition_ok {hash : Token} {t : Template} (hhash : hash.kind = .hash)
    (h : readDefinition label hash ts = .ok (t, rest)) : Definition label (hash :: ts) t rest := by
  unfold readDefinition at h
  cases hname : readName ts with
  | error f =>
    rw [hname] at h
    cases h
  | ok found =>
    obtain ⟨name, ts₁⟩ := found
    rw [hname] at h
    change (readParameters ts₁ >>= _) = _ at h
    obtain ⟨us, names, rfl, hus, rfl⟩ := readName_ok hname
    cases hparameters : readParameters ts₁ with
    | error f =>
      rw [hparameters] at h
      cases h
    | ok found =>
      obtain ⟨parameters, ts₂⟩ := found
      rw [hparameters] at h
      change (readLineEnd ts₂ >>= _) = _ at h
      obtain ⟨vs, rfl, hvs⟩ := readParameters_ok hparameters
      cases hend : readLineEnd ts₂ with
      | error f =>
        rw [hend] at h
        cases h
      | ok ts₃ =>
        rw [hend] at h
        change (if (readLines ts₃).1 = [] then throw _ else _) = _ at h
        by_cases hlines : (readLines ts₃).1 = []
        · rw [if_pos hlines] at h
          cases h
        · rw [if_neg hlines] at h
          rcases readLineEnd_ok hend with ⟨hfinish, rfl⟩ | ⟨e, rfl, he⟩
          · exact absurd (congrArg Prod.fst (readLines_finish hfinish)) hlines
          · cases hbody : readBody (Text.join "." names) (readLines ts₃).1 with
            | error f =>
              rw [hbody] at h
              cases h
            | ok body =>
              rw [hbody] at h
              cases h
              exact .intro hhash hus hvs he (readLines_split ts₃) hlines hbody

theorem readDefinition_of_definition {t : Template} (h : Definition label ts t rest) :
    ∃ hash after, ts = hash :: after ∧ hash.kind = .hash ∧
      readDefinition label hash after = .ok (t, rest) := by
  cases h with
  | @intro hash e us vs ws rest names parameters lines body hhash hus hvs he hlines hne hbody =>
    refine ⟨hash, _, rfl, hhash, ?_⟩
    have hdot : isAt .dot (vs ++ e :: ws) = false := by
      cases hvs with
      | absent => exact not_isAt_of_kind he (by decide) ws
      | empty ho _ => exact not_isAt_of_kind ho (by decide) _
      | given ho _ _ => exact not_isAt_of_kind ho (by decide) _
    unfold readDefinition
    rw [readName_append hus hdot]
    change (readParameters (vs ++ e :: ws) >>= _) = _
    rw [readParameters_append hvs (not_isAt_of_kind he (by decide) ws)]
    change (readLineEnd (e :: ws) >>= _) = _
    rw [readLineEnd_cons he]
    change (if (readLines ws).1 = [] then throw _ else _) = _
    rw [readLines_of_lines hlines, if_neg hne]
    change (readBody (Text.join "." names) lines >>= _) = _
    rw [hbody]
    rfl

theorem length_le_of_lines {ls : List BodyLine} (h : Lines ts ls rest) : rest.length ≤ ts.length := by
  have hle := length_readLines_le ts
  rwa [readLines_of_lines h] at hle

theorem length_lt_of_definition {t : Template} (h : Definition label ts t rest) :
    rest.length < ts.length := by
  cases h with
  | intro _ _ _ _ hlines _ _ =>
    have := length_le_of_lines hlines
    simp only [List.length_cons, List.length_append]
    omega

/-! ## Documents -/

theorem readFrom_ok {rounds : Nat} {templates : List Template} (hrounds : ts.length ≤ rounds)
    (h : readFrom label rounds ts = .ok templates) : Document label ts templates := by
  induction rounds generalizing ts templates with
  | zero =>
    cases h
    rw [List.length_eq_zero_iff.1 (Nat.le_zero.1 hrounds)]
    exact .done rfl
  | succ rounds ih =>
    rw [readFrom] at h
    by_cases hfinish : isAt .finish ts = true
    · rw [if_pos hfinish] at h
      cases h
      exact .done hfinish
    · rw [if_neg hfinish] at h
      by_cases hdash : isAt .dash ts = true
      · rw [if_pos hdash] at h
        cases h
      · rw [if_neg hdash] at h
        cases hexpect : expect .hash ts with
        | error f =>
          rw [hexpect] at h
          cases h
        | ok found =>
          obtain ⟨hash, after⟩ := found
          rw [hexpect] at h
          obtain ⟨rfl, hhash⟩ := expect_ok (by decide) hexpect
          change (readDefinition label hash after >>= _) = _ at h
          cases hdefinition : readDefinition label hash after with
          | error f =>
            rw [hdefinition] at h
            cases h
          | ok found =>
            obtain ⟨t, rest⟩ := found
            rw [hdefinition] at h
            change (readFrom label rounds rest >>= _) = _ at h
            have hd := readDefinition_ok hhash hdefinition
            have hlt := length_lt_of_definition hd
            cases hrest : readFrom label rounds rest with
            | error f =>
              rw [hrest] at h
              cases h
            | ok more =>
              rw [hrest] at h
              cases h
              exact .cons hd (ih (by omega) hrest)

theorem readFrom_cons {t : Template} (h : Definition label ts t rest) (rounds : Nat) :
    readFrom label (rounds + 1) ts = (readFrom label rounds rest).map (t :: ·) := by
  obtain ⟨hash, after, rfl, hhash, hread⟩ := readDefinition_of_definition h
  rw [readFrom, if_neg (by rw [not_isAt_of_kind hhash (by decide)]; exact Bool.false_ne_true),
    if_neg (by rw [not_isAt_of_kind hhash (by decide)]; exact Bool.false_ne_true),
    expect_cons hhash]
  change (readDefinition label hash after >>= _) = _
  rw [hread]
  cases hrest : readFrom label rounds rest <;>
  · change (readFrom label rounds rest >>= _) = _
    rw [hrest]
    rfl

theorem readFrom_of_document {templates : List Template} (h : Document label ts templates) :
    ∀ rounds, ts.length ≤ rounds → readFrom label rounds ts = .ok templates := by
  induction h with
  | done hfinish =>
    intro rounds _
    cases rounds with
    | zero => rfl
    | succ rounds => rw [readFrom, if_pos hfinish]
  | @cons ts rest t templates hd _ ih =>
    intro rounds hrounds
    have hlt := length_lt_of_definition hd
    cases rounds with
    | zero => omega
    | succ rounds =>
      rw [readFrom_cons hd, ih rounds (by omega)]
      rfl

/-- **The reader accepts exactly the documents of the grammar**, and reads what they denote. -/
theorem readAll_iff {templates : List Template} :
    readAll label ts = .ok templates ↔ Document label ts templates := by
  constructor
  · exact readFrom_ok (Nat.le_refl _)
  · intro h
    exact readFrom_of_document h _ (Nat.le_refl _)

end Template

end Phrasebook
