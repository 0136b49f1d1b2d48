import Phrasebook.Proofs.Document.Rejection

/-!
# Lines counted otherwise

What is told about a document when its lines are counted in another way, for instance from another
line on.  Kinds, letters, columns and messages stay, and only lines change: tokens with other lines
are read as the same templates with other lines, or rejected in the same way.

* `Token.relined`, `Template.relined`, `Failure.relined`: the same with other lines;
* `Recounts`: a reader of tokens with other lines;
* `Template.recounts_readAll`, `Template.readScan_relined`: the reader of documents;
* `Token.scanFrom_lowered`: a text that begins some lines further down.
-/

namespace Phrasebook

/-! ## The same with other lines -/

section

variable (g : Nat → Nat)

def Position.relined (p : Position) : Position := { p with line := g p.line }

def Token.relined (t : Token) : Token := { t with position := t.position.relined g }

def ScanFault.relined (f : ScanFault) : ScanFault := { f with position := f.position.relined g }

def DefinitionFault.relined (f : DefinitionFault) : DefinitionFault :=
  { f with position := f.position.relined g }

def BodyLine.relined (l : BodyLine) : BodyLine :=
  ⟨l.dash.relined g, l.keyword.map fun (k, p) => (k, p.relined g), l.content.map (Token.relined g)⟩

def Fragment.relined (f : Fragment) : Fragment := { f with position := f.position.relined g }

def Alternative.relined (a : Alternative) : Alternative :=
  ⟨a.fragments.map (Fragment.relined g), g a.line⟩

def Rule.relined (r : Rule) : Rule :=
  { r with body := r.body.map (List.map (Alternative.relined g)), line := g r.line }

def Body.relined : Body → Body
  | .normal alternatives => .normal (alternatives.map (Alternative.relined g))
  | .conditional rules => .conditional (rules.map (Rule.relined g))

def Template.relined (t : Template) : Template :=
  { t with body := t.body.relined g, line := g t.line }

/-- Lines of a document are no negative numbers, though errors could tell such. -/
def TemplateError.relined (e : TemplateError) : TemplateError :=
  { e with location := { e.location with line := e.location.line.map fun l => (g l.toNat : Nat) } }

def Failure.relined : Failure → Failure
  | .template e => .template (e.relined g)
  | f => f

/-- The tokens or the fault of a scan with other lines. -/
def relinedScan (x : Except ScanFault (List Token)) : Except ScanFault (List Token) :=
  (x.map (List.map (Token.relined g))).mapError (ScanFault.relined g)

/-- The templates or the failure of a document with other lines. -/
def relinedRead (x : Except Failure (List Template)) : Except Failure (List Template) :=
  (x.map (List.map (Template.relined g))).mapError (Failure.relined g)

end

section

variable {g h : Nat → Nat}

theorem ScanFault.toFailure_relined (f : ScanFault) (path : Text) :
    (f.relined g).toFailure path = (f.toFailure path).relined g := by
  obtain ⟨cause, position⟩ := f
  cases cause <;> rfl

theorem relinedScan_relinedScan (x : Except ScanFault (List Token)) :
    relinedScan g (relinedScan h x) = relinedScan (g ∘ h) x := by
  cases x with
  | error f => rfl
  | ok tokens =>
    refine congrArg Except.ok ?_
    rw [List.map_map]
    rfl

end

/-! ## Readers -/

/-- A reader of tokens with other lines gives what the reader of the tokens gives, with other
lines. -/
def Recounts {α β : Type} (g : Nat → Nat) (renew : α → β) (x : Except DefinitionFault α)
    (x' : Except DefinitionFault β) : Prop :=
  x' = (x.map renew).mapError (DefinitionFault.relined g)

namespace Recounts

variable {α β γ δ : Type} {g : Nat → Nat} {renew : α → β} {x : Except DefinitionFault α}
  {x' : Except DefinitionFault β}

theorem ok (a : α) : Recounts g renew (.ok a) (.ok (renew a)) := rfl

theorem error (f : DefinitionFault) : Recounts g renew (.error f) (.error (f.relined g)) := rfl

theorem bind {renew' : γ → δ} {k : α → Except DefinitionFault γ} {k' : β → Except DefinitionFault δ}
    (hx : Recounts g renew x x') (hk : ∀ a, x = .ok a → Recounts g renew' (k a) (k' (renew a))) :
    Recounts g renew' (x >>= k) (x' >>= k') := by
  cases x with
  | error f =>
    rw [hx]
    exact rfl
  | ok a =>
    rw [hx]
    exact hk a rfl

end Recounts

namespace Template

open Grammar

variable {label : Text} {ts rest : List Token} {g : Nat → Nat}

/-- Tokens with other lines. -/
abbrev relinedAll (g : Nat → Nat) (ts : List Token) : List Token := ts.map (Token.relined g)

theorem isAt_relined (g : Nat → Nat) (k : TokenKind) (ts : List Token) :
    isAt k (relinedAll g ts) = isAt k ts := by
  cases ts <;> rfl

/-! ## Declarations -/

theorem recounts_expect (h : ts ≠ []) (k : TokenKind) :
    Recounts g (Prod.map (Token.relined g) (relinedAll g)) (expect k ts)
      (expect k (relinedAll g ts)) := by
  cases ts with
  | nil => exact absurd rfl h
  | cons t ts =>
    unfold expect
    rw [isAt_relined]
    split
    · exact .ok (t, ts)
    · exact .error ⟨.unexpected k t.kind, t.position⟩

theorem recounts_readMore (mark : TokenKind) (hmark : mark ≠ .finish) (ts : List Token)
    (h : Ended ts) :
    Recounts g (Prod.map id (relinedAll g)) (readMore mark ts) (readMore mark (relinedAll g ts)) := by
  fun_induction readMore mark ts with
  | case1 t ht u rest hu ih =>
    have hts : Ended (u :: rest) := h.tail (ht ▸ hmark)
    have hmore := ih (hts.tail (by simp [hu]))
    rw [relinedAll, List.map_cons, List.map_cons, readMore,
      if_pos (show (t.relined g).kind = mark from ht),
      if_pos (show (u.relined g).kind = .identifier from hu)]
    exact hmore.bind fun found _ => .ok (u.value :: found.1, found.2)
  | case2 t ht u rest hu =>
    rw [relinedAll, List.map_cons, List.map_cons, readMore,
      if_pos (show (t.relined g).kind = mark from ht),
      if_neg (show ¬ (u.relined g).kind = .identifier from hu)]
    exact .error ⟨.unexpected .identifier u.kind, u.position⟩
  | case3 t ht => exact absurd rfl (h.tail (ht ▸ hmark)).ne_nil
  | case4 t rest ht =>
    rw [relinedAll, List.map_cons, readMore.eq_def]
    dsimp only
    rw [if_neg (show ¬ (t.relined g).kind = mark from ht)]
    exact .ok ([], t :: rest)
  | case5 => exact .ok ([], [])

theorem recounts_readName (h : Ended ts) :
    Recounts g (Prod.map id (relinedAll g)) (readName ts) (readName (relinedAll g ts)) := by
  unfold readName
  refine (recounts_expect h.ne_nil _).bind fun found hfound => ?_
  obtain ⟨first, after⟩ := found
  obtain ⟨rfl, hkind⟩ := expect_ok (by decide) hfound
  have hmore := recounts_readMore (g := g) .dot (by decide) after (h.tail (by simp [hkind]))
  exact hmore.bind fun found _ => .ok (Text.join "." (first.value :: found.1), found.2)

/-- What follows the names between parentheses. -/
theorem recounts_close (names : List Text) (h : rest ≠ []) :
    Recounts g (Prod.map id (relinedAll g))
      ((expect .closeParenthesis rest).bind fun found => .ok (names, found.2))
      ((expect .closeParenthesis (relinedAll g rest)).bind fun found => .ok (names, found.2)) :=
  (recounts_expect h _).bind fun found _ => .ok (names, found.2)

theorem recounts_readParameters (h : Ended ts) :
    Recounts g (Prod.map id (relinedAll g)) (readParameters ts)
      (readParameters (relinedAll g ts)) := by
  unfold readParameters
  rw [isAt_relined]
  by_cases hopen : isAt .openParenthesis ts = true
  · rw [if_pos hopen, if_pos hopen]
    cases ts with
    | nil => exact absurd rfl h.ne_nil
    | cons o ts =>
      have hts : Ended ts := h.tail (by simp [kind_of_isAt hopen])
      simp only [relinedAll, List.map_cons, List.drop_succ_cons, List.drop_zero]
      rw [← relinedAll, isAt_relined]
      by_cases hident : isAt .identifier ts = true
      · rw [if_pos hident, if_pos hident]
        cases ts with
        | nil => exact absurd rfl hts.ne_nil
        | cons i ts =>
          have hrest : Ended ts := hts.tail (by simp [kind_of_isAt hident])
          simp only [relinedAll, List.map_cons, List.drop_succ_cons, List.drop_zero]
          have hmore := recounts_readMore (g := g) .comma (by decide) ts hrest
          refine hmore.bind fun found hfound => ?_
          obtain ⟨us, rfl, hus⟩ := readMore_ok ts hfound
          have hafter : Ended found.2 := hrest.drop (hus.kind_ne_finish (by decide))
          exact recounts_close _ hafter.ne_nil
      · rw [if_neg hident, if_neg hident]
        exact recounts_close _ hts.ne_nil
  · rw [if_neg hopen, if_neg hopen]
    exact .ok ([], ts)

theorem recounts_readLineEnd (h : Ended ts) :
    Recounts g (relinedAll g) (readLineEnd ts) (readLineEnd (relinedAll g ts)) := by
  unfold readLineEnd
  rw [isAt_relined]
  split
  · exact .ok ts
  · rw [recounts_expect (g := g) h.ne_nil .newline]
    cases expect .newline ts <;> rfl

/-! ## Bodies -/

theorem readContent_relined (ts : List Token) :
    readContent (relinedAll g ts) =
      Prod.map (relinedAll g) (relinedAll g) (readContent ts) := by
  have hkind : (fun t : Token => !t.kind.endsLine) ∘ Token.relined g = fun t => !t.kind.endsLine := rfl
  simp only [readContent, relinedAll, List.dropWhile_map, List.takeWhile_map, hkind]
  rw [← relinedAll, isAt_relined]
  split <;> simp [relinedAll]

theorem readLine_relined (dash : Token) (ts : List Token) :
    readLine (dash.relined g) (relinedAll g ts) =
      Prod.map (BodyLine.relined g) (relinedAll g) (readLine dash ts) := by
  cases ts with
  | nil => rfl
  | cons t ts =>
    obtain ⟨kind, value, position⟩ := t
    have hrest := readContent_relined (g := g) ts
    have hall := readContent_relined (g := g) (⟨kind, value, position⟩ :: ts)
    cases kind with
    | keyword k =>
      simp only [relinedAll, List.map_cons, Token.relined, readLine] at hrest ⊢
      rw [hrest]
      rfl
    | _ =>
      simp only [relinedAll, List.map_cons, Token.relined, readLine] at hall ⊢
      rw [hall]
      rfl

theorem readLines_relined (ts : List Token) :
    readLines (relinedAll g ts) =
      Prod.map (List.map (BodyLine.relined g)) (relinedAll g) (readLines ts) := by
  fun_induction readLines ts with
  | case1 => rw [relinedAll, List.map_nil, readLines]; rfl
  | case2 t rest hdash line more ih =>
    rw [relinedAll, List.map_cons, readLines, if_pos (show (t.relined g).kind = .dash from hdash)]
    have hline : readLine (t.relined g) (rest.map (Token.relined g)) =
        Prod.map (BodyLine.relined g) (relinedAll g) line := readLine_relined t rest
    simp only [hline, Prod.map_fst, Prod.map_snd]
    rw [ih]
    rfl
  | case3 t rest hdash =>
    rw [relinedAll, List.map_cons, readLines, if_neg (show ¬ (t.relined g).kind = .dash from hdash)]
    rfl

theorem alternative_relined (l : BodyLine) :
    (l.relined g).alternative = l.alternative.relined g := by
  simp only [BodyLine.alternative, BodyLine.relined, Alternative.relined, List.map_map]
  rfl

theorem condition_relined (l : BodyLine) : (l.relined g).condition? = l.condition? := by
  simp only [BodyLine.condition?, BodyLine.relined, List.find?_map, Option.map_map]
  rfl

theorem recounts_readRules (ls : List BodyLine) :
    Recounts g (Prod.map (List.map (Alternative.relined g)) (List.map (Rule.relined g)))
      (readRules ls) (readRules (ls.map (BodyLine.relined g))) := by
  induction ls with
  | nil => exact .ok ([], [])
  | cons l ls ih =>
    rw [List.map_cons, readRules, readRules, condition_relined]
    cases hkeyword : l.keyword with
    | none =>
      have hkeyword' : (l.relined g).keyword = none := by simp [BodyLine.relined, hkeyword]
      rw [hkeyword', alternative_relined]
      exact ih.bind fun found _ => .ok (l.alternative :: found.1, found.2)
    | some head =>
      obtain ⟨k, p⟩ := head
      have hkeyword' : (l.relined g).keyword = some (k, p.relined g) := by
        simp [BodyLine.relined, hkeyword]
      rw [hkeyword']
      dsimp only
      split
      · exact .error ⟨.missingCondition k, p⟩
      · refine ih.bind fun found _ => ?_
        have hbody : ruleBody (found.1.map (Alternative.relined g)) =
            (ruleBody found.1).map (List.map (Alternative.relined g)) := by
          cases found.1 <;> rfl
        show Recounts g _ _ (.ok ([], ⟨k, _, ruleBody (found.1.map (Alternative.relined g)),
          g p.line⟩ :: found.2.map (Rule.relined g)))
        rw [hbody]
        exact .ok ([], ⟨k, _, ruleBody found.1, p.line⟩ :: found.2)

theorem recounts_readBody (name : Text) (ls : List BodyLine) :
    Recounts g (Body.relined g) (readBody name ls)
      (readBody name (ls.map (BodyLine.relined g))) := by
  have hkeyword : (fun l : BodyLine => l.keyword.isSome) ∘ BodyLine.relined g =
      fun l => l.keyword.isSome := by
    funext l
    simp [BodyLine.relined]
  have hhead : ((ls.map (BodyLine.relined g)).head?.bind (·.keyword)).isSome =
      (ls.head?.bind (·.keyword)).isSome := by
    cases ls with
    | nil => rfl
    | cons l ls => exact congrFun hkeyword l
  unfold readBody
  rw [List.find?_map, hkeyword, hhead]
  cases hfind : ls.find? (·.keyword.isSome) with
  | none =>
    have halternative : BodyLine.alternative ∘ BodyLine.relined g =
        Alternative.relined g ∘ BodyLine.alternative := funext alternative_relined
    dsimp only [Option.map_none]
    rw [List.map_map, halternative, ← List.map_map]
    exact .ok (Body.normal (ls.map (·.alternative)))
  | some l =>
    dsimp only [Option.map_some]
    split
    · rw [recounts_readRules (g := g) ls]
      cases readRules ls <;> rfl
    · exact .error ⟨.mixedBody name, l.dash.position⟩

/-! ## Definitions -/

theorem recounts_readDefinition (hash : Token) (h : Ended rest) :
    Recounts g (Prod.map (Template.relined g) (relinedAll g)) (readDefinition label hash rest)
      (readDefinition label (hash.relined g) (relinedAll g rest)) := by
  unfold readDefinition
  refine (recounts_readName h).bind fun found hname => ?_
  obtain ⟨name, ts₁⟩ := found
  obtain ⟨us, names, rfl, hus, -⟩ := readName_ok hname
  have h₁ : Ended ts₁ := h.drop (hus.kind_ne_finish (by decide))
  refine (recounts_readParameters h₁).bind fun found hparameters => ?_
  obtain ⟨parameters, ts₂⟩ := found
  obtain ⟨vs, rfl, hvs⟩ := readParameters_ok hparameters
  have h₂ : Ended ts₂ := h₁.drop hvs.kind_ne_finish
  refine (recounts_readLineEnd h₂).bind fun ts₃ _ => ?_
  have hlines := readLines_relined (g := g) ts₃
  rw [hlines]
  dsimp only [id, Prod.map_fst, Prod.map_snd]
  by_cases hnil : (readLines ts₃).1 = []
  · rw [if_pos hnil, if_pos (by rw [hnil]; rfl)]
    exact .error ⟨.emptyBody name, hash.position⟩
  · rw [if_neg hnil, if_neg (by simpa using hnil)]
    refine (recounts_readBody name _).bind fun body _ => ?_
    exact .ok ((⟨name, parameters, body, label, hash.position.line⟩ : Template), (readLines ts₃).2)

/-! ## Documents -/

theorem recounts_readFrom (rounds : Nat) (h : Ended ts) :
    Recounts g (List.map (Template.relined g)) (readFrom label rounds ts)
      (readFrom label rounds (relinedAll g ts)) := by
  induction rounds generalizing ts with
  | zero => exact .ok []
  | succ rounds ih =>
    rw [readFrom, readFrom, isAt_relined, isAt_relined]
    split
    · exact .ok []
    · split
      · cases ts with
        | nil => exact absurd rfl h.ne_nil
        | cons t ts => exact .error ⟨.orphanBody, t.position⟩
      · refine (recounts_expect h.ne_nil _).bind fun found hexpect => ?_
        obtain ⟨hash, after⟩ := found
        obtain ⟨rfl, hhash⟩ := expect_ok (by decide) hexpect
        have hafter : Ended after := h.tail (by simp [hhash])
        refine (recounts_readDefinition hash hafter).bind fun found hfound => ?_
        obtain ⟨t, rest⟩ := found
        obtain ⟨hrest, -⟩ := ended_of_definition (readDefinition_ok hhash hfound) h
        exact (ih hrest).bind fun more _ => .ok (t :: more)

/-- **Tokens with other lines are read as before**, but for lines. -/
theorem recounts_readAll (h : Ended ts) :
    Recounts g (List.map (Template.relined g)) (readAll label ts)
      (readAll label (relinedAll g ts)) := by
  have hread : Recounts g (List.map (Template.relined g)) (readFrom label ts.length ts)
      (readFrom label ts.length (relinedAll g ts)) := recounts_readFrom ts.length h
  rwa [readAll, readAll, relinedAll, List.length_map]

/-- The templates that the tokens of a scan make, with failures as errors. -/
def readScan (label : Text) : Except ScanFault (List Token) → Except Failure (List Template)
  | .error f => .error (f.toFailure label)
  | .ok tokens => (readAll label tokens).mapError fun f => .template (f.toError label)

theorem readDocument_eq_readScan (label text : Text) :
    readDocument label text = readScan label (Token.scan text) := by
  rw [readDocument]
  cases Token.scan text with
  | error f => rfl
  | ok tokens =>
    cases hread : readAll label tokens <;> simp only [readScan, hread] <;> rfl

theorem readScan_relined {x : Except ScanFault (List Token)} (h : ∀ ts, x = .ok ts → Ended ts) :
    readScan label (relinedScan g x) = relinedRead g (readScan label x) := by
  cases x with
  | error f => exact congrArg Except.error (f.toFailure_relined label)
  | ok ts =>
    have hread : readAll label (ts.map (Token.relined g)) = _ := recounts_readAll (h ts rfl)
    show (readAll label (ts.map (Token.relined g))).mapError _ = _
    rw [hread, readScan]
    cases readAll label ts <;> rfl

end Template

end Phrasebook
