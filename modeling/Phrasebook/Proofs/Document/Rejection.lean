import Phrasebook.Proofs.Document.Shape

/-!
# Documents that are read and documents that are rejected

A document whose tokens can be told is read if they have the shape of a document, and what is read
is what they denote.  Otherwise it is rejected with an error at one of its tokens.

* `Blames`: a reader that fails does so at one of some tokens;
* `Template.blames_readAll`: the reader of documents does;
* `Template.readDocument_shape`: both cases for a whole document.
-/

namespace Phrasebook

/-- A reader that fails tells the place of one of the tokens. -/
def Blames {α : Type} (ts : List Token) (x : Except DefinitionFault α) : Prop :=
  ∀ f, x = .error f → ∃ t ∈ ts, t.position = f.position

namespace Blames

variable {α β : Type} {ts us : List Token} {x : Except DefinitionFault α}

theorem ok (a : α) : Blames ts (.ok a) := by
  intro f h
  cases h

theorem error {t : Token} (ht : t ∈ ts) (cause : DefinitionCause) :
    Blames ts (.error ⟨cause, t.position⟩ : Except DefinitionFault α) := by
  intro f h
  cases h
  exact ⟨t, ht, rfl⟩

theorem bind {g : α → Except DefinitionFault β} (hx : Blames ts x)
    (hg : ∀ a, x = .ok a → Blames ts (g a)) : Blames ts (x >>= g) := by
  cases x with
  | error f =>
    intro f' h
    cases h
    exact hx f rfl
  | ok a => exact hg a rfl

theorem map {g : α → β} (hx : Blames ts x) : Blames ts (x.map g) := by
  cases x with
  | error f =>
    intro f' h
    cases h
    exact hx f rfl
  | ok a => exact .ok (g a)

/-- What is at some of the tokens is at one of them all. -/
theorem mono (hx : Blames us x) (h : us ⊆ ts) : Blames ts x := by
  intro f hf
  obtain ⟨t, ht, hposition⟩ := hx f hf
  exact ⟨t, h ht, hposition⟩

end Blames

namespace Grammar

variable {ts rest : List Token} {t : Token}

theorem subset_cons_cons (t u : Token) (ts : List Token) : ts ⊆ t :: u :: ts :=
  List.Subset.trans (List.subset_cons_self _ _) (List.subset_cons_self _ _)

theorem Ended.ne_nil (h : Ended ts) : ts ≠ [] := by
  obtain ⟨us, e, rfl, -, -⟩ := h
  simp

/-- Behind a token that is not the end there is more. -/
theorem Ended.tail (h : Ended (t :: ts)) (ht : t.kind ≠ .finish) : Ended ts := by
  rw [← List.singleton_append] at h
  exact h.drop (by simpa using ht)

end Grammar

namespace Template

open Grammar

variable {label : Text} {ts rest : List Token}

/-! ## Declarations -/

theorem blames_expect (h : Ended ts) (k : TokenKind) : Blames ts (expect k ts) := by
  unfold expect
  split
  · exact .ok _
  · cases ts with
    | nil => exact absurd rfl h.ne_nil
    | cons t ts => exact .error List.mem_cons_self _

theorem blames_readMore (mark : TokenKind) (hmark : mark ≠ .finish) (ts : List Token)
    (h : Ended ts) : Blames ts (readMore mark ts) := by
  fun_induction readMore mark ts with
  | case1 t ht u rest hu ih =>
    have hts : Ended (u :: rest) := h.tail (ht ▸ hmark)
    have hmore := ih (hts.tail (by simp [hu]))
    exact (hmore.mono (subset_cons_cons t u rest)).bind fun _ _ => .ok _
  | case2 t ht u rest hu => exact .error (List.mem_cons_of_mem _ List.mem_cons_self) _
  | case3 t ht => exact absurd rfl (h.tail (ht ▸ hmark)).ne_nil
  | case4 t rest ht => exact .ok _
  | case5 => exact .ok _

theorem blames_readName (h : Ended ts) : Blames ts (readName ts) := by
  unfold readName
  refine (blames_expect h _).bind fun found hfound => ?_
  obtain ⟨first, after⟩ := found
  obtain ⟨rfl, hkind⟩ := expect_ok (by decide) hfound
  have hmore := blames_readMore .dot (by decide) after (h.tail (by simp [hkind]))
  exact (hmore.mono (List.subset_cons_self _ _)).bind fun _ _ => .ok _

/-- What follows the names between parentheses. -/
theorem blames_close {names : List Text} (h : Ended rest) (hsub : rest ⊆ ts) :
    Blames ts ((expect .closeParenthesis rest).bind fun found => .ok (names, found.2)) :=
  ((blames_expect h _).mono hsub).bind fun _ _ => .ok _

theorem blames_readParameters (h : Ended ts) : Blames ts (readParameters ts) := by
  unfold readParameters
  by_cases hopen : isAt .openParenthesis ts = true
  · rw [if_pos hopen]
    cases ts with
    | nil => exact absurd rfl h.ne_nil
    | cons o ts =>
      have hts : Ended ts := h.tail (by simp [kind_of_isAt hopen])
      simp only [List.drop_succ_cons, List.drop_zero]
      by_cases hident : isAt .identifier ts = true
      · rw [if_pos hident]
        cases ts with
        | nil => exact absurd rfl hts.ne_nil
        | cons i ts =>
          have hrest : Ended ts := hts.tail (by simp [kind_of_isAt hident])
          have hsub : ts ⊆ o :: i :: ts := subset_cons_cons o i ts
          simp only [List.drop_succ_cons, List.drop_zero]
          have hmore := (blames_readMore .comma (by decide) ts hrest).mono hsub
          refine hmore.bind fun found hfound => ?_
          obtain ⟨us, rfl, hus⟩ := readMore_ok ts hfound
          have hafter : Ended found.2 := hrest.drop (hus.kind_ne_finish (by decide))
          exact blames_close hafter fun _ hv => hsub (List.mem_append_right _ hv)
      · rw [if_neg hident]
        exact blames_close hts (List.subset_cons_self _ _)
  · rw [if_neg hopen]
    exact .ok _

theorem blames_readLineEnd (h : Ended ts) : Blames ts (readLineEnd ts) := by
  unfold readLineEnd
  split
  · exact .ok _
  · exact (blames_expect h _).map

/-! ## Bodies -/

theorem blames_readRules {ls : List BodyLine}
    (h : ∀ l ∈ ls, ∀ k p, l.keyword = some (k, p) → ∃ t ∈ ts, t.position = p) :
    Blames ts (readRules ls) := by
  induction ls with
  | nil => exact .ok _
  | cons l ls ih =>
    have hrest := ih fun m hm => h m (List.mem_cons_of_mem _ hm)
    rw [readRules]
    cases hkeyword : l.keyword with
    | none => exact hrest.bind fun _ _ => .ok _
    | some head =>
      obtain ⟨k, p⟩ := head
      obtain ⟨t, ht, rfl⟩ := h l List.mem_cons_self k p hkeyword
      dsimp only
      split
      · exact .error ht _
      · exact hrest.bind fun _ _ => .ok _

/-- A body is at fault at a dash or at a keyword of its lines. -/
theorem blames_readBody {name : Text} {ls : List LineTokens}
    (h : ∀ l ∈ ls, l.tokens ⊆ ts) : Blames ts (readBody name (ls.map LineTokens.line)) := by
  have hdash : ∀ b ∈ ls.map LineTokens.line, b.dash ∈ ts := by
    intro b hb
    obtain ⟨l, hl, rfl⟩ := List.mem_map.1 hb
    have hline : l.line.dash = l.dash := by
      rcases l.line_cases with ⟨k, v, p, content, -, hline⟩ | ⟨-, hline⟩ <;> rw [hline]
    rw [hline]
    exact h l hl List.mem_cons_self
  have hkeyword : ∀ b ∈ ls.map LineTokens.line, ∀ k p, b.keyword = some (k, p) →
      ∃ t ∈ ts, t.position = p := by
    intro b hb k p hbk
    obtain ⟨l, hl, rfl⟩ := List.mem_map.1 hb
    rcases l.line_cases with ⟨k', v, p', content, hinside, hline⟩ | ⟨-, hline⟩
    · rw [hline] at hbk
      cases hbk
      refine ⟨⟨.keyword k, v, p⟩, h l hl ?_, rfl⟩
      simp [LineTokens.tokens, hinside]
    · rw [hline] at hbk
      cases hbk
  unfold readBody
  split
  · exact .ok _
  · rename_i b hfind
    split
    · exact (blames_readRules hkeyword).map
    · exact .error (hdash b (List.mem_of_find?_eq_some hfind)) _

/-! ## Definitions -/

theorem blames_readDefinition {hash : Token} (hhash : hash ∈ ts) (hsub : rest ⊆ ts)
    (h : Ended rest) : Blames ts (readDefinition label hash rest) := by
  unfold readDefinition
  refine ((blames_readName h).mono hsub).bind fun found hname => ?_
  obtain ⟨name, ts₁⟩ := found
  obtain ⟨us, names, rfl, hus, -⟩ := readName_ok hname
  have h₁ : Ended ts₁ := h.drop (hus.kind_ne_finish (by decide))
  have hsub₁ : ts₁ ⊆ ts := fun _ hv => hsub (List.mem_append_right _ hv)
  refine ((blames_readParameters h₁).mono hsub₁).bind fun found hparameters => ?_
  obtain ⟨parameters, ts₂⟩ := found
  obtain ⟨vs, rfl, hvs⟩ := readParameters_ok hparameters
  have h₂ : Ended ts₂ := h₁.drop hvs.kind_ne_finish
  have hsub₂ : ts₂ ⊆ ts := fun _ hv => hsub₁ (List.mem_append_right _ hv)
  refine ((blames_readLineEnd h₂).mono hsub₂).bind fun ts₃ hend => ?_
  have hsub₃ : ts₃ ⊆ ts := by
    rcases readLineEnd_ok hend with ⟨-, rfl⟩ | ⟨e, rfl, -⟩
    · exact hsub₂
    · exact fun _ hv => hsub₂ (List.mem_cons_of_mem _ hv)
  obtain ⟨ls, hlines, hmap, -⟩ := (readLines_split ts₃).exists_tokens
  dsimp only
  split
  · exact .error hhash _
  · rw [← hmap]
    refine (blames_readBody fun l hl t ht => hsub₃ ?_).bind fun _ _ => .ok _
    rw [hlines]
    exact List.mem_append_left _ (List.mem_flatMap.2 ⟨l, hl, ht⟩)

/-! ## Documents -/

theorem ended_of_definition {t : Template} (hdefinition : Definition label ts t rest)
    (h : Ended ts) : Ended rest ∧ rest ⊆ ts := by
  obtain ⟨d, rfl, -, hd, -⟩ := hdefinition.exists_tokens
  exact ⟨h.drop (kind_ne_finish_of_isDefinition hd), List.subset_append_right _ _⟩

theorem blames_readFrom (rounds : Nat) (h : Ended ts) : Blames ts (readFrom label rounds ts) := by
  induction rounds generalizing ts with
  | zero => exact .ok _
  | succ rounds ih =>
    rw [readFrom]
    split
    · exact .ok _
    · split
      · cases ts with
        | nil => exact absurd rfl h.ne_nil
        | cons t ts => exact .error List.mem_cons_self _
      · refine (blames_expect h _).bind fun found hexpect => ?_
        obtain ⟨hash, after⟩ := found
        obtain ⟨rfl, hhash⟩ := expect_ok (by decide) hexpect
        have hread : Blames (hash :: after) (readDefinition label hash after) :=
          blames_readDefinition List.mem_cons_self (List.subset_cons_self _ _)
            (h.tail (by simp [hhash]))
        refine hread.bind fun found hfound => ?_
        obtain ⟨t, rest⟩ := found
        obtain ⟨hrest, hsub⟩ := ended_of_definition (readDefinition_ok hhash hfound) h
        exact ((ih hrest).mono hsub).bind fun _ _ => .ok _

/-- **A token list that is rejected is so at one of its tokens.** -/
theorem blames_readAll (h : Ended ts) : Blames ts (readAll label ts) := blames_readFrom _ h

end Template

/-- The end is the last of the tokens of a document, and only the last. -/
theorem Token.ended_of_scan {t : Text} {tokens : List Token} (h : scan t = .ok tokens) :
    Grammar.Ended tokens := by
  obtain ⟨ss, hlaid, rfl⟩ := laid_of_scanFrom .between [] t h
  obtain ⟨body, rfl, hbody⟩ := hlaid.ends
  refine ⟨body.filterMap Stretch.token?, ⟨.finish, [], .behind t⟩, by simp [Stretch.token?], rfl,
    fun u hu => ?_⟩
  obtain ⟨s, hs, hsu⟩ := List.mem_filterMap.1 hu
  cases s with
  | token v =>
    cases hsu
    exact (hbody u hs).1
  | layout v => cases hsu

/-- **What documents are read.**  A document is read if and only if its tokens have the shape of a
document; what is read are the templates that its definitions denote, in their order; and an error
is told at one of its tokens. -/
theorem Template.readDocument_shape {label source : Text} {tokens : List Token}
    (h : Token.scan source = .ok tokens) :
    ((∃ templates, readDocument label source = .ok templates) ↔ ∃ ds, Shape ds tokens) ∧
      (∀ ds, Shape ds tokens →
        readDocument label source = .ok (ds.map (DefinitionTokens.template label))) ∧
      ∀ f, readDocument label source = .error f → ∃ cause, ∃ t ∈ tokens,
        f = .template (DefinitionFault.toError label ⟨cause, t.position⟩) := by
  have hended := Token.ended_of_scan h
  have hread : ∀ ds, Shape ds tokens →
      readDocument label source = .ok (ds.map (DefinitionTokens.template label)) := by
    intro ds hds
    simp [readDocument, h, readAll_iff.2 ((Grammar.document_iff hended).2 ⟨ds, hds, rfl⟩)]
  refine ⟨⟨?_, fun ⟨ds, hds⟩ => ⟨_, hread ds hds⟩⟩, hread, ?_⟩
  · rintro ⟨templates, hok⟩
    cases hall : readAll label tokens with
    | error f => simp [readDocument, h, hall] at hok
    | ok found =>
      obtain ⟨ds, hds, -⟩ := (Grammar.document_iff hended).1 (readAll_iff.1 hall)
      exact ⟨ds, hds⟩
  · intro f hf
    cases hall : readAll label tokens with
    | error fault =>
      obtain ⟨t, ht, hposition⟩ := blames_readAll hended fault hall
      refine ⟨fault.cause, t, ht, ?_⟩
      simp only [readDocument, h, hall] at hf
      cases hf
      rw [hposition]
    | ok templates => simp [readDocument, h, hall] at hf

/-- A rule with an alternative, and one without any that ends with the document. -/
theorem Template.readDocument_shape_rules :
    ∃ source tokens ds, source = "#a(x)\n- IF: \x7bx\x7d\n- y\n- ELSE:".toList ∧
      Token.scan source = .ok tokens ∧ Shape ds tokens ∧
      readDocument "d" source = .ok (ds.map (DefinitionTokens.template "d")) := by
  have hscan : (Token.scan
      "#a(x)\n- IF: \x7bx\x7d\n- y\n- ELSE:".toList).toOption.isSome = true := by
    decide +kernel
  have hread : (readDocument "d"
      "#a(x)\n- IF: \x7bx\x7d\n- y\n- ELSE:".toList).toOption.isSome = true := by
    decide +kernel
  cases htokens : Token.scan "#a(x)\n- IF: \x7bx\x7d\n- y\n- ELSE:".toList with
  | error f =>
    rw [htokens] at hscan
    cases hscan
  | ok tokens =>
    cases htemplates : readDocument "d" "#a(x)\n- IF: \x7bx\x7d\n- y\n- ELSE:".toList with
    | error f =>
      rw [htemplates] at hread
      cases hread
    | ok templates =>
      obtain ⟨hiff, hdenoted, -⟩ := @readDocument_shape "d" _ _ htokens
      obtain ⟨ds, hds⟩ := hiff.1 ⟨templates, htemplates⟩
      exact ⟨_, tokens, ds, rfl, htokens, hds, hdenoted ds hds⟩

end Phrasebook
