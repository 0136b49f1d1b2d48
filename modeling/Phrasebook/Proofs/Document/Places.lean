import Phrasebook.Proofs.Document.Cutting
import Phrasebook.Proofs.Document.Grammar

/-!
# Places do not matter

A template without the places of its parts, and without the label of its document, depends on the
kinds and the letters of the tokens alone.

* `Template.bare`: a template without places and label;
* `Template.readBody_bare`: lines that differ in places only make bodies that differ in places
  only;
* `Grammar.Document.elsewhere`: the same for documents.
-/

namespace Phrasebook

/-! ## Without places -/

/-- The piece without its place. -/
def Fragment.bare (f : Fragment) : Fragment := { f with position := .start }

/-- The alternative without places. -/
def Alternative.bare (a : Alternative) : Alternative := ⟨a.fragments.map Fragment.bare, 0⟩

/-- The rule without places. -/
def Rule.bare (r : Rule) : Rule :=
  { r with body := r.body.map fun as => as.map Alternative.bare, line := 0 }

/-- The body without places. -/
def Body.bare : Body → Body
  | .normal alternatives => .normal (alternatives.map Alternative.bare)
  | .conditional rules => .conditional (rules.map Rule.bare)

/-- The template without places and without the label of its document. -/
def Template.bare (t : Template) : Template := { t with body := t.body.bare, source := [], line := 0 }

/-- The keyword and the content of a line, without places. -/
def BodyLine.bare (l : BodyLine) : Option Keyword × List Piece :=
  (l.keyword.map (·.1), l.content.map Token.piece)

namespace BodyLine

variable {l l' : BodyLine}

theorem keyword_of_bare (h : l'.bare = l.bare) : l'.keyword.map (·.1) = l.keyword.map (·.1) :=
  congrArg Prod.fst h

theorem content_of_bare (h : l'.bare = l.bare) :
    l'.content.map Token.piece = l.content.map Token.piece :=
  congrArg Prod.snd h

theorem alternative_of_bare (h : l'.bare = l.bare) : l'.alternative.bare = l.alternative.bare := by
  have hmap : ∀ ts : List Token,
      (ts.map fun t => (⟨t.kind.fragmentKind, t.value, t.position⟩ : Fragment)).map Fragment.bare =
        (ts.map Token.piece).map fun p => ⟨p.1.fragmentKind, p.2, .start⟩ := by
    intro ts
    rw [List.map_map, List.map_map]
    rfl
  simp only [alternative, Alternative.bare]
  rw [hmap, hmap, content_of_bare h]

theorem condition_of_bare (h : l'.bare = l.bare) : l'.condition? = l.condition? := by
  have hfind : ∀ ts : List Token,
      (ts.find? (·.kind = .expression)).map (·.value) =
        ((ts.map Token.piece).find? (·.1 = .expression)).map (·.2) := by
    intro ts
    rw [List.find?_map, Option.map_map]
    rfl
  simp only [condition?]
  rw [hfind, hfind, content_of_bare h]

end BodyLine

namespace Template

/-! ## Bodies -/

variable {ls ls' : List BodyLine}

theorem readRules_bare {alternatives : List Alternative} {rules : List Rule}
    (hbare : ls'.map BodyLine.bare = ls.map BodyLine.bare)
    (h : readRules ls = .ok (alternatives, rules)) :
    ∃ alternatives' rules', readRules ls' = .ok (alternatives', rules') ∧
      alternatives'.map Alternative.bare = alternatives.map Alternative.bare ∧
      rules'.map Rule.bare = rules.map Rule.bare := by
  induction ls generalizing ls' alternatives rules with
  | nil =>
    rw [List.map_nil, List.map_eq_nil_iff] at hbare
    subst hbare
    cases h
    exact ⟨[], [], rfl, rfl, rfl⟩
  | cons l ls ih =>
    cases ls' with
    | nil => cases hbare
    | cons l' ls' =>
      rw [List.map_cons, List.map_cons, List.cons_eq_cons] at hbare
      obtain ⟨hl, hls⟩ := hbare
      have hkeyword := BodyLine.keyword_of_bare hl
      have hcondition := BodyLine.condition_of_bare hl
      rw [readRules] at h ⊢
      cases hk : l.keyword with
      | none =>
        rw [hk, Option.map_none, Option.map_eq_none_iff] at hkeyword
        rw [hk] at h
        rw [hkeyword]
        dsimp only at h ⊢
        cases hrest : readRules ls with
        | error f =>
          rw [hrest] at h
          cases h
        | ok found =>
          obtain ⟨as, rs⟩ := found
          rw [hrest] at h
          cases h
          obtain ⟨as', rs', hread, has, hrs⟩ := ih hls hrest
          refine ⟨l'.alternative :: as', rs', by rw [hread]; rfl, ?_, hrs⟩
          rw [List.map_cons, List.map_cons, has, BodyLine.alternative_of_bare hl]
      | some head =>
        obtain ⟨k, p⟩ := head
        rw [hk, Option.map_some, Option.map_eq_some_iff] at hkeyword
        obtain ⟨⟨k', p'⟩, hk', hkk⟩ := hkeyword
        subst hkk
        rw [hk] at h
        rw [hk', hcondition]
        dsimp only at h ⊢
        by_cases hmissing : k' ≠ .elseWord ∧ l.condition?.isNone = true
        · rw [if_pos hmissing] at h
          cases h
        · rw [if_neg hmissing] at h ⊢
          cases hrest : readRules ls with
          | error f =>
            rw [hrest] at h
            cases h
          | ok found =>
            obtain ⟨as, rs⟩ := found
            rw [hrest] at h
            cases h
            obtain ⟨as', rs', hread, has, hrs⟩ := ih hls hrest
            refine ⟨[], _, by rw [hread]; rfl, rfl, ?_⟩
            rw [List.map_cons, List.map_cons, hrs]
            congr 1
            simp only [Rule.bare, ruleBody]
            cases as with
            | nil =>
              rw [List.map_nil, List.map_eq_nil_iff] at has
              rw [has]
            | cons a as =>
              cases as' with
              | nil => cases has
              | cons a' as' => simp [has]

theorem readBody_bare {name : Text} {body : Body}
    (hbare : ls'.map BodyLine.bare = ls.map BodyLine.bare) (h : readBody name ls = .ok body) :
    ∃ body', readBody name ls' = .ok body' ∧ body'.bare = body.bare := by
  have hkeywords : ls'.map (·.keyword.isSome) = ls.map (·.keyword.isSome) := by
    have := congrArg (List.map fun b : Option Keyword × List Piece => b.1.isSome) hbare
    simpa [Function.comp_def, BodyLine.bare] using this
  have hhead : (ls'.head?.bind (·.keyword)).isSome = (ls.head?.bind (·.keyword)).isSome := by
    cases ls with
    | nil => rw [List.map_eq_nil_iff.1 hbare]
    | cons l ls =>
      cases ls' with
      | nil => cases hbare
      | cons l' ls' => exact (List.cons.inj hkeywords).1
  have hfind : (ls'.find? (·.keyword.isSome)).isSome = (ls.find? (·.keyword.isSome)).isSome := by
    have := congrArg (List.any · id) hkeywords
    rw [List.isSome_find?, List.isSome_find?]
    simpa [List.any_map, Function.comp_def] using this
  unfold readBody at h ⊢
  cases hls : ls.find? (·.keyword.isSome) with
  | none =>
    rw [hls] at h
    cases h
    rw [hls, Option.isSome_none, Option.isSome_eq_false_iff, Option.isNone_iff_eq_none] at hfind
    rw [hfind]
    refine ⟨_, rfl, ?_⟩
    simp only [Body.bare, List.map_map]
    congr 1
    have hlength : ls'.length = ls.length := by simpa using congrArg List.length hbare
    refine List.ext_getElem (by simpa using hlength) ?_
    intro i hi hi'
    rw [List.length_map] at hi hi'
    have hl : (ls'[i]).bare = (ls[i]).bare := by
      have := congrArg (·[i]?) hbare
      simpa [List.getElem?_eq_getElem, hi, hi'] using this
    simpa using BodyLine.alternative_of_bare hl
  | some l =>
    rw [hls] at h
    rw [hls, Option.isSome_some, Option.isSome_iff_exists] at hfind
    obtain ⟨l', hl'⟩ := hfind
    rw [hl']
    dsimp only at h ⊢
    rw [hhead]
    by_cases hfirst : (ls.head?.bind (·.keyword)).isSome = true
    · rw [if_pos hfirst] at h ⊢
      cases hrules : readRules ls with
      | error f =>
        rw [hrules] at h
        cases h
      | ok found =>
        obtain ⟨as, rs⟩ := found
        rw [hrules] at h
        cases h
        obtain ⟨as', rs', hread, -, hrs⟩ := readRules_bare hbare hrules
        refine ⟨.conditional rs', by rw [hread]; rfl, ?_⟩
        simp only [Body.bare, hrs]
    · rw [if_neg hfirst] at h
      cases h

end Template

namespace Grammar

open Template

/-! ## Derivations -/

variable {label label' : Text} {ts ts' rest : List Token}

theorem kind_of_piece {t t' : Token} (h : t'.piece = t.piece) : t'.kind = t.kind :=
  congrArg Prod.fst h

theorem value_of_piece {t t' : Token} (h : t'.piece = t.piece) : t'.value = t.value :=
  congrArg Prod.snd h

theorem isAt_elsewhere (h : ts'.map Token.piece = ts.map Token.piece) (k : TokenKind) :
    isAt k ts' = isAt k ts := by
  cases ts with
  | nil =>
    rw [List.map_nil, List.map_eq_nil_iff] at h
    rw [h]
  | cons t ts =>
    obtain ⟨t', us, rfl, ht, -⟩ := List.map_eq_cons_iff.1 h
    exact congrArg (fun l => decide (l = k)) (kind_of_piece ht)

theorem endsLine_elsewhere (h : ts'.map Token.piece = ts.map Token.piece)
    (hts : ∀ t ∈ ts, t.kind.endsLine = false) : ∀ t ∈ ts', t.kind.endsLine = false := by
  intro t' ht'
  obtain ⟨t, ht, hpiece⟩ := List.mem_map.1 (h ▸ List.mem_map_of_mem ht')
  rw [← kind_of_piece hpiece]
  exact hts t ht

theorem Marked.elsewhere {mark : TokenKind} {names : List Text} (h : Marked mark ts names)
    (hpieces : ts'.map Token.piece = ts.map Token.piece) : Marked mark ts' names := by
  induction h generalizing ts' with
  | nil =>
    rw [List.map_nil, List.map_eq_nil_iff] at hpieces
    subst hpieces
    exact .nil
  | @cons m i ts names hm hi _ ih =>
    obtain ⟨m', us, rfl, hm', hpieces⟩ := List.map_eq_cons_iff.1 hpieces
    obtain ⟨i', us', rfl, hi', hpieces⟩ := List.map_eq_cons_iff.1 hpieces
    rw [← value_of_piece hi']
    exact .cons ((kind_of_piece hm').trans hm) ((kind_of_piece hi').trans hi) (ih hpieces)

theorem Listed.elsewhere {mark : TokenKind} {names : List Text} (h : Listed mark ts names)
    (hpieces : ts'.map Token.piece = ts.map Token.piece) : Listed mark ts' names := by
  cases h with
  | intro hi hts =>
    obtain ⟨i', us, rfl, hi', hpieces⟩ := List.map_eq_cons_iff.1 hpieces
    rw [← value_of_piece hi']
    exact .intro ((kind_of_piece hi').trans hi) (hts.elsewhere hpieces)

theorem Parameters.elsewhere {names : List Text} (h : Parameters ts names)
    (hpieces : ts'.map Token.piece = ts.map Token.piece) : Parameters ts' names := by
  cases h with
  | absent =>
    rw [List.map_nil, List.map_eq_nil_iff] at hpieces
    subst hpieces
    exact .absent
  | empty ho hc =>
    obtain ⟨o', us, rfl, ho', hpieces⟩ := List.map_eq_cons_iff.1 hpieces
    obtain ⟨c', us', rfl, hc', hpieces⟩ := List.map_eq_cons_iff.1 hpieces
    rw [List.map_nil, List.map_eq_nil_iff] at hpieces
    subst hpieces
    exact .empty ((kind_of_piece ho').trans ho) ((kind_of_piece hc').trans hc)
  | given ho hts hc =>
    obtain ⟨o', us, rfl, ho', hpieces⟩ := List.map_eq_cons_iff.1 hpieces
    rw [List.map_append] at hpieces
    obtain ⟨vs, ws, rfl, hvs, hws⟩ := List.map_eq_append_iff.1 hpieces
    obtain ⟨c', us', rfl, hc', hnil⟩ := List.map_eq_cons_iff.1 hws
    rw [List.map_nil, List.map_eq_nil_iff] at hnil
    subst hnil
    exact .given ((kind_of_piece ho').trans ho) (hts.elsewhere hvs) ((kind_of_piece hc').trans hc)

theorem Content.elsewhere {dash : Token} {l : BodyLine} (h : Content dash ts l) (dash' : Token)
    (hpieces : ts'.map Token.piece = ts.map Token.piece) :
    ∃ l', Content dash' ts' l' ∧ l'.bare = l.bare := by
  cases h with
  | plain hts hhead =>
    refine ⟨_, .plain (endsLine_elsewhere hpieces hts) ?_, by rw [BodyLine.bare, hpieces]; rfl⟩
    cases ts with
    | nil =>
      rw [List.map_nil, List.map_eq_nil_iff] at hpieces
      subst hpieces
      exact hhead
    | cons t ts =>
      obtain ⟨t', us, rfl, ht', -⟩ := List.map_eq_cons_iff.1 hpieces
      intro u hu
      cases hu
      rw [kind_of_piece ht']
      exact hhead t rfl
  | @headed k v p ts hts =>
    obtain ⟨⟨k', v', p'⟩, us, rfl, ht', hus⟩ := List.map_eq_cons_iff.1 hpieces
    cases kind_of_piece ht'
    exact ⟨_, .headed (endsLine_elsewhere hus hts), by rw [BodyLine.bare, hus]; rfl⟩

theorem LineEnd.elsewhere {us us' vs : List Token} (h : LineEnd us vs)
    (hpieces : us'.map Token.piece = us.map Token.piece) :
    ∃ vs', LineEnd us' vs' ∧ vs'.map Token.piece = vs.map Token.piece := by
  cases h with
  | newline he =>
    obtain ⟨e', vs', rfl, he', hpieces⟩ := List.map_eq_cons_iff.1 hpieces
    exact ⟨vs', .newline ((kind_of_piece he').trans he), hpieces⟩
  | finish hat => exact ⟨us', .finish ((isAt_elsewhere hpieces _).trans hat), hpieces⟩

theorem Lines.elsewhere {ls : List BodyLine} (h : Lines ts ls rest)
    (hpieces : ts'.map Token.piece = ts.map Token.piece) :
    ∃ ls' rest', Lines ts' ls' rest' ∧ ls'.map BodyLine.bare = ls.map BodyLine.bare ∧
      rest'.map Token.piece = rest.map Token.piece := by
  induction h generalizing ts' with
  | done hat => exact ⟨[], ts', .done ((isAt_elsewhere hpieces _).trans hat), rfl, hpieces⟩
  | cons hdash hcontent hend _ ih =>
    obtain ⟨dash', all, rfl, hdash', hpieces⟩ := List.map_eq_cons_iff.1 hpieces
    rw [List.map_append] at hpieces
    obtain ⟨us, vs, rfl, hus, hvs⟩ := List.map_eq_append_iff.1 hpieces
    obtain ⟨l', hl', hbare⟩ := hcontent.elsewhere dash' hus
    obtain ⟨ws, hws, hpieces⟩ := hend.elsewhere hvs
    obtain ⟨ls', rest', hlines, hbares, hrest⟩ := ih hpieces
    refine ⟨l' :: ls', rest', ?_, by rw [List.map_cons, List.map_cons, hbare, hbares], hrest⟩
    exact .cons ((kind_of_piece hdash').trans hdash) hl' hws hlines

theorem Definition.elsewhere {t : Template} (h : Definition label ts t rest)
    (hpieces : ts'.map Token.piece = ts.map Token.piece) :
    ∃ t' rest', Definition label' ts' t' rest' ∧ t'.bare = t.bare ∧
      rest'.map Token.piece = rest.map Token.piece := by
  cases h with
  | @intro hash e us vs ws rest names parameters lines body hhash hus hvs he hlines hne hbody =>
    obtain ⟨hash', all, rfl, hhash', hpieces⟩ := List.map_eq_cons_iff.1 hpieces
    rw [List.map_append] at hpieces
    obtain ⟨us', all, rfl, hus', hpieces⟩ := List.map_eq_append_iff.1 hpieces
    rw [List.map_append] at hpieces
    obtain ⟨vs', all, rfl, hvs', hpieces⟩ := List.map_eq_append_iff.1 hpieces
    obtain ⟨e', ws', rfl, he', hpieces⟩ := List.map_eq_cons_iff.1 hpieces
    obtain ⟨lines', rest', hlines', hbares, hrest⟩ := hlines.elsewhere hpieces
    obtain ⟨body', hbody', hbare⟩ := readBody_bare hbares hbody
    have hne' : lines' ≠ [] := by
      rintro rfl
      exact hne (List.map_eq_nil_iff.1 hbares.symm)
    refine ⟨_, rest', .intro ((kind_of_piece hhash').trans hhash) (hus.elsewhere hus')
      (hvs.elsewhere hvs') ((kind_of_piece he').trans he) hlines' hne' hbody', ?_, hrest⟩
    simp only [Template.bare, hbare]

/-- **Places do not matter**: tokens with the same kinds and letters denote the same templates, but
for places and label. -/
theorem Document.elsewhere {templates : List Template} (label' : Text)
    (h : Document label ts templates) (hpieces : ts'.map Token.piece = ts.map Token.piece) :
    ∃ templates', Document label' ts' templates' ∧
      templates'.map Template.bare = templates.map Template.bare := by
  induction h generalizing ts' with
  | done hat => exact ⟨[], .done ((isAt_elsewhere hpieces _).trans hat), rfl⟩
  | cons hd _ ih =>
    obtain ⟨t', rest', hd', hbare, hrest⟩ := hd.elsewhere hpieces
    obtain ⟨templates', hdocument, hbares⟩ := ih hrest
    exact ⟨t' :: templates', .cons hd' hdocument, by rw [List.map_cons, List.map_cons, hbare, hbares]⟩

end Grammar

end Phrasebook
