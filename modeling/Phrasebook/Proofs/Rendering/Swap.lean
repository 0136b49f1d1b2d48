import Mathlib.Data.List.Forall2
import Phrasebook.Proofs.Document.Phrase
import Phrasebook.Proofs.Rendering.Frame

/-!
# Documents that differ in one fragment

One fragment of one body line is replaced by another; all else in the document stays, but for the
places of what follows in the line.  Two such bodies are rendered in step when the two fragments are.

* `OneChange`: lists that differ in one member;
* `Template.Swaps`: templates that differ in one fragment;
* `Evaluator.Bond.Joins.renderBody_of_swaps`: their bodies are rendered in step;
* `Catalog.find?_of_oneChange`: catalogs that differ in one template.
-/

namespace Phrasebook

/-- The lists differ in one member, and there as the relation says. -/
def OneChange {α : Type} (R : α → α → Prop) (xs ys : List α) : Prop :=
  ∃ before x y after, xs = before ++ x :: after ∧ ys = before ++ y :: after ∧ R x y

/-- All members agree or are related. -/
theorem OneChange.forall₂ {α : Type} {R : α → α → Prop} {xs ys : List α} (h : OneChange R xs ys) :
    List.Forall₂ (fun x y => x = y ∨ R x y) xs ys := by
  obtain ⟨before, x, y, after, rfl, rfl, hxy⟩ := h
  have hsame : ∀ zs : List α, List.Forall₂ (fun x y => x = y ∨ R x y) zs zs :=
    fun zs => List.forall₂_same.2 fun z _ => .inl rfl
  exact List.rel_append (hsame before) (.cons (.inr hxy) (hsame after))

/-! ## One fragment for another -/

/-- A fragment without its place: its kind and its text. -/
abbrev Content := FragmentKind × Text

section

variable (k k' : Content)

/-- Body lines that differ in one fragment, which is `k` in the first and `k'` in the second. -/
def Alternative.Swaps (a a' : Alternative) : Prop :=
  a'.line = a.line ∧ OneChange (fun x y => x = k ∧ y = k') (a.fragments.map Fragment.content)
    (a'.fragments.map Fragment.content)

/-- Branches with the same guard that differ in one fragment of one line. -/
def Rule.Swaps (r r' : Rule) : Prop :=
  ∃ as as', r.body = some as ∧ r' = { r with body := some as' } ∧
    OneChange (Alternative.Swaps k k') as as'

/-- Bodies that differ in one fragment of one line. -/
def Body.Swaps : Body → Body → Prop
  | .normal as, .normal as' => OneChange (Alternative.Swaps k k') as as'
  | .conditional rs, .conditional rs' => OneChange (Rule.Swaps k k') rs rs'
  | _, _ => False

/-- **Templates that differ in one fragment** of one body line. -/
def Template.Swaps (t t' : Template) : Prop :=
  t' = { t with body := t'.body } ∧ t.body.Swaps k k' t'.body

end

variable {k k' : Content}

theorem Template.Swaps.name {t t' : Template} (h : t.Swaps k k' t') : t'.name = t.name := by
  rw [h.1]

theorem Template.Swaps.heading {t t' : Template} (h : t.Swaps k k' t') :
    t.heading = t'.heading := by
  rw [h.1]
  rfl

/-! ## Rendering in step -/

namespace Evaluator

open Evaluation

variable {B : Bond} {ev ev' : Evaluator} {σ τ : List Target}

/-- What fragments render to is told by their content. -/
theorem renderFragment_congr (ev : Evaluator) (again : Recursion) {f g : Fragment}
    (h : f.content = g.content) : ev.renderFragment again f = ev.renderFragment again g := by
  obtain ⟨kind, text, position⟩ := f
  obtain ⟨kind', text', position'⟩ := g
  obtain ⟨rfl, rfl⟩ := Prod.mk.inj h
  rfl

/-- Fragments one after the other are rendered in step when each of them is. -/
theorem renderFragments_of_forall₂ {L : Link} {again again' : Recursion} {fs fs' : List Fragment}
    (h : List.Forall₂ (fun f f' =>
      InStep L (ev.renderFragment again f) (ev'.renderFragment again' f')) fs fs') :
    InStep L (ev.renderFragments again fs) (ev'.renderFragments again' fs') := by
  induction h with
  | nil => exact .pure _
  | cons hf _ ih => exact .bind hf fun _ => .bind ih fun _ => .pure _

/-- One of several alternatives is rendered in step when each of them is. -/
theorem Tied.renderAlternatives_of_forall₂ {L : Link} {may : Text → Text → Prop}
    (h : Tied L may ev ev')
    {again again' : Recursion} {as as' : List Alternative}
    (has : List.Forall₂ (fun a a' => InStep L (ev.renderFragments again a.fragments)
      (ev'.renderFragments again' a'.fragments)) as as') :
    InStep L (ev.renderAlternatives again as) (ev'.renderAlternatives again' as') := by
  match as, as', has with
  | [], [], _ => exact .bind h.here fun _ => h.throwTemplate (by rintro chain hc; cases hc)
  | [a], [a'], .cons ha _ => exact ha
  | a :: b :: rest, a' :: b' :: rest', hall =>
    have hlength : (a' :: b' :: rest').length = (a :: b :: rest).length := hall.length_eq.symm
    unfold Evaluator.renderAlternatives
    rw [hlength]
    refine .bind (h.choose _) fun i => ?_
    have hbound : i % (a :: b :: rest).length < (a :: b :: rest).length :=
      Nat.mod_lt _ (by rw [List.length_cons]; omega)
    have hget := hall.get hbound (hlength ▸ hbound)
    rw [List.get_eq_getElem, List.get_eq_getElem] at hget
    rw [List.getElem?_eq_getElem hbound, List.getElem?_eq_getElem (hlength ▸ hbound),
      Option.getD_some, Option.getD_some]
    exact hget

namespace Bond.Joins

variable (h : B.Joins ev ev') (hhead : σ.head? = τ.head?)
  (hagain : ∀ callee sc, InStep (B.on σ τ) (ev.evaluate callee sc) (ev'.evaluate callee sc))
  (hswap : ∀ f f' : Fragment, f.content = k → f'.content = k' →
    InStep (B.on σ τ) (ev.renderFragment ev.evaluate f) (ev'.renderFragment ev'.evaluate f'))

include h hhead hagain

theorem renderFragments (fs : List Fragment) :
    InStep (B.on σ τ) (ev.renderFragments ev.evaluate fs) (ev'.renderFragments ev'.evaluate fs) :=
  (h.tied hhead).renderFragments (fun _ _ => .top _) (fun _ _ _ _ _ => trivial) fun callee _ sc =>
    hagain callee sc

theorem renderFragment (f : Fragment) :
    InStep (B.on σ τ) (ev.renderFragment ev.evaluate f) (ev'.renderFragment ev'.evaluate f) :=
  (h.tied hhead).renderFragment (fun _ _ => .top _) (fun _ _ _ _ _ => trivial) fun callee _ sc =>
    hagain callee sc

include hswap

/-- A line with one fragment for another is rendered in step when the two fragments are. -/
theorem renderLine_of_swaps {a a' : Alternative} (ha : a.Swaps k k' a') :
    InStep (B.on σ τ) (ev.renderFragments ev.evaluate a.fragments)
      (ev'.renderFragments ev'.evaluate a'.fragments) := by
  refine renderFragments_of_forall₂ ?_
  have hcontents := ha.2.forall₂
  rw [List.forall₂_map_left_iff, List.forall₂_map_right_iff] at hcontents
  refine hcontents.imp fun f f' hff' => ?_
  rcases hff' with hsame | ⟨hf, hf'⟩
  · rw [renderFragment_congr ev' ev'.evaluate hsame.symm]
    exact h.renderFragment hhead hagain f
  · exact hswap f f' hf hf'

theorem renderAlternatives_of_swaps {as as' : List Alternative}
    (has : OneChange (Alternative.Swaps k k') as as') :
    InStep (B.on σ τ) (ev.renderAlternatives ev.evaluate as)
      (ev'.renderAlternatives ev'.evaluate as') := by
  refine (h.tied hhead).renderAlternatives_of_forall₂ (has.forall₂.imp fun a a' haa' => ?_)
  rcases haa' with rfl | haa'
  · exact h.renderFragments hhead hagain a.fragments
  · exact h.renderLine_of_swaps hhead hagain hswap haa'

theorem renderRules_of_swaps {rs rs' : List Rule}
    (hrs : List.Forall₂ (fun r r' => r = r' ∨ r.Swaps k k' r') rs rs') :
    InStep (B.on σ τ) (ev.renderRules ev.evaluate rs) (ev'.renderRules ev'.evaluate rs') := by
  induction hrs with
  | nil => exact .pure _
  | @cons r r' rs rs' hr _ ih =>
    have happlies : InStep (B.on σ τ) (ev.ruleApplies ev.evaluate r)
        (ev'.ruleApplies ev'.evaluate r) :=
      (h.tied hhead).ruleApplies (fun _ _ => .top _) (fun _ _ _ _ _ => trivial) fun callee _ sc =>
        hagain callee sc
    rcases hr with rfl | ⟨as, as', hbody, rfl, has⟩
    · refine .bind happlies fun applies => ?_
      cases applies with
      | false => exact ih
      | true =>
        simp only [if_true]
        cases r.body with
        | none => exact ih
        | some as =>
          exact .bind ((h.tied hhead).renderAlternatives (fun _ _ => .top _)
            (fun _ _ _ _ _ => trivial) fun callee _ sc => hagain callee sc) fun _ => .pure _
    · refine .bind happlies fun applies => ?_
      cases applies with
      | false => exact ih
      | true =>
        simp only [if_true, hbody]
        exact .bind (h.renderAlternatives_of_swaps hhead hagain hswap has) fun _ => .pure _

/-- **Bodies that differ in one fragment are rendered in step** when the two fragments are. -/
theorem renderBody_of_swaps {b b' : Body} (hb : b.Swaps k k' b') :
    InStep (B.on σ τ) (ev.renderBody ev.evaluate b) (ev'.renderBody ev'.evaluate b') := by
  match b, b', hb with
  | .normal as, .normal as', has =>
    exact .bind (h.renderAlternatives_of_swaps hhead hagain hswap has) fun _ => .pure _
  | .conditional rs, .conditional rs', hrs =>
    exact h.renderRules_of_swaps hhead hagain hswap hrs.forall₂

end Bond.Joins

end Evaluator

/-! ## Catalogs that differ in one template -/

namespace Catalog

variable {before after : List Template} {t t' : Template} {c c' : Catalog}

theorem find?_of_oneChange (hc : c.templates = before ++ t :: after)
    (hc' : c'.templates = before ++ t' :: after) (hname : t'.name = t.name) {name : Text}
    (hne : name ≠ t.name) : c.find? name = c'.find? name := by
  have hskip : ∀ u : Template, u.name = t.name → (decide (u.name = name)) = false := by
    intro u hu
    rw [decide_eq_false_iff_not, hu]
    exact hne.symm
  rw [find?, find?, hc, hc', List.find?_append, List.find?_append,
    List.find?_cons_of_neg (by rw [hskip t rfl]; exact Bool.false_ne_true),
    List.find?_cons_of_neg (by rw [hskip t' hname]; exact Bool.false_ne_true)]

theorem find?_changed (hc : c.templates = before ++ t :: after) : c.find? t.name = some t := by
  have hnotMem : ∀ u ∈ before, u.name ≠ t.name := by
    have hdistinct := c.distinct
    rw [hc, List.map_append, List.nodup_append] at hdistinct
    intro u hu
    exact hdistinct.2.2 _ (List.mem_map_of_mem hu) _ (List.mem_map_of_mem List.mem_cons_self)
  rw [find?, hc, List.find?_append, List.find?_eq_none.2 (by simpa using hnotMem), Option.none_or,
    List.find?_cons_of_pos (by simp)]

end Catalog

end Phrasebook
