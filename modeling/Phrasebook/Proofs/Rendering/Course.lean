import Phrasebook.Proofs.Rendering.InStep

/-!
# Courses

What becomes of a computation is settled but for the indexes that the random source gives.  A course
is that part of it as a tree: it ends, or alternatives are drawn from and the course goes on with the
index that is taken.  Two sources that give the same along a course come to the same end.

* `Course`, `Course.follow`: the tree, and the end that a source leads to;
* `Course.andThen`: what follows the end of a course;
* `Course.Drawn`: every draw is one of a body that is being rendered, whose alternative at the index
  is rendered before anything else;
* `Course.Drawn.follow_congr`, `Course.Drawn.isChoice`, `Course.Drawn.no_choices`: what this says of
  every source.
-/

namespace Phrasebook

/-- What becomes of a computation, with its draws left open. -/
inductive Course (α : Type) where
  | ends (outcome : Except Failure α) (final : Session)
  | draws (moment : Session) (alternatives : List Alternative) (next : Nat → Course α)

namespace Course

variable {α β γ : Type}

/-- The end that a source leads to. -/
def follow (r : RandomSource) : Course α → Except Failure α × Session
  | ends outcome final => (outcome, final)
  | draws moment alternatives next =>
    follow r (next (r moment.choices.length alternatives.length))

/-- A course that goes on after its end. -/
def andThen : Course α → (Except Failure α → Session → Course β) → Course β
  | ends outcome final, rest => rest outcome final
  | draws moment alternatives next, rest =>
    draws moment alternatives fun i => andThen (next i) rest

theorem follow_andThen (r : RandomSource) (course : Course α)
    (rest : Except Failure α → Session → Course β) :
    (course.andThen rest).follow r =
      (rest (course.follow r).1 (course.follow r).2).follow r := by
  induction course with
  | ends outcome final => rfl
  | draws moment alternatives next ih => exact ih _

theorem andThen_assoc (course : Course α) (rest : Except Failure α → Session → Course β)
    (rest' : Except Failure β → Session → Course γ) :
    (course.andThen rest).andThen rest' =
      course.andThen fun outcome s => (rest outcome s).andThen rest' := by
  induction course with
  | ends outcome final => rfl
  | draws moment alternatives next ih => exact congrArg _ (funext ih)

theorem andThen_ends (course : Course α) : course.andThen ends = course := by
  induction course with
  | ends outcome final => rfl
  | draws moment alternatives next ih => exact congrArg _ (funext ih)

end Course

/-! ## Draws -/

/-- The alternatives that one body has to choose from: its own, or those of one of its rules. -/
def Body.Offers (alternatives : List Alternative) : Body → Prop
  | .normal own => own = alternatives
  | .conditional rules => ∃ r ∈ rules, r.body = some alternatives

/-- The innermost template of a stack offers the alternatives. -/
def Catalog.Offers (c : Catalog) (stack : List Target) (alternatives : List Alternative) : Prop :=
  ∃ target below t, stack = target :: below ∧ c.find? target.name = some t ∧
    t.body.Offers alternatives

/-- What rendering an alternative gives, right after it has been chosen. -/
def Alternative.rendered (c : Catalog) (engine : Engine) (moment : Session) (count : Nat)
    (a : Alternative) (r : RandomSource) : Except Failure Text × Session :=
  (Evaluator.renderFragments ⟨c, engine, r⟩ (Evaluator.evaluate ⟨c, engine, r⟩) a.fragments).run
    { moment with choices := moment.choices ++ [count] }

/-- **A course is drawn** from the templates of a catalog: it begins after the choices `done` and ends
with the stack `σ`.  Each of its draws is from two or more alternatives that the innermost template
offers at that moment.  The alternative at the index that is taken is rendered, and what comes after
depends on the index only by what that has given. -/
inductive Course.Drawn {α : Type} (c : Catalog) (engine : Engine) (σ : List Target) :
    (done : List Nat) → Course α → Prop
  | ends {done : List Nat} {outcome : Except Failure α} {final : Session} (hstack : final.stack = σ)
      (hchoices : final.choices = done) : Drawn c engine σ done (.ends outcome final)
  | draws {moment : Session} {alternatives : List Alternative} {next : Nat → Course α}
      {inner : Nat → Course Text} {rest : Except Failure Text → Session → Course α}
      (hoffers : c.Offers moment.stack alternatives) (hmany : 2 ≤ alternatives.length)
      (hinner : ∀ i a r, alternatives[i % alternatives.length]? = some a →
        a.rendered c engine moment alternatives.length r = (inner i).follow r)
      (hrest : ∀ outcome s, s.stack = moment.stack → Drawn c engine σ s.choices (rest outcome s))
      (hnext : ∀ i, next i = (inner i).andThen rest)
      (hall : ∀ i, Drawn c engine σ (moment.choices ++ [alternatives.length]) (next i)) :
      Drawn c engine σ moment.choices (.draws moment alternatives next)

/-- The source that gives an index at one turn, and what another source gives at all others. -/
def RandomSource.turned (r : RandomSource) (k i : Nat) : RandomSource :=
  fun turn count => if turn = k then i else r turn count

/-- **A choice, and what depends on it.**  After the choices `done`, at the turn `k` of what a source
`r` leads to, one of `n` alternatives is chosen.  They are two or more, and the innermost template
offers them at that moment.  Every source that agrees on the choices in between comes to that moment
as well.  There it renders the alternative at its own index, and what comes after is drawn from what
that gives.  So every alternative can be made to be rendered by changing that index alone. -/
structure Evaluator.IsChoice {α : Type} (c : Catalog) (engine : Engine) (σ : List Target)
    (done : List Nat) (run : RandomSource → Except Failure α × Session) (r : RandomSource)
    (k n : Nat) : Prop where
  many : 2 ≤ n
  depends : ∃ (moment : Session) (alternatives : List Alternative)
    (rest : Except Failure Text → Session → Course α),
    moment.choices = (run r).2.choices.take k ∧ alternatives.length = n ∧
    c.Offers moment.stack alternatives ∧
    (∀ outcome s, s.stack = moment.stack → (rest outcome s).Drawn c engine σ s.choices) ∧
    (∀ r' a, (∀ j m, done.length ≤ j → moment.choices[j]? = some m → r' j m = r j m) →
      alternatives[r' k n % n]? = some a →
      let rendered := a.rendered c engine moment n r'
      run r' = (rest rendered.1 rendered.2).follow r') ∧
    ∀ i a, alternatives[i]? = some a →
      let rendered := a.rendered c engine moment n (r.turned k i)
      run (r.turned k i) = (rest rendered.1 rendered.2).follow (r.turned k i)

/-- What depends on a choice is known from the sources that agree on the choices before it. -/
theorem Evaluator.IsChoice.of_agreeing {α : Type} {c : Catalog} {engine : Engine}
    {σ : List Target} {done : List Nat} {run : RandomSource → Except Failure α × Session}
    {r : RandomSource} {moment : Session} {alternatives : List Alternative}
    {rest : Except Failure Text → Session → Course α} (hmany : 2 ≤ alternatives.length)
    (hearlier : moment.choices <+: (run r).2.choices) (hoffers : c.Offers moment.stack alternatives)
    (hrest : ∀ outcome s, s.stack = moment.stack → (rest outcome s).Drawn c engine σ s.choices)
    (hrun : ∀ r' a, (∀ j m, done.length ≤ j → moment.choices[j]? = some m → r' j m = r j m) →
      alternatives[r' moment.choices.length alternatives.length % alternatives.length]? = some a →
      let rendered := a.rendered c engine moment alternatives.length r'
      run r' = (rest rendered.1 rendered.2).follow r') :
    IsChoice c engine σ done run r moment.choices.length alternatives.length where
  many := hmany
  depends := by
    refine ⟨moment, alternatives, rest, List.prefix_iff_eq_take.1 hearlier, rfl, hoffers, hrest,
      hrun, fun i a ha => hrun _ a (fun j m _ hj => ?_) ?_⟩
    · obtain ⟨hlt, -⟩ := List.getElem?_eq_some_iff.1 hj
      exact if_neg (Nat.ne_of_lt hlt)
    · obtain ⟨hlt, -⟩ := List.getElem?_eq_some_iff.1 ha
      rw [RandomSource.turned, if_pos rfl, Nat.mod_eq_of_lt hlt]
      exact ha

namespace Course.Drawn

variable {α β : Type} {c : Catalog} {engine : Engine} {σ τ : List Target} {done : List Nat}
  {course : Course α}

/-- What follows a course is drawn where it is drawn from every session with the stack it ends
with. -/
theorem andThen (h : course.Drawn c engine σ done) {rest : Except Failure α → Session → Course β}
    (hrest : ∀ outcome s, s.stack = σ → (rest outcome s).Drawn c engine τ s.choices) :
    (course.andThen rest).Drawn c engine τ done := by
  induction h with
  | ends hstack hchoices => exact hchoices ▸ hrest _ _ hstack
  | draws hoffers hmany hinner _ hnext _ ihrest ihall =>
    exact .draws hoffers hmany hinner ihrest
      (fun i => by rw [hnext i, Course.andThen_assoc]) ihall

/-- Where a source leads: to the stack, and further choices. -/
theorem follow_end (h : course.Drawn c engine σ done) (r : RandomSource) :
    (course.follow r).2.stack = σ ∧ done <+: (course.follow r).2.choices := by
  induction h with
  | ends hstack hchoices => exact ⟨hstack, hchoices ▸ List.prefix_rfl⟩
  | draws _ _ _ _ _ _ _ ihall =>
    obtain ⟨hstack, hprefix⟩ := ihall _
    exact ⟨hstack, (List.prefix_append _ _).trans hprefix⟩

/-- The choice that is made next. -/
theorem choice_at {n : Nat} (h : course.Drawn c engine σ (done ++ [n])) (r : RandomSource) :
    (course.follow r).2.choices[done.length]? = some n := by
  obtain ⟨more, hmore⟩ := (h.follow_end r).2
  rw [← hmore, List.append_assoc, List.getElem?_append_right (Nat.le_refl _), Nat.sub_self]
  rfl

/-- **Sources that agree on the choices that are made** lead to the same end. -/
theorem follow_congr (h : course.Drawn c engine σ done) {r r' : RandomSource}
    (hsame : ∀ k n, done.length ≤ k → (course.follow r).2.choices[k]? = some n → r' k n = r k n) :
    course.follow r' = course.follow r := by
  induction h with
  | ends => rfl
  | @draws moment alternatives next _ _ _ _ _ _ _ hall _ ihall =>
    let i := r moment.choices.length alternatives.length
    have hindex : r' moment.choices.length alternatives.length = i :=
      hsame _ _ (Nat.le_refl _) ((hall i).choice_at r)
    show (next (r' moment.choices.length alternatives.length)).follow r' = (next i).follow r
    rw [hindex]
    refine ihall i fun k n hk hn => hsame k n ?_ hn
    rw [List.length_append] at hk
    omega

/-- **Every choice is a draw** from the alternatives of a body that is being rendered. -/
theorem isChoice (h : course.Drawn c engine σ done) {r : RandomSource} {k n : Nat}
    (hk : done.length ≤ k) (hn : (course.follow r).2.choices[k]? = some n) :
    Evaluator.IsChoice c engine σ done (fun r => course.follow r) r k n := by
  induction h with
  | @ends done outcome final hstack hchoices =>
    obtain ⟨hlt, -⟩ := List.getElem?_eq_some_iff.1 hn
    exact absurd (hchoices ▸ hlt : k < done.length) (Nat.not_lt.2 hk)
  | @draws moment alternatives next inner rest hoffers hmany hinner hrest hnext hall _ ihall =>
    let i := r moment.choices.length alternatives.length
    have hdrawn := hall i
    have hfirst : ((next i).follow r).2.choices[moment.choices.length]? =
        some alternatives.length := hdrawn.choice_at r
    by_cases hnow : k = moment.choices.length
    · -- this is the choice
      subst hnow
      obtain rfl : alternatives.length = n := Option.some.inj (hfirst.symm.trans hn)
      have hearlier := (List.prefix_append _ _).trans (hdrawn.follow_end r).2
      refine .of_agreeing hmany hearlier hoffers hrest fun r' a _ ha => ?_
      show (next _).follow r' = _
      rw [hnext, follow_andThen, hinner _ a r' ha]
    · -- it is a later one, and sources that agree before it take the same index here
      have hlater : (moment.choices ++ [alternatives.length]).length ≤ k := by
        rw [List.length_append, List.length_singleton]
        omega
      obtain ⟨hmany', moment', alternatives', rest', htake, hlength, hoffers', hrest', hrun, -⟩ :=
        ihall i hlater hn
      obtain ⟨hlt, -⟩ := List.getElem?_eq_some_iff.1 hn
      have hturn : moment'.choices.length = k := by
        rw [htake, List.length_take]
        exact Nat.min_eq_left (Nat.le_of_lt hlt)
      subst hturn hlength
      refine .of_agreeing hmany' (htake ▸ List.take_prefix _ _) hoffers' hrest'
        fun r' a hsame ha => ?_
      have hbefore : moment'.choices[moment.choices.length]? = some alternatives.length := by
        rw [htake, List.getElem?_take_of_lt (by rw [List.length_append] at hlater; omega)]
        exact hfirst
      have hindex : r' moment.choices.length alternatives.length = i :=
        hsame _ _ (Nat.le_refl _) hbefore
      show (next (r' moment.choices.length alternatives.length)).follow r' = _
      rw [hindex]
      refine hrun r' a (fun j m hj => hsame j m ?_) ha
      rw [List.length_append] at hj
      omega

/-- Where no template has two alternatives to choose from, nothing is chosen. -/
theorem no_choices (h : course.Drawn c engine σ done)
    (hfew : ∀ t ∈ c.templates, ∀ alternatives, t.body.Offers alternatives → alternatives.length ≤ 1)
    (r r' : RandomSource) :
    (course.follow r).2.choices = done ∧ course.follow r' = course.follow r := by
  cases h with
  | ends hstack hchoices => exact ⟨hchoices, rfl⟩
  | draws hoffers hmany =>
    obtain ⟨target, below, t, -, hfind, hoffered⟩ := hoffers
    have hmem : t ∈ c.templates := List.mem_of_find?_eq_some hfind
    exact absurd (hfew t hmem _ hoffered) (by omega)

end Course.Drawn

end Phrasebook
