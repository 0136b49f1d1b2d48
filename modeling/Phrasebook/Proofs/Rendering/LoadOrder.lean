import Mathlib.Data.List.Nodup
import Phrasebook.Proofs.Rendering.History

/-!
# The order of loading

A catalog finds its templates by their names, and no two of them have the same name.  So the order
in which they came makes no difference to an evaluation, and whether documents can be added together
depends on which they are and not on their order.

* `Catalog.find?_of_perm`: the same templates in another order are found alike;
* `Source.offered`: the templates that a source has to offer, if it can be read;
* `Step.all_added_iff`: when all of several documents are added;
* `Step.performAll_reordered`: documents in one order and in another.
-/

namespace Phrasebook

/-! ## The same templates in another order -/

namespace Catalog

variable {c c' : Catalog} {t : Template} {ts ts' : List Template}

/-- A catalog finds a template by its name. -/
theorem find?_eq_some_iff {name : Text} :
    c.find? name = some t ↔ t ∈ c.templates ∧ t.name = name := by
  constructor
  · intro h
    have hname : t.name = name := by simpa using List.find?_some h
    exact ⟨List.mem_of_find?_eq_some h, hname⟩
  · rintro ⟨hmem, rfl⟩
    cases hfind : c.find? t.name with
    | none =>
      have hnot := (c.find?_eq_none_iff t.name).1 hfind
      exact absurd (List.mem_map_of_mem hmem) hnot
    | some u =>
      have hu : u.name = t.name := by simpa using List.find?_some hfind
      have hmem' : u ∈ c.templates := List.mem_of_find?_eq_some hfind
      rw [List.inj_on_of_nodup_map c.distinct hmem' hmem hu]

theorem find?_of_perm (h : c.templates.Perm c'.templates) (name : Text) :
    c.find? name = c'.find? name := by
  refine Option.ext fun t => ?_
  rw [find?_eq_some_iff, find?_eq_some_iff, h.mem_iff]

theorem has_of_perm (h : c.templates.Perm c'.templates) : c.has = c'.has := by
  funext name
  rw [has_eq_isSome_find?, has_eq_isSome_find?, find?_of_perm h]

end Catalog

/-- Evaluations with the same templates in another order go on alike. -/
theorem Evaluator.evaluate_of_perm {c c' : Catalog} (h : c.templates.Perm c'.templates)
    (engine : Engine) (random : RandomSource) (name : Text) (scope : Value) {s t : Session}
    (hnames : s.stack = t.stack) (hchoices : s.choices = t.choices) :
    (Evaluator.evaluate ⟨c, engine, random⟩ name scope).outcome s =
        (Evaluator.evaluate ⟨c', engine, random⟩ name scope).outcome t ∧
      s.Parallel t ((Evaluator.evaluate ⟨c, engine, random⟩ name scope).final s)
        ((Evaluator.evaluate ⟨c', engine, random⟩ name scope).final t) := by
  have hstack : s.names = t.names := by rw [Session.names, hnames, Session.names]
  refine Evaluator.evaluate_alongside (fun callee => Catalog.find?_of_perm h callee) ?_ ?_ hstack name
    scope (.inl (by rw [hnames]))
  · intro source sc
    dsimp only
    rw [Catalog.has_of_perm h]
  · intro turn count
    rw [hchoices]

/-! ## Adding documents -/

/-- The templates that a source has to offer; none if it cannot be read. -/
def Source.offered (settings : Settings) (source : Source) : List Template :=
  (source.offers settings).toOption.getD []

namespace Step

variable {settings : Settings} {ts : List Template} {d d' : Desk} {lib : Library}
  {random : RandomSource} {replies : List Reply}

/-- Adding a document leaves the functions alone, and all of the session but its log. -/
theorem Does.add_quiet {source : Source} {reply : Reply}
    (h : (Step.add source).Does lib random d reply d') :
    d'.book.backend = d.book.backend ∧ d'.session.stack = d.session.stack ∧
      d.session.Quiet d'.session := by
  cases h with
  | added _ _ | unread _ | taken _ _ => exact ⟨rfl, rfl, .of_eq rfl rfl rfl rfl⟩

/-- A step that adds a document succeeds if the document can be read and no name is taken, and what
it brings then is what the document has to offer. -/
theorem Does.added_iff (hd : d.Holds settings ts) {source : Source} {reply : Reply}
    (h : (Step.add source).Does lib random d reply d') :
    reply = .ok none ↔ (∃ new, source.offers settings = .ok new) ∧
      ((ts ++ source.offered settings).map (·.name)).Nodup := by
  rw [h.add_ok_iff hd]
  constructor
  · rintro ⟨new, hnew, hdistinct⟩
    have hoffered : source.offered settings = new := by
      rw [Source.offered, hnew]
      rfl
    exact ⟨⟨new, hnew⟩, hoffered ▸ hdistinct⟩
  · rintro ⟨⟨new, hnew⟩, hdistinct⟩
    have hoffered : source.offered settings = new := by
      rw [Source.offered, hnew]
      rfl
    exact ⟨new, hnew, hoffered ▸ hdistinct⟩

/-- **Several documents are all added** if each of them can be read and no name is taken or occurs
twice. -/
theorem all_added_iff {sources : List Source} (hd : d.Holds settings ts)
    (h : (performAll lib random (sources.map add)).run d = (replies, d')) :
    (∀ reply ∈ replies, reply = .ok none) ↔
      (∀ source ∈ sources, ∃ new, source.offers settings = .ok new) ∧
        ((ts ++ sources.flatMap (Source.offered settings)).map (·.name)).Nodup := by
  induction sources generalizing d ts replies with
  | nil =>
    cases h
    have hdistinct : (ts.map (·.name)).Nodup := by
      rw [← hd.templates]
      exact Catalog.distinct _
    simpa using hdistinct
  | cons source sources ih =>
    have hstep := @does_perform lib random (add source) d
    rw [List.map_cons, run_performAll_cons] at h
    generalize ((add source).perform lib random).run d = first at hstep h
    obtain ⟨reply, d₁⟩ := first
    generalize hrest : (performAll lib random (sources.map add)).run d₁ = rest at h
    obtain ⟨replies', d₂⟩ := rest
    cases h
    have hfirst := hstep.added_iff hd
    rw [List.forall_mem_cons, List.forall_mem_cons, List.flatMap_cons, ← List.append_assoc]
    -- what the first document brings counts as there before the others
    have hothers : reply = .ok none → ((∀ r ∈ replies', r = .ok none) ↔
        (∀ source ∈ sources, ∃ new, source.offers settings = .ok new) ∧
          ((ts ++ source.offered settings ++
            sources.flatMap (Source.offered settings)).map (·.name)).Nodup) := by
      rintro rfl
      exact ih (hd.does hstep) hrest
    constructor
    · rintro ⟨hreply, hreplies⟩
      obtain ⟨hread, hdistinct⟩ := (hothers hreply).1 hreplies
      exact ⟨⟨(hfirst.1 hreply).1, hread⟩, hdistinct⟩
    · rintro ⟨⟨hread, hall⟩, hdistinct⟩
      have hnow : ((ts ++ source.offered settings).map (·.name)).Nodup := by
        rw [List.map_append] at hdistinct
        exact (List.nodup_append.1 hdistinct).1
      have hreply : reply = .ok none := hfirst.2 ⟨hread, hnow⟩
      exact ⟨hreply, (hothers hreply).2 ⟨hall, hdistinct⟩⟩

/-- What a desk holds after several documents have been added. -/
theorem holds_all_added {sources : List Source} (hd : d.Holds settings ts)
    (h : (performAll lib random (sources.map add)).run d = (replies, d'))
    (hreplies : ∀ reply ∈ replies, reply = .ok none) :
    d'.Holds settings (ts ++ sources.flatMap (Source.offered settings)) ∧
      d'.book.backend = d.book.backend ∧ d'.session.stack = d.session.stack ∧
      d.session.Quiet d'.session := by
  induction sources generalizing d ts replies with
  | nil =>
    cases h
    rw [List.flatMap_nil, List.append_nil]
    exact ⟨hd, rfl, rfl, .of_eq rfl rfl rfl rfl⟩
  | cons source sources ih =>
    have hstep := @does_perform lib random (add source) d
    rw [List.map_cons, run_performAll_cons] at h
    generalize ((add source).perform lib random).run d = first at hstep h
    obtain ⟨reply, d₁⟩ := first
    generalize hrest : (performAll lib random (sources.map add)).run d₁ = rest at h
    obtain ⟨replies', d₂⟩ := rest
    cases h
    obtain ⟨rfl, hothers⟩ := List.forall_mem_cons.1 hreplies
    obtain ⟨hholds, hbackend, hstack, hquiet⟩ := ih (hd.does hstep) hrest hothers
    obtain ⟨hbackend₁, hstack₁, hquiet₁⟩ := hstep.add_quiet
    rw [List.flatMap_cons, ← List.append_assoc]
    refine ⟨hholds, hbackend.trans hbackend₁, hstack.trans hstack₁, ?_⟩
    exact ⟨⟨hquiet₁.frames.trans hquiet.frames, hquiet₁.loops.trans hquiet.loops⟩,
      hquiet.choices.trans hquiet₁.choices, hquiet.calls.trans hquiet₁.calls⟩

/-! ## Documents in another order -/

/-- An evaluation goes by the templates of the book, on an empty stack. -/
theorem run_evaluate_holds (hd : d.Holds settings ts) (name : Text) (scope : Value) :
    let ev : Evaluator := ⟨d.book.templates, d.book.engine lib, random⟩
    (((evaluate name scope).perform lib random).run d).1 =
        (ev.evaluate name scope).outcome { d.session with stack := [] } ∧
      (((evaluate name scope).perform lib random).run d).2.session =
        (ev.evaluate name scope).final { d.session with stack := [] } := by
  have hstep := @does_perform lib random (evaluate name scope) d
  generalize ((evaluate name scope).perform lib random).run d = after at hstep ⊢
  obtain ⟨reply, d₁⟩ := after
  cases hstep with
  | evaluated =>
    rw [Book.evaluator, hd.kept_eq]
    exact ⟨rfl, rfl⟩

/-- Evaluations on desks with the same templates in another order have the same reply and leave the
same choices and calls. -/
theorem evaluate_of_perm {ts' : List Template} {e : Desk} (hd : d.Holds settings ts)
    (he : e.Holds settings ts') (hts : ts.Perm ts') (hbackend : d.book.backend = e.book.backend)
    (hchoices : d.session.choices = e.session.choices) (hcalls : d.session.calls = e.session.calls)
    (name : Text) (scope : Value) :
    let x := ((evaluate name scope).perform lib random).run d
    let y := ((evaluate name scope).perform lib random).run e
    x.1 = y.1 ∧ x.2.session.choices = y.2.session.choices ∧
      x.2.session.calls = y.2.session.calls := by
  intro x y
  have hperm : d.book.templates.templates.Perm e.book.templates.templates := by
    rw [hd.templates, he.templates]
    exact hts
  have hengine : d.book.engine lib = e.book.engine lib := by
    rw [Book.engine, hbackend, Book.engine]
  obtain ⟨hreply, hsession⟩ := @run_evaluate_holds _ _ d lib random hd name scope
  obtain ⟨hreply', hsession'⟩ := @run_evaluate_holds _ _ e lib random he name scope
  obtain ⟨houtcome, hparallel⟩ := Evaluator.evaluate_of_perm hperm (e.book.engine lib) random name
    scope (s := { d.session with stack := [] }) (t := { e.session with stack := [] }) rfl hchoices
  rw [hreply, hreply', hsession, hsession', hengine]
  exact ⟨houtcome, hparallel.choices_eq hchoices, hparallel.calls_eq hcalls⟩

/-- **The order of loading makes no difference.**

* A list of templates with distinct names and the same list in another order both have a catalog,
  and an evaluation by either has the same outcome, with the same choices and calls of the engine.
* Documents can all be added in one order if and only if they can all be added in another.  Then an
  evaluation afterwards has the same outcome in both orders, with the same choices and calls. -/
theorem performAll_reordered :
    (∀ ts ts' : List Template, ts.Perm ts' → (ts.map (·.name)).Nodup →
      ∃ c c', Catalog.ofList ts = .ok c ∧ Catalog.ofList ts' = .ok c' ∧
        ∀ (engine : Engine) (random : RandomSource) (name : Text) (scope : Value) (s : Session),
          let x : Evaluation (Option Text) := Evaluator.evaluate ⟨c, engine, random⟩ name scope
          let y : Evaluation (Option Text) := Evaluator.evaluate ⟨c', engine, random⟩ name scope
          x.outcome s = y.outcome s ∧ (x.final s).choices = (y.final s).choices ∧
            (x.final s).calls = (y.final s).calls) ∧
      ∀ (settings : Settings) (backend : Backend) (lib : Library) (random : RandomSource)
        (sources sources' : List Source), sources.Perm sources' →
        let added := fun (order : List Source) =>
          (performAll lib random (order.map add)).run (.start (.empty settings backend))
        ((∀ reply ∈ (added sources).1, reply = .ok none) ↔
            ∀ reply ∈ (added sources').1, reply = .ok none) ∧
          ((∀ reply ∈ (added sources).1, reply = .ok none) → ∀ (name : Text) (scope : Value),
            let x := ((evaluate name scope).perform lib random).run (added sources).2
            let y := ((evaluate name scope).perform lib random).run (added sources').2
            x.1 = y.1 ∧ x.2.session.choices = y.2.session.choices ∧
              x.2.session.calls = y.2.session.calls) := by
  constructor
  · intro ts ts' hperm hdistinct
    have hdistinct' : (ts'.map (·.name)).Nodup := (hperm.map _).nodup_iff.1 hdistinct
    refine ⟨⟨ts, hdistinct⟩, ⟨ts', hdistinct'⟩, Catalog.ofList_iff.2 rfl, Catalog.ofList_iff.2 rfl, ?_⟩
    intro engine random name scope s x y
    have hcatalogs : (Catalog.mk ts hdistinct).templates.Perm (Catalog.mk ts' hdistinct').templates :=
      hperm
    obtain ⟨houtcome, hparallel⟩ := Evaluator.evaluate_of_perm hcatalogs engine random name scope
      (s := s) rfl rfl
    exact ⟨houtcome, hparallel.choices_eq rfl, hparallel.calls_eq rfl⟩
  · intro settings backend lib random sources sources' hperm added
    have hstart := Desk.Holds.start settings backend
    have hleft := @all_added_iff settings [] _ _ lib random _ sources hstart rfl
    have hright := @all_added_iff settings [] _ _ lib random _ sources' hstart rfl
    have hoffered : (sources.flatMap (Source.offered settings)).Perm
        (sources'.flatMap (Source.offered settings)) := hperm.flatMap_right _
    have hboth : (∀ reply ∈ (added sources).1, reply = .ok none) ↔
        ∀ reply ∈ (added sources').1, reply = .ok none := by
      refine hleft.trans (Iff.trans ?_ hright.symm)
      rw [List.nil_append, List.nil_append, (hoffered.map _).nodup_iff]
      refine and_congr_left fun _ => forall_congr' fun source => ?_
      rw [hperm.mem_iff]
    refine ⟨hboth, fun hadded name scope => ?_⟩
    obtain ⟨hholds, hbackend, -, hquiet⟩ :=
      @holds_all_added settings [] _ _ lib random _ sources hstart rfl hadded
    obtain ⟨hholds', hbackend', -, hquiet'⟩ :=
      @holds_all_added settings [] _ _ lib random _ sources' hstart rfl (hboth.1 hadded)
    rw [List.nil_append] at hholds hholds'
    exact evaluate_of_perm hholds hholds' hoffered (hbackend.trans hbackend'.symm)
      (hquiet.choices.trans hquiet'.choices.symm) (hquiet.calls.trans hquiet'.calls.symm) name scope

/-- Two documents that refer to each other's templates, in both orders. -/
theorem performAll_reordered_pair :
    ∃ (first second : Source) (lib : Library) (random : RandomSource),
      let added := fun (order : List Source) =>
        (performAll lib random (order.map add)).run (.start (.empty .standard (.standard [])))
      let rendered := fun (order : List Source) =>
        (((evaluate "a" .null).perform lib random).run (added order).2).1
      (rendered [first, second]).toOption = some (some "xy".toList) ∧
        rendered [first, second] = rendered [second, first] ∧
        ∃ c c', Catalog.ofList (first.offered .standard ++ second.offered .standard) = .ok c ∧
          Catalog.ofList (second.offered .standard ++ first.offered .standard) = .ok c' ∧
          ∀ engine random name scope,
            (Evaluator.evaluate ⟨c, engine, random⟩ name scope).outcome .fresh =
              (Evaluator.evaluate ⟨c', engine, random⟩ name scope).outcome .fresh := by
  let first : Source := .text "1" "#a\n- x[b]\n#c\n- y".toList
  let second : Source := .text "2" "#b\n- [c]".toList
  have hswap : [first, second].Perm [second, first] := .swap _ _ _
  obtain ⟨-, hrest⟩ := performAll_reordered.2 .standard (.standard [])
    .empty (fun turn _ => turn) _ _ hswap
  have hadded : ∀ reply ∈ ((performAll .empty (fun turn _ => turn)
      ([first, second].map add)).run (.start (.empty .standard (.standard [])))).1,
      reply = .ok none := by
    refine (all_added_iff (Desk.Holds.start _ _) rfl).2 ⟨fun source hmem => ?_, by decide +kernel⟩
    have hread : ∀ source ∈ [first, second], (source.offers .standard).toOption.isSome = true := by
      decide +kernel
    cases hoffers : source.offers .standard with
    | ok new => exact ⟨new, rfl⟩
    | error f => simpa [hoffers, Except.toOption] using hread source hmem
  have horder : (first.offered .standard ++ second.offered .standard).Perm
      (second.offered .standard ++ first.offered .standard) := List.perm_append_comm
  obtain ⟨c, c', hc, hc', heval⟩ := performAll_reordered.1 _ _ horder (by decide +kernel)
  exact ⟨first, second, _, _, by decide +kernel, (hrest hadded "a" .null).1, c, c', hc, hc',
    fun engine random name scope => (heval engine random name scope .fresh).1⟩

end Step

end Phrasebook
