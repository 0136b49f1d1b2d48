import Phrasebook.Proofs.Rendering.Frame
import Phrasebook.Steps

/-!
# The history of a book

What a book holds after any steps is told by the steps and their replies: the templates are those
that the successful steps have brought, in their order, and a name stands for the function that was
registered for it last.  A step that fails leaves both alone.  An evaluation keeps what it has been
prepared with, and that is never out of date: the next evaluation gives what an evaluator made from
scratch would give.

* `Catalog.ofList_iff`: what the catalog of a list holds;
* `Source.offers`: what documents have to offer, and `Source.gives_load`: what reading them gives;
* `Book.gives_addLoaded`: what adding documents comes to;
* `Desk.Holds`, `Step.holds_perform`: what is true of a desk, and what a step makes of it;
* `Step.performAll_history`: every history.
-/

namespace Phrasebook

theorem run_bind {σ ε α β : Type} (x : ExceptT ε (StateM σ) α)
    (f : α → ExceptT ε (StateM σ) β) (s : σ) :
    (x >>= f).run s = match x.run s with
      | (.ok a, s') => (f a).run s'
      | (.error e, s') => (.error e, s') := by
  show (ExceptT.bindCont f (x.run s).1 : StateM σ _) (x.run s).2 = _
  obtain ⟨outcome, s'⟩ := x.run s
  cases outcome <;> rfl

/-! ## Catalogs -/

namespace Catalog

variable {c c' : Catalog} {t : Template} {ts : List Template}

theorem ext_templates (h : c.templates = c'.templates) : c = c' := by
  obtain ⟨ts, hts⟩ := c
  obtain ⟨ts', hts'⟩ := c'
  cases h
  rfl

theorem insert_iff : c.insert t = .ok c' ↔ c'.templates = c.templates ++ [t] := by
  unfold insert
  split
  · rename_i old hold
    have hname : old.name = t.name := by simpa using List.find?_some hold
    have hmem : old ∈ c.templates := List.mem_of_find?_eq_some hold
    refine iff_of_false nofun fun h => ?_
    have hdistinct := c'.distinct
    rw [h, List.map_append, List.nodup_append] at hdistinct
    exact hdistinct.2.2 _ (List.mem_map_of_mem hmem) _ (by simp) hname
  · constructor
    · rintro h
      cases h
      rfl
    · intro h
      exact congrArg Except.ok (ext_templates h.symm)

theorem insertAll_iff : c.insertAll ts = .ok c' ↔ c'.templates = c.templates ++ ts := by
  induction ts generalizing c with
  | nil =>
    rw [List.append_nil]
    constructor
    · rintro h
      cases h
      rfl
    · intro h
      exact congrArg Except.ok (ext_templates h.symm)
  | cons t ts ih =>
    rw [insertAll, List.foldlM_cons]
    constructor
    · intro h
      cases hfirst : c.insert t with
      | error e => simp [hfirst, bind, Except.bind] at h
      | ok first =>
        rw [hfirst] at h
        rw [ih.1 h, insert_iff.1 hfirst, List.append_assoc]
        rfl
    · intro h
      have hsplit : c'.templates = (c.templates ++ [t]) ++ ts := by rw [h]; simp
      have hdistinct : ((c.templates ++ [t]).map (·.name)).Nodup := by
        have := c'.distinct
        rw [hsplit, List.map_append] at this
        exact (List.nodup_append.1 this).1
      have hfirst : c.insert t = .ok ⟨c.templates ++ [t], hdistinct⟩ := insert_iff.2 rfl
      rw [hfirst]
      exact ih.2 hsplit

/-- **The catalog of a list** holds the templates of the list. -/
theorem ofList_iff : ofList ts = .ok c ↔ c.templates = ts := insertAll_iff

/-- A list has a catalog if its names are distinct. -/
theorem exists_ofList_iff : (∃ c, ofList ts = .ok c) ↔ (ts.map (·.name)).Nodup := by
  constructor
  · rintro ⟨c, hc⟩
    rw [← ofList_iff.1 hc]
    exact c.distinct
  · intro h
    exact ⟨⟨ts, h⟩, ofList_iff.2 rfl⟩

end Catalog

/-! ## Reading -/

namespace Load

variable {α β : Type} {x : Load α} {outcome : Except Failure α}

/-- Reading comes to an outcome and leaves records behind those that are there, whatever they
are. -/
def Gives (x : Load α) (outcome : Except Failure α) : Prop :=
  ∃ records, ∀ log, x.run log = (outcome, log ++ records)

theorem gives_ofExcept (outcome : Except Failure α) : (ofExcept outcome).Gives outcome := by
  refine ⟨[], fun log => ?_⟩
  rw [List.append_nil]
  cases outcome <;> rfl

theorem gives_bind {g : α → Load β} {next : α → Except Failure β} (hx : x.Gives outcome)
    (hg : ∀ a, (g a).Gives (next a)) : (x >>= g).Gives (outcome >>= next) := by
  obtain ⟨records, hrun⟩ := hx
  cases outcome with
  | error f =>
    refine ⟨records, fun log => ?_⟩
    rw [run_bind, hrun]
    rfl
  | ok a =>
    obtain ⟨records', hrun'⟩ := hg a
    refine ⟨records ++ records', fun log => ?_⟩
    rw [run_bind, hrun, ← List.append_assoc]
    exact hrun' _

end Load

namespace Source

variable {settings : Settings} {files : Files} {p : Path}

/-- The templates of the document in a file, or why there are none. -/
def offersFile (settings : Settings) (files : Files) (p : Path) :
    Except Failure (List Template) := do
  let text ← Fault.orFail (files.readText settings.encoding p)
  Template.readDocument p.text text

/-- The templates of several documents, or why one of them has none. -/
def offersAll (settings : Settings) (files : Files) (ps : List Path) :
    Except Failure (List Template) := do
  return (← ps.mapM (offersFile settings files)).flatten

/-- The templates of the documents in a directory, or why there are none. -/
def offersDirectory (settings : Settings) (files : Files) (p : Path) :
    Except Failure (List Template) := do
  offersAll settings files (← Fault.orFail (files.discover p settings.extensions))

/-- The templates that a source has to offer, or why it has none. -/
def offers (settings : Settings) : Source → Except Failure (List Template)
  | text label t => Template.readDocument label t
  | file files p => offersFile settings files p
  | directory files p => offersDirectory settings files p
  | path files p => do
    if ← Fault.orFail (files.isDirectory p) then offersDirectory settings files p
    else offersFile settings files p

theorem gives_file : (Load.file files settings.encoding p).Gives (offersFile settings files p) := by
  refine Load.gives_bind (Load.gives_ofExcept _) fun text => ?_
  have hrecord : ∀ templates, (do
      modify fun log => log ++ [Load.record p templates]
      return templates : Load (List Template)).Gives (.ok templates) :=
    fun templates => ⟨[Load.record p templates], fun log => rfl⟩
  have hread := Load.gives_bind (Load.gives_ofExcept (Template.readDocument p.text text)) hrecord
  have hbind : (Template.readDocument p.text text >>= Except.ok) =
      Template.readDocument p.text text := bind_pure _
  rwa [hbind] at hread

theorem offersAll_cons (ps : List Path) :
    offersAll settings files (p :: ps) = (do
      let templates ← offersFile settings files p
      return templates ++ (← offersAll settings files ps)) := by
  rw [offersAll, List.mapM_cons, offersAll]
  cases offersFile settings files p with
  | error f => rfl
  | ok templates => cases ps.mapM (offersFile settings files) <;> rfl

theorem gives_all (ps : List Path) :
    (Load.all files settings.encoding ps).Gives (offersAll settings files ps) := by
  induction ps with
  | nil => exact Load.gives_ofExcept (.ok [])
  | cons p ps ih =>
    rw [offersAll_cons]
    refine Load.gives_bind gives_file fun templates => ?_
    exact Load.gives_bind ih fun more => Load.gives_ofExcept (.ok (templates ++ more))

theorem gives_directory :
    (Load.directory files settings p).Gives (offersDirectory settings files p) :=
  Load.gives_bind (Load.gives_ofExcept _) fun paths => gives_all paths

/-- **Reading a source** gives what it has to offer. -/
theorem gives_load (source : Source) : (source.load settings).Gives (source.offers settings) := by
  cases source with
  | text label t => exact Load.gives_ofExcept _
  | file files p => exact gives_file
  | directory files p => exact gives_directory
  | path files p =>
    refine Load.gives_bind (Load.gives_ofExcept _) fun isDirectory => ?_
    cases isDirectory with
    | true => exact gives_directory
    | false => exact gives_file

end Source

/-! ## Adding -/

namespace Book

theorem add_eq (b : Book) (ts : List Template) :
    b.add ts = match Catalog.ofList (b.added ++ ts) with
      | .ok c => .ok { b with added := b.added ++ ts, templates := c, kept := none }
      | .error e => .error (.template e) := by
  rw [add, run_insert]
  cases Catalog.ofList (b.added ++ ts) <;> rfl

/-- **What adding templates that are read first comes to.** -/
theorem gives_addLoaded {reading : Load (List Template)} {offered : Except Failure (List Template)}
    (h : reading.Gives offered) (b : Book) : (b.addLoaded reading).Gives (offered >>= b.add) :=
  Load.gives_bind h fun ts => Load.gives_ofExcept (b.add ts)

end Book

/-! ## Steps -/

namespace Working

variable {α : Type}

theorem run_change (x : Change α) (d : Desk) :
    (change x).run d = ((x.run d.book).1, { d with book := (x.run d.book).2 }) := rfl

theorem run_load (x : Load α) (d : Desk) :
    (load x).run d = ((x.run d.session.log).1,
      { d with session := { d.session with log := (x.run d.session.log).2 } }) := rfl

theorem run_evaluate (x : Evaluation α) (d : Desk) :
    (evaluate x).run d = (x.outcome { d.session with stack := [] },
      { d with session := x.final { d.session with stack := [] } }) := rfl

end Working

/-- **What a step can do**: its reply, and the desk that it leaves. -/
inductive Step.Does (lib : Library) (random : RandomSource) (d : Desk) : Step → Reply → Desk → Prop
  | added {source : Source} {new : List Template} {c : Catalog} {log : List LogRecord} :
      source.offers d.book.settings = .ok new → Catalog.ofList (d.book.added ++ new) = .ok c →
        Does lib random d (.add source) (.ok none)
          ⟨{ d.book with added := d.book.added ++ new, templates := c, kept := none },
            { d.session with log := log }⟩
  | unread {source : Source} {f : Failure} {log : List LogRecord} :
      source.offers d.book.settings = .error f →
        Does lib random d (.add source) (.error f) ⟨d.book, { d.session with log := log }⟩
  | taken {source : Source} {new : List Template} {e : TemplateError} {log : List LogRecord} :
      source.offers d.book.settings = .ok new → Catalog.ofList (d.book.added ++ new) = .error e →
        Does lib random d (.add source) (.error (.template e))
          ⟨d.book, { d.session with log := log }⟩
  | registered {name : Text} {f : Value} {b : Book} :
      d.book.register name f = .ok b →
        Does lib random d (.register name f) (.ok none) { d with book := b }
  | refused {name : Text} {f : Value} {e : Fault} :
      d.book.register name f = .error e →
        Does lib random d (.register name f) (.error (.fault e)) d
  | evaluated (name : Text) (scope : Value) :
      Does lib random d (.evaluate name scope)
        (((d.book.evaluator lib random).evaluate name scope).outcome { d.session with stack := [] })
        ⟨{ d.book with kept := some (d.book.kept.getD d.book.templates) },
          ((d.book.evaluator lib random).evaluate name scope).final { d.session with stack := [] }⟩

namespace Step

variable {lib : Library} {random : RandomSource}

theorem does_add (source : Source) (d : Desk) :
    Does lib random d (add source) (((add source).perform lib random).run d).1
      (((add source).perform lib random).run d).2 := by
  obtain ⟨records, hload⟩ := @Source.gives_load d.book.settings source
  have hrun : ((add source).perform lib random).run d =
      ((Working.load (source.load d.book.settings) >>= fun templates =>
        Working.change (Book.insert templates) >>= fun _ => pure none : Working _).run d) := rfl
  rw [hrun, run_bind, Working.run_load, hload]
  cases hoffers : source.offers d.book.settings with
  | error f => exact .unread hoffers
  | ok new =>
    dsimp only
    rw [run_bind, Working.run_change, Book.run_insert]
    cases hcatalog : Catalog.ofList (d.book.added ++ new) with
    | error e => exact .taken hoffers hcatalog
    | ok c => exact .added hoffers hcatalog

theorem does_register (name : Text) (f : Value) (d : Desk) :
    Does lib random d (register name f) (((register name f).perform lib random).run d).1
      (((register name f).perform lib random).run d).2 := by
  have hrun : ((register name f).perform lib random).run d =
      ((Working.change (Book.enroll name f) >>= fun _ => pure none : Working _).run d) := rfl
  rw [hrun, run_bind, Working.run_change, Book.run_enroll]
  cases hregister : d.book.register name f with
  | error e => exact .refused hregister
  | ok b => exact .registered hregister

theorem does_evaluate (name : Text) (scope : Value) (d : Desk) :
    Does lib random d (evaluate name scope) (((evaluate name scope).perform lib random).run d).1
      (((evaluate name scope).perform lib random).run d).2 := by
  have hrun : ((evaluate name scope).perform lib random).run d =
      ((Working.change (Book.prepare lib random) >>= fun ev =>
        Working.evaluate (ev.evaluate name scope) : Working _).run d) := rfl
  rw [hrun, run_bind, Working.run_change, Book.run_prepare]
  exact .evaluated name scope

/-- **Every step does one of the things that a step can do.** -/
theorem does_perform (step : Step) (d : Desk) :
    Does lib random d step ((step.perform lib random).run d).1
      ((step.perform lib random).run d).2 := by
  cases step with
  | add source => exact does_add source d
  | register name f => exact does_register name f d
  | evaluate name scope => exact does_evaluate name scope d

end Step

/-! ## What the steps have brought -/

/-- A step with its reply. -/
abbrev Done := Step × Reply

namespace Done

/-- The templates that a step has brought: those that its source has to offer, if it has
succeeded. -/
def templates (settings : Settings) : Done → List Template
  | (.add source, .ok _) => (source.offers settings).toOption.getD []
  | _ => []

/-- The function that a step has registered for a name, if it has. -/
def function? (name : Text) : Done → Option Text
  | (.register n (.function f), .ok _) => if n = name then some f else none
  | _ => none

end Done

/-- The function that a name stands for in expressions, if it stands for one of the host. -/
def Backend.function? (name : Text) : Backend → Option Text
  | .standard functions => (functions.find? (·.1 = name)).map (·.2)
  | .other _ _ => none

namespace Registry

variable {r r' : Registry} {name n f : Text}

theorem find?_replace (r : Registry) (n f name : Text) (hn : ∃ e ∈ r, e.1 = n) :
    ((r.map fun e => if e.1 = n then (n, f) else e).find? (·.1 = name)).map (·.2) =
      (if n = name then some f else none).or ((r.find? (·.1 = name)).map (·.2)) := by
  have hsame : ((fun e : Text × Text => decide (e.1 = name)) ∘
      fun e => if e.1 = n then (n, f) else e) = fun e => decide (e.1 = name) := by
    funext e
    by_cases he : e.1 = n <;> simp [he]
  rw [List.find?_map, hsame, Option.map_map]
  cases hfind : r.find? (·.1 = name) with
  | none =>
    have hne : n ≠ name := by
      rintro rfl
      obtain ⟨e, he, rfl⟩ := hn
      simpa using List.find?_eq_none.1 hfind e he
    simp [hne]
  | some e =>
    have he : e.1 = name := by simpa using List.find?_some hfind
    by_cases hne : n = name
    · simp [he, hne]
    · have : e.1 ≠ n := fun h => hne (h.symm.trans he)
      simp [hne, this]

/-- A name that is registered stands for its function from then on, and all others for what they did
before. -/
theorem find?_register {v : Value} (h : r.register n v = .ok r') :
    ∃ f, v = .function f ∧ (r'.find? (·.1 = name)).map (·.2) =
      (if n = name then some f else none).or ((r.find? (·.1 = name)).map (·.2)) := by
  unfold register at h
  split at h
  · cases h
  · split at h
    · rename_i f
      refine ⟨f, rfl, ?_⟩
      cases h
      split
      · rename_i hany
        refine find?_replace r n f name ?_
        simpa using hany
      · rename_i hany
        have hnone : ∀ e ∈ r, e.1 ≠ n := fun e he hname =>
          hany (List.any_eq_true.2 ⟨e, he, by simpa using hname⟩)
        rw [List.find?_append]
        by_cases hne : n = name
        · subst hne
          have hfind : r.find? (·.1 = n) = none := by simpa using hnone
          simp [hfind]
        · simp [hne]
    · cases h

end Registry

/-- Registering a function changes the functions of a book and nothing else. -/
theorem Book.register_ok {b b' : Book} {n : Text} {v : Value} (h : b.register n v = .ok b') :
    b' = { b with backend := b'.backend } ∧ ∀ name,
      b'.backend.function? name =
        (Done.function? name (.register n v, .ok none)).or (b.backend.function? name) := by
  obtain ⟨settings, backend, added, templates, kept⟩ := b
  unfold register at h
  cases backend with
  | other engine e => cases h
  | standard functions =>
    dsimp only at h
    cases hregister : functions.register n v with
    | error f =>
      rw [hregister] at h
      cases h
    | ok functions' =>
      rw [hregister] at h
      cases h
      refine ⟨rfl, fun name => ?_⟩
      obtain ⟨f, rfl, hfind⟩ := Registry.find?_register hregister
      exact hfind

/-! ## Desks -/

/-- **What is true of a desk after any steps**: the templates are those that have been brought, and
what is kept is not out of date. -/
structure Desk.Holds (settings : Settings) (ts : List Template) (d : Desk) : Prop where
  settings : d.book.settings = settings
  added : d.book.added = ts
  templates : d.book.templates.templates = ts
  kept : ∀ c, d.book.kept = some c → c.templates = ts

namespace Desk.Holds

variable {settings : Settings} {ts : List Template} {d d' : Desk} {lib : Library}
  {random : RandomSource} {step : Step} {reply : Reply}

theorem start (settings : Settings) (backend : Backend) :
    Holds settings [] (.start (.empty settings backend)) := ⟨rfl, rfl, rfl, nofun⟩

/-- **An evaluation goes by the templates of the book**, also if it goes by what has been kept. -/
theorem kept_eq (h : d.Holds settings ts) :
    d.book.kept.getD d.book.templates = d.book.templates := by
  cases hkept : d.book.kept with
  | none => rfl
  | some c => exact Catalog.ext_templates ((h.kept c hkept).trans h.templates.symm)

/-- **A step keeps what is true of a desk.** -/
theorem does (h : d.Holds settings ts) (hstep : step.Does lib random d reply d') :
    d'.Holds settings (ts ++ Done.templates settings (step, reply)) := by
  cases hstep with
  | @added source new c log hoffers hcatalog =>
    rw [h.settings] at hoffers
    rw [h.added] at hcatalog
    have hnew : Done.templates settings (.add source, .ok none) = new := by
      simp [Done.templates, hoffers, Except.toOption]
    rw [hnew]
    exact ⟨h.settings, by rw [h.added], Catalog.ofList_iff.1 hcatalog, nofun⟩
  | unread _ | taken _ _ | refused _ =>
    simpa [Done.templates] using ⟨h.settings, h.added, h.templates, h.kept⟩
  | registered hregister =>
    obtain ⟨hbook, -⟩ := Book.register_ok hregister
    rw [hbook]
    simpa [Done.templates] using ⟨h.settings, h.added, h.templates, h.kept⟩
  | evaluated name scope =>
    rw [h.kept_eq]
    have hkept : ∀ c, some d.book.templates = some c → c.templates = ts := by
      rintro c hc
      rw [← Option.some.inj hc, h.templates]
    simpa [Done.templates] using ⟨h.settings, h.added, h.templates, hkept⟩

end Desk.Holds

namespace Step.Does

variable {settings : Settings} {ts : List Template} {d d' : Desk} {lib : Library}
  {random : RandomSource} {step : Step} {reply : Reply}

/-- A step that fails leaves the templates and the functions as they were. -/
theorem failed {f : Failure} (h : step.Does lib random d (.error f) d') :
    d'.book.templates = d.book.templates ∧ d'.book.backend = d.book.backend := by
  generalize hreply : (.error f : Reply) = reply at h
  cases h with
  | added _ _ => cases hreply
  | registered _ => cases hreply
  | unread _ | taken _ _ | refused _ | evaluated _ _ => exact ⟨rfl, rfl⟩

theorem function? (h : step.Does lib random d reply d') (name : Text) :
    d'.book.backend.function? name =
      (Done.function? name (step, reply)).or (d.book.backend.function? name) := by
  cases h with
  | registered hregister => exact (Book.register_ok hregister).2 name
  | added _ _ | unread _ | taken _ _ | refused _ | evaluated _ _ => simp [Done.function?]

/-- Templates are added if their documents can be read and no name is taken. -/
theorem add_ok_iff (hd : d.Holds settings ts) {source : Source}
    (h : (Step.add source).Does lib random d reply d') :
    reply = .ok none ↔ ∃ new, source.offers settings = .ok new ∧
      ((ts ++ new).map (·.name)).Nodup := by
  rw [← hd.settings, ← hd.added]
  cases h with
  | added hoffers hcatalog =>
    exact iff_of_true rfl ⟨_, hoffers, Catalog.exists_ofList_iff.1 ⟨_, hcatalog⟩⟩
  | unread hoffers =>
    refine iff_of_false nofun ?_
    rintro ⟨new, hnew, -⟩
    rw [hoffers] at hnew
    cases hnew
  | taken hoffers hcatalog =>
    refine iff_of_false nofun ?_
    rintro ⟨new, hnew, hdistinct⟩
    rw [hoffers] at hnew
    cases hnew
    obtain ⟨c, hc⟩ := Catalog.exists_ofList_iff.2 hdistinct
    rw [hcatalog] at hc
    cases hc

/-- **An evaluation gives what an evaluator made from scratch would give**, with the random source
where it has been left. -/
theorem evaluate_fresh (hd : d.Holds settings ts) {name : Text} {scope : Value}
    (h : (Step.evaluate name scope).Does lib random d reply d') :
    ∃ c, Catalog.ofList ts = .ok c ∧
      (Evaluator.evaluate ⟨c, d.book.engine lib, random⟩ name scope).outcome
          { Session.fresh with choices := d.session.choices } = reply ∧
        ((Evaluator.evaluate ⟨c, d.book.engine lib, random⟩ name scope).final
          { Session.fresh with choices := d.session.choices }).choices = d'.session.choices := by
  cases h with
  | evaluated =>
    refine ⟨d.book.templates, Catalog.ofList_iff.2 hd.templates, ?_⟩
    have hturn : Session.SameTurn { Session.fresh with choices := d.session.choices }
        { d.session with stack := [] } := ⟨rfl, rfl⟩
    obtain ⟨houtcome, hfinal⟩ := Evaluator.evaluate_sameTurn
      ⟨d.book.templates, d.book.engine lib, random⟩ name scope hturn
    rw [Book.evaluator, hd.kept_eq]
    exact ⟨houtcome, hfinal.choices⟩

end Step.Does

/-! ## Histories -/

namespace Step

variable {settings : Settings} {ts : List Template} {d d' : Desk} {lib : Library}
  {random : RandomSource} {steps : List Step} {replies : List Reply}

theorem run_performAll_cons (step : Step) (steps : List Step) (d : Desk) :
    (performAll lib random (step :: steps)).run d =
      (((step.perform lib random).run d).1 ::
          ((performAll lib random steps).run ((step.perform lib random).run d).2).1,
        ((performAll lib random steps).run ((step.perform lib random).run d).2).2) := rfl

/-- Steps one after the other keep what is true of a desk. -/
theorem holds_performAll (hd : d.Holds settings ts)
    (h : (performAll lib random steps).run d = (replies, d')) :
    replies.length = steps.length ∧
      d'.Holds settings (ts ++ (steps.zip replies).flatMap (Done.templates settings)) ∧
      ∀ name, d'.book.backend.function? name =
        ((steps.zip replies).reverse.findSome? (Done.function? name)).or
          (d.book.backend.function? name) := by
  induction steps generalizing d ts replies with
  | nil =>
    cases h
    exact ⟨rfl, by simpa using hd, by simp⟩
  | cons step steps ih =>
    have hstep := @does_perform lib random step d
    rw [run_performAll_cons] at h
    generalize (step.perform lib random).run d = first at hstep h
    obtain ⟨reply, d₁⟩ := first
    generalize hrest : (performAll lib random steps).run d₁ = rest at h
    obtain ⟨replies', d₂⟩ := rest
    cases h
    obtain ⟨hlength, hholds, hfunction⟩ := ih (hd.does hstep) hrest
    refine ⟨by simp [hlength], by simpa using hholds, fun name => ?_⟩
    rw [hfunction, hstep.function? name]
    simp [List.findSome?_append, Option.or_assoc]

/-- **The history of a book.**  After any steps, whether they have succeeded or failed,

* the templates are those that the successful steps have brought, in the order of the steps;
* a name stands for the function that has been registered for it last;

and of the step that comes next

* if it fails, the templates and the functions stay as they are;
* documents are added if all of them can be read and no name is taken;
* an evaluation gives what an evaluator made from scratch would give, and leaves the random source
  where that would leave it. -/
theorem performAll_history {backend : Backend}
    (h : (performAll lib random steps).run (.start (.empty settings backend)) = (replies, d)) :
    let done : List Done := steps.zip replies
    let ts := done.flatMap (Done.templates settings)
    replies.length = steps.length ∧
      d.book.templates.templates = ts ∧
      (∀ name, d.book.backend.function? name =
        (done.reverse.findSome? (Done.function? name)).or (backend.function? name)) ∧
      ∀ (step : Step) (reply : Reply) (d' : Desk), (step.perform lib random).run d = (reply, d') →
        (∀ f, reply = .error f →
          d'.book.templates = d.book.templates ∧ d'.book.backend = d.book.backend) ∧
        (∀ source, step = Step.add source → (reply = .ok none ↔
          ∃ new, source.offers settings = .ok new ∧ ((ts ++ new).map (·.name)).Nodup)) ∧
        ∀ name scope, step = Step.evaluate name scope →
          ∃ c, Catalog.ofList ts = .ok c ∧
            (Evaluator.evaluate ⟨c, d.book.engine lib, random⟩ name scope).outcome
                { Session.fresh with choices := d.session.choices } = reply ∧
              ((Evaluator.evaluate ⟨c, d.book.engine lib, random⟩ name scope).final
                { Session.fresh with choices := d.session.choices }).choices =
                d'.session.choices := by
  obtain ⟨hlength, hholds, hfunction⟩ := holds_performAll (.start settings backend) h
  rw [List.nil_append] at hholds
  refine ⟨hlength, hholds.templates, hfunction, fun step reply d' hrun => ?_⟩
  have hstep := @does_perform lib random step d
  rw [hrun] at hstep
  refine ⟨?_, ?_, ?_⟩
  · rintro f rfl
    exact hstep.failed
  · rintro source rfl
    exact hstep.add_ok_iff hholds
  · rintro name scope rfl
    exact hstep.evaluate_fresh hholds

/-- A choice, a name that is taken, a function that has none, and a document that refers to the
first one: the evaluation after them goes on with the second choice. -/
theorem performAll_history_refused :
    ∃ (steps : List Step) (replies : List Reply) (d d' : Desk) (reply : Reply) (c : Catalog),
      steps = [.add (.text "1" "#a\n- x\n- y".toList), .evaluate "a" .null,
        .add (.text "2" "#a\n- z".toList), .register "9" (.function "f"),
        .add (.text "3" "#b\n- [a]".toList)] ∧
      (performAll .empty (fun turn _ => turn) steps).run
        (.start (.empty .standard (.standard []))) = (replies, d) ∧
      replies.map Except.toOption = [some none, some (some "x".toList), none, none, some none] ∧
      ((evaluate "b" .null).perform .empty (fun turn _ => turn)).run d =
        (reply, d') ∧
      reply.toOption = some (some "y".toList) ∧
      Catalog.ofList d.book.templates.templates = .ok c ∧
      (Evaluator.evaluate ⟨c, d.book.engine .empty, fun turn _ => turn⟩ "b"
        .null).outcome { Session.fresh with choices := d.session.choices } = reply := by
  have hrun := @performAll_history .standard _ .empty (fun turn _ => turn)
    [.add (.text "1" "#a\n- x\n- y".toList), .evaluate "a" .null,
      .add (.text "2" "#a\n- z".toList), .register "9" (.function "f"),
      .add (.text "3" "#b\n- [a]".toList)] _ (.standard []) (Prod.eta _).symm
  obtain ⟨-, htemplates, -, hnext⟩ := hrun
  obtain ⟨-, -, hevaluate⟩ := hnext (.evaluate "b" .null) _ _ (Prod.eta _).symm
  obtain ⟨c, hc, houtcome, -⟩ := hevaluate "b" .null rfl
  rw [← htemplates] at hc
  exact ⟨_, _, _, _, _, c, rfl, (Prod.eta _).symm, by decide +kernel, (Prod.eta _).symm,
    by decide +kernel, hc, houtcome⟩

end Step

end Phrasebook
