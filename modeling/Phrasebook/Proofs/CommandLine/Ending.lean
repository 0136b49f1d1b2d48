import Phrasebook.CommandLine.Run
import Phrasebook.Proofs.Rendering.Failing
import Phrasebook.Proofs.Settings.Faults

/-!
# How a run ends

The work of an invocation goes through four stages: settings, scope, documents and evaluation.  What
goes wrong in one of them ends the run.  Errors of the language and faults of the file system are
printed, and so is a message about a scope that is none; but each stage may end in faults of other
kinds, of which nothing is made.  What comes of the work is handed to a console, of which nothing is
known: over a result it may raise a fault, which is printed as well if it is one of the file system,
and over an error message it may raise one, of which nothing is made either.

* `result`: what comes of an invocation, or the stage that ends it;
* `Stage.kinds`: the kinds of fault that a stage ends in;
* `comes_perform`, `result_fails`: the work of an invocation;
* `run_ends`: every run of the program.
-/

namespace Phrasebook.CommandLine

/-! ## What comes of an invocation -/

/-- The stages of the work. -/
inductive Stage where
  | settings
  | scope
  | documents
  | evaluation
  deriving DecidableEq, Repr

namespace Stage

/-- The kinds of fault that a stage ends in. -/
def kinds : Stage → List FaultKind
  | settings => FaultKind.ofFiles ++ [.value, .decoding, .overflow]
  | scope => FaultKind.ofFiles ++ [.value, .decoding]
  | documents => FaultKind.ofFiles ++ [.value, .lookup, .decoding, .byteOrder, .key]
  | evaluation => [.value, .memory]

/-- An outcome, with the stage where there is trouble. -/
def of {α : Type} (stage : Stage) (x : Except Trouble α) : Except (Stage × Trouble) α :=
  x.mapError fun trouble => (stage, trouble)

/-- A result, with the stage where it is a failure. -/
def ofFailure {α : Type} (stage : Stage) (x : Except Failure α) : Except (Stage × Trouble) α :=
  stage.of (x.mapError .failure)

end Stage

/-- The settings of an invocation. -/
def loaded (host : Host) (i : Invocation) : Except Failure Settings :=
  Settings.load host.files ⟨[], []⟩ (i.config.map Path.ofText) host.environment

/-- The scope that is given. -/
def givenScope (host : Host) (scope scopeFile : Option Text) : Except Trouble Value :=
  ((readScope host scope scopeFile).run .empty).1

/-- The templates of the documents at a path. -/
def catalogAt (files : Files) (settings : Settings) (path : Text) : Except Failure Catalog := do
  let templates ← (Source.path files (Path.ofText path)).offers settings
  (Catalog.ofList templates).mapError .template

/-- **What comes of an invocation** when no module of functions is used: what is to be printed, if
anything is, or trouble at some stage. -/
def result (host : Host) (i : Invocation) : Except (Stage × Trouble) (Option Print) := do
  let settings ← Stage.settings.ofFailure (loaded host i)
  match i.command with
  | .render path template scope scopeFile seed =>
    let scope ← Stage.scope.of (givenScope host scope scopeFile)
    let seed := if seed.isSome then seed else settings.seed
    let catalog ← Stage.documents.ofFailure (catalogAt host.files settings path)
    let ev : Evaluator := ⟨catalog, .sandboxed host.library [], host.random seed⟩
    let text? ← Stage.evaluation.ofFailure ((ev.evaluate template scope).outcome .fresh)
    return text?.map .text
  | .list path =>
    let catalog ← Stage.documents.ofFailure (catalogAt host.files settings path)
    return some (.table (table path catalog.templates))

/-! ## The failures of each stage -/

/-- Trouble that a stage may end in. -/
def Stage.Expects : Stage → Trouble → Prop
  | stage, .badScope _ => stage = .scope
  | stage, .failure f => f.IsAmong stage.kinds

/-- The result is right, or such trouble. -/
abbrev Expected {α : Type} (x : Except (Stage × Trouble) α) : Prop :=
  FailsIn (fun e => e.1.Expects e.2) x

theorem expected_of {α : Type} {stage : Stage} {x : Except Trouble α}
    (h : FailsIn stage.Expects x) : Expected (stage.of x) := .mapError h fun _ htrouble => htrouble

theorem expected_ofFailure {α : Type} {stage : Stage} {x : Except Failure α}
    (h : Among stage.kinds x) : Expected (stage.ofFailure x) :=
  expected_of (.mapError h fun _ hf => hf)

theorem scopeOf_fails (origin text : Text) (r : Report) :
    FailsIn Stage.scope.Expects ((scopeOf origin text).run r).1 := by
  unfold scopeOf
  split
  · exact .ok _
  · rename_i f hf
    have hkind := Json.read_fails text hf
    exact .error (show f.kind ∈ _ by rw [hkind]; decide)
  · exact .error rfl

theorem givenScope_fails (host : Host) (scope scopeFile : Option Text) :
    FailsIn Stage.scope.Expects (givenScope host scope scopeFile) := by
  unfold givenScope readScope
  split
  · exact .error rfl
  · rename_i file
    have hread := among_orFail (host.files.readText_utf8_fails (Path.ofText file))
    cases htext : Fault.orFail (host.files.readText "utf-8" (Path.ofText file)) with
    | ok text => exact scopeOf_fails file text .empty
    | error f => exact .error (hread f htext)
  · exact scopeOf_fails _ _ _
  · exact .ok _

theorem catalogAt_fails (files : Files) (settings : Settings) (path : Text) :
    Among Stage.documents.kinds (catalogAt files settings path) := by
  refine .bind ((Source.offers_fails settings _).mono (by decide)) fun templates => ?_
  cases Catalog.ofList templates with
  | ok c => exact .ok c
  | error e => exact among_template e

/-- **What ends the work**: a scope that is none, an error of the language, or a fault of a kind that
the stage knows. -/
theorem result_fails (host : Host) (i : Invocation) : Expected (result host i) := by
  refine .bind (expected_ofFailure (Settings.load_fails _ _ _ _)) fun settings => ?_
  have hcatalog : ∀ path, Expected (Stage.documents.ofFailure (catalogAt host.files settings path)) :=
    fun path => expected_ofFailure (catalogAt_fails host.files settings path)
  split
  · refine .bind (expected_of (givenScope_fails host _ _)) fun sc => ?_
    refine .bind (hcatalog _) fun catalog => .bind (expected_ofFailure ?_) fun _ => .ok _
    exact Evaluator.evaluate_sandboxed_fails _ _ _ _ _ _
  · exact .bind (hcatalog _) fun catalog => .ok _

/-! ## Work that prints nothing -/

namespace Work

variable {α β : Type}

/-- Work that comes to an outcome and prints nothing. -/
def Quietly (w : Work α) (x : Except Trouble α) : Prop :=
  ∀ r : Report, (w.run r).1 = x ∧ (w.run r).2.printed = r.printed

theorem Quietly.bind {w : Work α} {f : α → Work β} {x : Except Trouble α}
    {y : α → Except Trouble β} (hw : w.Quietly x) (hf : ∀ a, (f a).Quietly (y a)) :
    (w >>= f).Quietly (x >>= y) := by
  intro r
  obtain ⟨hx, hprinted⟩ := hw r
  rw [run_bind]
  cases hrun : w.run r with
  | mk outcome r' =>
    rw [hrun] at hx hprinted
    subst hx
    cases outcome with
    | error trouble => exact ⟨rfl, hprinted⟩
    | ok a =>
      obtain ⟨hy, hprinted'⟩ := hf a r'
      exact ⟨hy, hprinted'.trans hprinted⟩

theorem quietly_pure (a : α) : Quietly (pure a) (.ok a) := fun _ => ⟨rfl, rfl⟩

theorem quietly_throw (trouble : Trouble) : (throw trouble : Work α).Quietly (.error trouble) :=
  fun _ => ⟨rfl, rfl⟩

theorem quietly_modify {f : Report → Report} (hf : ∀ r : Report, (f r).printed = r.printed) :
    Quietly (modify f) (.ok ⟨⟩) := fun r => ⟨rfl, hf r⟩

theorem quietly_ofExcept (x : Except Failure α) : (ofExcept x).Quietly (x.mapError .failure) := by
  cases x with
  | ok a => exact quietly_pure a
  | error f => exact quietly_throw _

theorem quietly_load {reading : Load α} {x : Except Failure α} (h : reading.Gives x) :
    (load reading).Quietly (x.mapError .failure) := by
  obtain ⟨records, hrun⟩ := h
  intro r
  have hload : (load reading).run r = (ofExcept x).run { r with log := r.log ++ records } := by
    show (ofExcept (reading.run r.log).1).run { r with log := (reading.run r.log).2 } = _
    rw [hrun]
  rw [hload]
  exact quietly_ofExcept x _

theorem quietly_evaluate (evaluation : Evaluation α) :
    (evaluate evaluation).Quietly ((evaluation.outcome .fresh).mapError .failure) :=
  fun _ => quietly_ofExcept _ _

end Work

open Work

theorem quietly_scopeOf (origin text : Text) :
    (scopeOf origin text).Quietly ((scopeOf origin text).run .empty).1 := by
  unfold scopeOf
  split
  · exact quietly_pure _
  · exact quietly_throw _
  · exact quietly_throw _

theorem quietly_readScope (host : Host) (scope scopeFile : Option Text) :
    (readScope host scope scopeFile).Quietly (givenScope host scope scopeFile) := by
  unfold givenScope readScope
  split
  · exact quietly_throw _
  · rename_i file
    cases Fault.orFail (host.files.readText "utf-8" (Path.ofText file)) with
    | ok text => exact quietly_scopeOf file text
    | error f => exact quietly_throw _
  · exact quietly_scopeOf _ _
  · exact quietly_pure _

/-- The book that holds the templates of a catalog. -/
def bookOf (settings : Settings) (c : Catalog) : Book :=
  ⟨settings, .standard [], c.templates, c, none⟩

theorem add_empty (settings : Settings) (templates : List Template) :
    (Book.empty settings (.standard [])).add templates =
      ((Catalog.ofList templates).mapError .template).map (bookOf settings) := by
  rw [Book.add_eq, show (Book.empty settings (.standard [])).added ++ templates = templates from rfl]
  cases hc : Catalog.ofList templates with
  | error e => rfl
  | ok c =>
    obtain rfl := Catalog.ofList_iff.1 hc
    rfl

theorem gives_addPath (files : Files) (settings : Settings) (path : Text) :
    ((Book.empty settings (.standard [])).addPath files (Path.ofText path)).Gives
      ((catalogAt files settings path).map (bookOf settings)) := by
  let source := Source.path files (Path.ofText path)
  have hadd := Book.gives_addLoaded (@Source.gives_load settings source)
    (.empty settings (.standard []))
  have hcatalog : (source.offers settings >>= (Book.empty settings (.standard [])).add) =
      (catalogAt files settings path).map (bookOf settings) := by
    rw [catalogAt]
    cases source.offers settings with
    | error f => rfl
    | ok templates => exact add_empty settings templates
  rwa [hcatalog] at hadd

theorem quietly_openBook (host : Host) {settings : Settings}
    (hmodule : settings.functionsModule = none) (seed : Option Int) (path : Text) :
    (openBook host settings seed path).Quietly
      (((catalogAt host.files settings path).map (bookOf settings)).mapError .failure) := by
  have hload := quietly_load (gives_addPath host.files settings path)
  have hseed : Quietly (modify fun r => { r with seeds := r.seeds ++ [seed] }) (.ok ⟨⟩) :=
    quietly_modify fun _ => rfl
  unfold openBook
  rw [hmodule]
  exact hseed.bind fun _ => hload

/-! ## The work of an invocation -/

namespace Work

/-- Work that prints what comes of it, if anything does, or prints nothing because of trouble at some
stage. -/
def Comes (console : Console) (w : Work Unit) (x : Except (Stage × Trouble) (Option Print)) : Prop :=
  ∀ r : Report, match x with
    | .ok none => (w.run r).1 = .ok () ∧ (w.run r).2.printed = r.printed
    | .ok (some p) =>
      (w.run r).1 = (Fault.orFail (console.takes p)).mapError .failure ∧
        (w.run r).2.printed = r.printed ++ [p]
    | .error (_, trouble) => (w.run r).1 = .error trouble ∧ (w.run r).2.printed = r.printed

variable {α : Type} {console : Console} {w : Work α} {f : α → Work Unit}

theorem comes_print (console : Console) (p : Print) :
    (print console p).Comes console (.ok (some p)) := by
  intro r
  show ((ofExcept _).run { r with printed := r.printed ++ [p] }).1 = _ ∧ _
  exact quietly_ofExcept _ _

theorem Comes.of_quietly {w : Work Unit} (h : w.Quietly (.ok ())) : w.Comes console (.ok none) := h

theorem Comes.bind (stage : Stage) {x : Except Trouble α}
    {y : α → Except (Stage × Trouble) (Option Print)} (hw : w.Quietly x)
    (hf : ∀ a, x = .ok a → (f a).Comes console (y a)) :
    (w >>= f).Comes console (stage.of x >>= y) := by
  intro r
  obtain ⟨hx, hprinted⟩ := hw r
  rw [run_bind]
  cases hrun : w.run r with
  | mk outcome r' =>
    rw [hrun] at hx hprinted
    subst hx
    cases outcome with
    | error trouble => exact ⟨rfl, hprinted⟩
    | ok a =>
      have hrest := hf a rfl r'
      rw [show r'.printed = r.printed from hprinted] at hrest
      exact hrest

theorem Comes.before {x : Except (Stage × Trouble) (Option Print)} {a : α}
    (hw : w.Quietly (.ok a)) (hf : (f a).Comes console x) : (w >>= f).Comes console x :=
  Comes.bind .settings (y := fun _ => x) hw fun _ h => by cases h; exact hf

end Work

theorem comes_openBook (host : Host) {settings : Settings}
    (hmodule : settings.functionsModule = none) (seed : Option Int) (path : Text)
    {console : Console} {f : Book → Work Unit}
    {y : Catalog → Except (Stage × Trouble) (Option Print)}
    (hf : ∀ c, (f (bookOf settings c)).Comes console (y c)) :
    (openBook host settings seed path >>= f).Comes console
      (Stage.documents.ofFailure (catalogAt host.files settings path) >>= y) := by
  have hopen := quietly_openBook host hmodule seed path
  cases hc : catalogAt host.files settings path with
  | error e =>
    rw [hc] at hopen
    exact Comes.bind .documents (y := fun _ => .ok none) hopen nofun
  | ok c =>
    rw [hc] at hopen
    exact Comes.before hopen (hf c)

/-- **The work** comes to its result. -/
theorem comes_perform (host : Host) (i : Invocation)
    (hmodule : ∀ settings, loaded host i = .ok settings → settings.functionsModule = none) :
    (perform host i).Comes host.console (result host i) := by
  unfold perform result
  refine Comes.bind _ (quietly_ofExcept (loaded host i)) fun settings hsettings => ?_
  have hnone : settings.functionsModule = none := by
    cases hloaded : loaded host i with
    | error f => rw [hloaded] at hsettings; cases hsettings
    | ok settings' =>
      rw [hloaded] at hsettings
      cases hsettings
      exact hmodule settings hloaded
  refine Comes.before (quietly_modify fun _ => rfl) ?_
  cases i.command with
  | render path template scope scopeFile seed =>
    refine Comes.bind _ (quietly_readScope host scope scopeFile) fun scope _ => ?_
    refine comes_openBook host hnone _ path fun c => ?_
    refine Comes.bind _ (quietly_evaluate _) fun text? _ => ?_
    cases text? with
    | some text => exact comes_print _ _
    | none => exact .of_quietly fun _ => ⟨rfl, rfl⟩
  | list path => exact comes_openBook host hnone _ path fun c => comes_print _ _

/-! ## Runs -/

/-- A run ends in a way and has handed something to the console, thing by thing. -/
structure Ends (host : Host) (args : List Text) (ending : Ending) (printed : List Print) : Prop where
  ending : (run host args).1 = ending
  printed : (run host args).2.printed = printed

/-- After some other things a run prints one error message, and ends with the exit code unless the
console raises a fault over it. -/
def Complains (host : Host) (args : List Text) (before : List Print) (message : Text) (code : Nat) :
    Prop :=
  Ends host args (.after code (host.console.takes (.error message))) (before ++ [.error message])

/-- What becomes of a fault after some things were printed: one of the file system is printed, and any
other ends the run. -/
def FaultEnds (host : Host) (args : List Text) (before : List Print) (f : Fault) : Prop :=
  if f.kind.isFileFault then Complains host args before f.message 1
  else Ends host args (.failed (.fault f)) before

variable {host : Host} {args : List Text} {i : Invocation} {r : Report}

theorem ends_of_eq {ending : Ending} (h : run host args = (ending, r)) :
    Ends host args ending r.printed := ⟨by rw [h], by rw [h]⟩

theorem ends_of_ok (hread : Invocation.read args = .ok i)
    (hwork : (perform host i).run .empty = (.ok (), r)) : Ends host args (.exit 0) r.printed := by
  refine ends_of_eq ?_
  unfold run
  simp only [hread, hwork]

theorem run_of_error {trouble : Trouble} (hread : Invocation.read args = .ok i)
    (hwork : (perform host i).run .empty = (.error trouble, r)) :
    run host args = settle host.console r trouble := by
  unfold run
  simp only [hread, hwork]

theorem complains_of_eq {message : Text} {code : Nat}
    (h : run host args = complain host.console r message code) :
    Complains host args r.printed message code := ends_of_eq h

theorem faultEnds_of_error {f : Fault} (hread : Invocation.read args = .ok i)
    (hwork : (perform host i).run .empty = (.error (.failure (.fault f)), r)) :
    FaultEnds host args r.printed f := by
  have hrun := run_of_error hread hwork
  unfold settle at hrun
  unfold FaultEnds
  dsimp only at hrun
  split
  · rename_i hfile
    rw [if_pos hfile] at hrun
    exact complains_of_eq hrun
  · rename_i hfile
    rw [if_neg hfile] at hrun
    exact ends_of_eq hrun

/-- **How a run ends**, for an invocation without a module of functions.

* If nothing goes wrong at any stage, what comes of the work is handed to the console, once or not at
  all, and nothing else is; the exit code is 0 if the console takes it.
* A scope that is none is told in one error message, with exit code 2, and so is an error of the
  language or of the file system, with exit code 1; nothing else is handed to the console.
* Any other fault, of a kind that the stage is known for, ends the run without an exit code and
  without a message.
* A fault that the console raises over the result is treated like those of the stages, and one that it
  raises over an error message ends the run. -/
theorem run_ends (host : Host) {args : List Text} {i : Invocation}
    (hread : Invocation.read args = .ok i)
    (hmodule : ∀ settings, loaded host i = .ok settings → settings.functionsModule = none) :
    match result host i with
    | .ok none => Ends host args (.exit 0) []
    | .ok (some p) =>
      (host.console.takes p = .ok () → Ends host args (.exit 0) [p]) ∧
        ∀ f, host.console.takes p = .error f → FaultEnds host args [p] f
    | .error (stage, .badScope message) => stage = .scope ∧ Complains host args [] message 2
    | .error (_, .failure (.template e)) => Complains host args [] e.format 1
    | .error (stage, .failure (.fault f)) => f.kind ∈ stage.kinds ∧ FaultEnds host args [] f
    | .error (_, .failure _) => False := by
  have hcomes := comes_perform host i hmodule .empty
  have hfails := result_fails host i
  cases hwork : (perform host i).run .empty with
  | mk outcome r =>
    rw [hwork] at hcomes
    cases hresult : result host i with
    | ok printed? =>
      rw [hresult] at hcomes
      cases printed? with
      | none =>
        obtain ⟨rfl, hprinted⟩ := hcomes
        have hnone : r.printed = [] := hprinted
        show Ends host args (.exit 0) []
        exact hnone ▸ ends_of_ok hread hwork
      | some p =>
        obtain ⟨houtcome, hprinted⟩ := hcomes
        have hone : r.printed = [p] := hprinted
        refine ⟨fun htaken => ?_, fun f hraised => ?_⟩
        · rw [htaken] at houtcome
          cases houtcome
          exact hone ▸ ends_of_ok hread hwork
        · rw [hraised] at houtcome
          cases houtcome
          exact hone ▸ faultEnds_of_error hread hwork
    | error trouble =>
      obtain ⟨stage, trouble⟩ := trouble
      rw [hresult] at hcomes
      obtain ⟨rfl, hprinted⟩ := hcomes
      have hnone : r.printed = [] := hprinted
      have hstage : stage.Expects trouble := hfails _ hresult
      have hrun := run_of_error hread hwork
      cases trouble with
      | badScope message => exact ⟨hstage, hnone ▸ complains_of_eq hrun⟩
      | failure f =>
        cases f with
        | template e =>
          show Complains host args [] e.format 1
          exact hnone ▸ complains_of_eq hrun
        | refused message => exact hstage
        | unwritable kind => exact hstage
        | fault f => exact ⟨hstage, hnone ▸ faultEnds_of_error hread hwork⟩

/-- The host with some files and a plain console. -/
def Host.ofFiles (entries : List (Text × Entry)) : Host :=
  ⟨(FileTree.mk entries).files, [], [], .empty, fun _ _ _ => 0, .plain⟩

/-- The greeting is rendered to the console. -/
theorem run_ends_greeting :
    let host := Host.ofFiles [("b.lg", .file ("#greet\n- hi".toList.map (·.toNat)))]
    let i : Invocation := ⟨none, none, .render "b.lg" "greet" none none none⟩
    Invocation.read ["render", "b.lg", "greet"] = .ok i ∧
      (∀ settings, loaded host i = .ok settings → settings.functionsModule = none) ∧
      result host i = .ok (some (.text "hi")) ∧
      Ends host ["render", "b.lg", "greet"] (.exit 0) [.text "hi"] ∧
      (run host ["render", "b.lg", "greet"]).2.output host.console = "hi\n" := by
  intro host i
  have hread : Invocation.read ["render", "b.lg", "greet"] = .ok i := by rfl
  have hloaded : loaded host i = .ok .standard := by rfl
  have hmodule : ∀ settings, loaded host i = .ok settings → settings.functionsModule = none := by
    intro settings hsettings
    rw [hloaded] at hsettings
    cases hsettings
    rfl
  have hresult : result host i = .ok (some (.text "hi")) := by
    have hgiven : (result host i).toOption = some (some (.text "hi".toList)) := by decide +kernel
    cases hresult : result host i with
    | error trouble => rw [hresult] at hgiven; cases hgiven
    | ok given => rw [hresult] at hgiven; exact congrArg Except.ok (Option.some.inj hgiven)
  have hall := run_ends host hread hmodule
  rw [hresult] at hall
  have hends := hall.1 rfl
  refine ⟨hread, hmodule, hresult, hends, ?_⟩
  rw [Report.output, hends.printed]
  rfl

/-- Bytes that are no text: no message tells of a document, a scope file or a settings file with them,
and the run ends without an exit code. -/
theorem run_undecodable :
    let greeting := "#greet\n- hi".toList.map (·.toNat)
    let host := Host.ofFiles [("b.lg", .file greeting), ("a.lg", .file [0xff]),
      ("s.json", .file [0xff]), ("c.json", .file [0xff])]
    ∀ args ∈ ([["list", "a.lg"], ["render", "b.lg", "greet", "--scope-file", "s.json"],
        ["--config", "c.json", "list", "b.lg"]] : List (List Text)),
      (∃ i, Invocation.read args = .ok i ∧
          ∀ settings, loaded host i = .ok settings → settings.functionsModule = none) ∧
        (∃ message, (run host args).1 = .failed (.fault ⟨.decoding, message⟩)) ∧
        (run host args).2.printed = [] := by
  intro greeting host args hargs
  simp only [List.mem_cons, List.not_mem_nil, or_false] at hargs
  rcases hargs with rfl | rfl | rfl
  · refine ⟨⟨_, rfl, ?_⟩, ⟨_, rfl⟩, rfl⟩
    rintro settings ⟨⟩
    rfl
  · refine ⟨⟨_, rfl, ?_⟩, ⟨_, rfl⟩, rfl⟩
    rintro settings ⟨⟩
    rfl
  · refine ⟨⟨_, rfl, ?_⟩, ⟨_, rfl⟩, rfl⟩
    rintro settings ⟨⟩

end Phrasebook.CommandLine
