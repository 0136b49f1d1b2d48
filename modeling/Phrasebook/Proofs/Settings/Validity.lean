import Phrasebook.Proofs.Settings.Documents
import Phrasebook.Proofs.Value.Faults

/-!
# Which documents give settings

A document that holds what JSON can hold gives settings or is rejected as invalid, and which of the
two can be told from the form of its values: endings are a text or a list that is not empty, a level
is told by its name in any letter case, and a seed is a whole number, a text that spells one, or
nothing.  Doubles are the exception: as a seed a double is cut to its whole part, and an infinite one
ends in a fault of another kind.

* `Value.IsJson`: the values of JSON documents;
* `Settings.IsLevelName`, `Settings.Seeds`: what levels and seeds are told by;
* `Settings.readSeed_eq_ok_iff`, `Settings.readLevel_eq_error`: what each setting is read from;
* `Settings.ofDocument_outcome`: what becomes of a document.
-/

namespace Phrasebook

/-! ## Letter case -/

namespace Text

theorem lowerChar_of_not_alpha {c : Char} (hascii : c.toNat < 128) (hletter : c.isAlpha = false) :
    lowerChar c = [c] := by
  have hupper : c.isUpper = false := (Bool.or_eq_false_iff.1 hletter).1
  have hlower : c.toLower = c := dif_neg (of_decide_eq_false hupper)
  rw [lowerChar, if_pos hascii, hlower]

/-- Signs and digits stay when a text is put in small letters. -/
theorem mem_toLower {c : Char} {t : Text} (hascii : c.toNat < 128) (hletter : c.isAlpha = false)
    (h : c ∈ t) : c ∈ toLower t := by
  have hafter : ∀ before, c ∈ lowerAfter before t := by
    induction t with
    | nil => cases h
    | cons d rest ih =>
      intro before
      rw [lowerAfter, List.mem_append]
      rcases List.mem_cons.1 h with rfl | h
      · have hsigma : (c == 'Σ') = false := by
          refine beq_eq_false_iff_ne.2 ?_
          rintro rfl
          exact absurd hascii (by decide)
        rw [lowerBetween, hsigma, lowerChar_of_not_alpha hascii hletter]
        exact .inl (List.mem_singleton_self c)
      · exact .inr (ih h _)
  exact hafter []

end Text

/-! ## JSON values -/

namespace Value

/-- **The values of JSON documents**, with integers of any size, and doubles that may be infinite or
no number. -/
inductive IsJson : Value → Prop
  | null : IsJson .null
  | bool (b : Bool) : IsJson (.bool b)
  | int (n : Int) : IsJson (.int n)
  | float (x : Float) : IsJson (.float x)
  | text (t : Text) : IsJson (.text t)
  | list {items : List Value} (h : ∀ v ∈ items, IsJson v) : IsJson (.list items)
  | dict {entries : List (Value × Value)} (hkeys : ∀ e ∈ entries, ∃ t, e.1 = .text t)
      (hvalues : ∀ e ∈ entries, IsJson e.2) : IsJson (.dict entries)

theorem mem_of_lookupName? {entries : List (Value × Value)} {name : Text} {v : Value}
    (h : lookupName? entries name = some v) : ∃ e ∈ entries, e.2 = v := by
  induction entries with
  | nil => cases h
  | cons e rest ih =>
    obtain ⟨key, w⟩ := e
    have hrest : lookupName? rest name = some v → ∃ e ∈ (key, w) :: rest, e.2 = v := by
      intro h
      obtain ⟨e, he, hv⟩ := ih h
      exact ⟨e, List.mem_cons_of_mem _ he, hv⟩
    unfold lookupName? at h
    split at h
    · cases ‹_ = _›
    · rename_i heq
      cases heq
      split at h
      · cases h
        exact ⟨_, List.mem_cons_self, rfl⟩
      · exact hrest h
    · rename_i heq
      cases heq
      exact hrest h

theorem IsJson.of_lookupName? {entries : List (Value × Value)} {name : Text} {v : Value}
    (h : IsJson (.dict entries)) (hv : lookupName? entries name = some v) : v.IsJson := by
  obtain ⟨e, he, rfl⟩ := mem_of_lookupName? hv
  cases h with
  | dict _ hvalues => exact hvalues e he

theorem IsJson.own {data : Value} {entries own : List (Value × Value)} (h : data.IsJson)
    (hown : data.HasSettings entries own) : IsJson (.dict own) := by
  rw [← hown.inside]
  cases hsection : lookupName? entries "lgen" with
  | none => exact h
  | some v => exact (hown.mapping ▸ h).of_lookupName? hsection

end Value

namespace Settings

variable {origin : Text} {base s : Settings} {data v : Value} {entries own : List (Value × Value)}

/-! ## Levels -/

/-- A text is the name of a level, in any letter case. -/
def IsLevelName (t : Text) : Prop := Text.toLower t ∈ levelNames.map (·.1)

/-- No name of a level has signs or digits. -/
theorem not_isLevelName_of_mem {c : Char} {t : Text} (hascii : c.toNat < 128)
    (hletter : c.isAlpha = false) (h : c ∈ t) : ¬ IsLevelName t := by
  have hletters : ∀ name ∈ levelNames.map (·.1), name.all Char.isAlpha = true := by decide
  intro hlevel
  have := List.all_eq_true.1 (hletters _ hlevel) c (Text.mem_toLower hascii hletter h)
  rw [hletter] at this
  cases this

theorem exists_digit_mem_ofNat (n : Nat) : ∃ c ∈ Text.ofNat n, c.isDigit = true := by
  rw [Text.ofNat, Nat.toString_eq_ofList_toDigits, String.toList_ofList]
  obtain ⟨c, hc⟩ := List.exists_mem_of_ne_nil _ (Nat.toDigits_ne_nil (n := n) (b := 10))
  exact ⟨c, hc, Nat.isDigit_of_mem_toDigits (by decide) (by decide) hc⟩

theorem ascii_of_isDigit {c : Char} (h : c.isDigit = true) : c.toNat < 128 ∧ c.isAlpha = false := by
  have hrange : 48 ≤ c.toNat ∧ c.toNat ≤ 57 := by
    simpa [Char.isDigit, UInt32.le_iff_toNat_le] using h
  have hupper : c.isUpper = false := by
    refine decide_eq_false fun hletter => ?_
    have : 65 ≤ c.toNat := UInt32.le_iff_toNat_le.1 hletter.1
    omega
  have hlower : c.isLower = false := by
    refine Bool.and_eq_false_iff.2 (.inl (decide_eq_false fun hletter => ?_))
    have : 97 ≤ c.toNat := UInt32.le_iff_toNat_le.1 hletter
    omega
  exact ⟨by omega, Bool.or_eq_false_iff.2 ⟨hupper, hlower⟩⟩

theorem not_isLevelName_ofInt (n : Int) : ¬ IsLevelName (Text.ofInt n) := by
  have hmem : ∃ c ∈ Text.ofInt n, c.isDigit = true := by
    cases n with
    | ofNat n => exact exists_digit_mem_ofNat n
    | negSucc n =>
      obtain ⟨c, hc, hdigit⟩ := exists_digit_mem_ofNat (n + 1)
      exact ⟨c, List.mem_cons_of_mem _ hc, hdigit⟩
  obtain ⟨c, hc, hdigit⟩ := hmem
  obtain ⟨hascii, hletter⟩ := ascii_of_isDigit hdigit
  exact not_isLevelName_of_mem hascii hletter hc

theorem point_mem_positional (d : Decimal) : '.' ∈ FloatText.positional ".0" d := by
  unfold FloatText.positional
  dsimp only
  split
  · exact List.mem_append_left _ (List.mem_append_left _ (by decide))
  · split
    · exact List.mem_append_right _ (by decide)
    · exact List.mem_append_right _ List.mem_cons_self

theorem sign_mem_withExponent (d : Decimal) (h : d.digits ≠ []) :
    '+' ∈ FloatText.withExponent false d ∨ '-' ∈ FloatText.withExponent false d := by
  have hexponent : ∀ e, '+' ∈ FloatText.exponentText e ∨ '-' ∈ FloatText.exponentText e := by
    intro e
    unfold FloatText.exponentText
    split
    · exact .inr (by simp)
    · exact .inl (by simp)
  unfold FloatText.withExponent
  split
  · exact absurd ‹_› h
  · exact (hexponent _).imp (List.mem_append_right _) (List.mem_append_right _)
  · exact (hexponent _).imp (List.mem_append_right _) (List.mem_append_right _)

/-- The text of a double has a point or a sign in it, or it is that of an infinity or of no number,
or it has no digits. -/
theorem not_isLevelName_plain (x : Float) : ¬ IsLevelName (FloatText.plain x) := by
  have hsign : FloatText.signText x = "-" ∨ FloatText.signText x = [] := by
    unfold FloatText.signText
    split <;> simp
  have hmark : ∀ {c : Char} {t : Text}, c = '.' ∨ c = '+' ∨ c = '-' → c ∈ t →
      ¬ IsLevelName (FloatText.signText x ++ t) := by
    intro c t hc hmem
    have hboth : c.toNat < 128 ∧ c.isAlpha = false := by
      rcases hc with rfl | rfl | rfl <;> decide
    exact not_isLevelName_of_mem hboth.1 hboth.2 (List.mem_append_right _ hmem)
  have hclosed : ∀ t : Text, t = "nan" ∨ t = "inf" ∨ t = [] →
      ¬ IsLevelName (FloatText.signText x ++ t) := by
    intro t ht
    unfold IsLevelName
    rcases hsign with h | h <;> rcases ht with rfl | rfl | rfl <;> rw [h] <;> decide
  unfold FloatText.plain FloatText.magnitudeText FloatText.shortest FloatText.special?
  split
  · rename_i t hspecial
    refine hclosed t ?_
    split at hspecial
    · cases hspecial
      exact .inl rfl
    · split at hspecial
      · cases hspecial
        exact .inr (.inl rfl)
      · cases hspecial
  · dsimp only
    split
    · by_cases hdigits : (Decimal.shortest x).digits = []
      · refine hclosed _ (.inr (.inr ?_))
        rw [FloatText.withExponent, hdigits]
      · rcases sign_mem_withExponent _ hdigits with h | h
        · exact hmark (.inr (.inl rfl)) h
        · exact hmark (.inr (.inr rfl)) h
    · exact hmark (.inl rfl) (point_mem_positional _)

theorem integerText_eq_ok {n : Int} {t : Text} (h : integerText n = .ok t) : t = Text.ofInt n := by
  unfold integerText at h
  dsimp only at h
  split at h
  · cases h
    rfl
  · split at h
    · cases h
    · cases h
      rfl

/-- Of what JSON can hold only texts are written like the name of a level. -/
theorem not_isLevelName_of_written (hjson : v.IsJson) (htext : ∀ t, v ≠ .text t) {t : Text}
    (h : v.written = .ok t) : ¬ IsLevelName t := by
  cases hjson with
  | null =>
    cases h
    unfold IsLevelName
    decide
  | bool b =>
    cases h
    unfold IsLevelName
    cases b <;> decide
  | int n =>
    exact integerText_eq_ok h ▸ not_isLevelName_ofInt n
  | float x =>
    cases h
    exact not_isLevelName_plain x
  | text t => exact absurd rfl (htext t)
  | list =>
    obtain ⟨parts, -, hparts⟩ := bind_eq_ok_iff.1 h
    cases hparts
    exact not_isLevelName_of_mem (c := '[') (by decide) rfl List.mem_cons_self
  | dict =>
    obtain ⟨parts, -, hparts⟩ := bind_eq_ok_iff.1 h
    cases hparts
    exact not_isLevelName_of_mem (c := '\x7b') (by decide) rfl List.mem_cons_self

/-! ## Rejection -/

/-- What was to be read is told to be invalid, and where it comes from. -/
def Rejected {α : Type} (origin : Text) (x : Except Failure α) : Prop :=
  ∃ message hint, x = .error (invalid origin message hint)

namespace Rejected

variable {α β : Type} {x : Except Failure α}

theorem bind (h : Rejected origin x) (f : α → Except Failure β) : Rejected origin (x >>= f) := by
  obtain ⟨message, hint, rfl⟩ := h
  exact ⟨message, hint, rfl⟩

theorem ne_ok (h : Rejected origin x) (a : α) : x ≠ .ok a := by
  obtain ⟨message, hint, rfl⟩ := h
  nofun

theorem ne_fault (h : Rejected origin x) (f : Fault) : x ≠ .error (.fault f) := by
  obtain ⟨message, hint, rfl⟩ := h
  nofun

end Rejected

/-- The value can be written, which an integer of too many digits cannot. -/
def Writable (v : Value) : Prop := ∃ t, v.quoted = .ok t

theorem Writable.written (h : Writable v) : ∃ t, v.written = .ok t := by
  unfold Value.written
  split
  · exact ⟨_, rfl⟩
  · exact ⟨_, rfl⟩
  · exact h

/-- A rejection tells the value that is rejected. -/
theorem Writable.rejected {α : Type} (h : Writable v) (origin : Text) (message : Text → Text)
    (hint : Option Text) : Rejected origin (do
      throw (invalid origin (message (← Fault.orFail v.quoted)) hint) : Except Failure α) := by
  obtain ⟨t, ht⟩ := h
  rw [ht]
  exact ⟨message t, hint, rfl⟩

theorem Writable.of_list {items : List Value} (h : Writable (.list items)) :
    ∀ item ∈ items, Writable item := by
  have hall : ∀ {items : List Value} {parts}, Value.quotedList items = .ok parts →
      ∀ item ∈ items, Writable item := by
    intro items
    induction items with
    | nil => nofun
    | cons v rest ih =>
      intro parts hparts item hitem
      rw [Value.quotedList] at hparts
      obtain ⟨t, ht, hrest⟩ := bind_eq_ok_iff.1 hparts
      obtain ⟨ts, hts, -⟩ := bind_eq_ok_iff.1 hrest
      rcases List.mem_cons.1 hitem with rfl | hitem
      · exact ⟨t, ht⟩
      · exact ih hts item hitem
  obtain ⟨t, ht⟩ := h
  rw [Value.quoted] at ht
  obtain ⟨parts, hparts, -⟩ := bind_eq_ok_iff.1 ht
  exact hall hparts

/-! ## Single settings -/

/-- **What a seed is told by**: nothing, the empty text, a whole number, a text that spells one in
decimal digits, or a finite double, whose fraction is cut off. -/
inductive Seeds : Value → Option Int → Prop
  | null : Seeds .null none
  | empty : Seeds (.text []) none
  | int (n : Int) : Seeds (.int n) (some n)
  | text {t : Text} {n : Int} (hne : t ≠ []) (h : Value.readInteger 10 t = .ok n) :
      Seeds (.text t) (some n)
  | float {x : Float} (hnumber : x.isNaN = false) (hfinite : x.isInf = false) :
      Seeds (.float x) (some (Binary64.truncate x))

/-- The fault of a double that has no whole part. -/
def infiniteFault : Fault := ⟨.overflow, "cannot convert float infinity to integer"⟩

/-- A double that is infinite. -/
def Infinite (v : Value) : Prop := ∃ x, v = .float x ∧ x.isNaN = false ∧ x.isInf = true

theorem not_infinite_of_isNaN {x : Float} (h : x.isNaN = true) : ¬ Infinite (.float x) := by
  rintro ⟨_, ⟨⟩, hnumber, -⟩
  exact Bool.false_ne_true (hnumber.symm.trans h)

/-- The forms of what endings are read from. -/
def IsEndings (v : Value) : Prop := (∃ t, v = .text t) ∨ ∃ items, v = .list items ∧ items ≠ []

/-- A seed is read, or rejected, or infinite. -/
theorem readSeed_cases (hjson : v.IsJson) (hv : Writable v) (origin : Text) :
    (∃ seed, Seeds v seed ∧ readSeed origin v = .ok seed) ∨
      (∀ seed, ¬ Seeds v seed) ∧ (¬ Infinite v ∧ Rejected origin (readSeed origin v) ∨
        Infinite v ∧ readSeed origin v = .error (.fault infiniteFault)) := by
  unfold readSeed
  extract_lets wrong
  have hwrong : Rejected origin wrong := hv.rejected origin _ none
  cases hjson with
  | null => exact .inl ⟨none, .null, rfl⟩
  | bool b => exact .inr ⟨nofun, .inl ⟨by simp [Infinite], hwrong⟩⟩
  | int n => exact .inl ⟨some n, .int n, rfl⟩
  | float x =>
    simp only [Value.toInteger, Value.wholeOf]
    cases hnumber : x.isNaN with
    | true =>
      refine .inr ⟨?_, .inl ⟨not_infinite_of_isNaN hnumber, hwrong⟩⟩
      rintro _ ⟨⟩
      simp_all
    | false =>
      cases hfinite : x.isInf with
      | true =>
        refine .inr ⟨?_, .inr ⟨⟨x, rfl, hnumber, hfinite⟩, rfl⟩⟩
        rintro _ ⟨⟩
        simp_all
      | false => exact .inl ⟨_, .float hnumber hfinite, rfl⟩
  | text t =>
    cases t with
    | nil => exact .inl ⟨none, .empty, rfl⟩
    | cons c rest =>
      simp only [Value.toInteger]
      cases hread : Value.readInteger 10 (c :: rest) with
      | ok n => exact .inl ⟨_, .text (List.cons_ne_nil c rest) hread, rfl⟩
      | error f =>
        refine .inr ⟨?_, .inl ⟨by simp [Infinite], ?_⟩⟩
        · rintro _ (_ | _ | _ | ⟨-, h⟩)
          rw [hread] at h
          cases h
        · dsimp only
          rw [if_pos (.inr (Value.value_readInteger _ _ f hread))]
          exact hwrong
  | list | dict => exact .inr ⟨nofun, .inl ⟨by simp [Infinite], hwrong⟩⟩

theorem Seeds.unique {seed seed' : Option Int} (h : Seeds v seed) (h' : Seeds v seed') :
    seed = seed' := by
  cases h with
  | text hne hread =>
    cases h' with
    | empty => exact absurd rfl hne
    | text _ hread' => rw [Except.ok.inj (hread.symm.trans hread')]
  | empty =>
    cases h' with
    | empty => rfl
    | text hne _ => exact absurd rfl hne
  | _ => cases h'; rfl

theorem readSeed_eq_ok_iff (hjson : v.IsJson) (hv : Writable v) {seed : Option Int} :
    readSeed origin v = .ok seed ↔ Seeds v seed := by
  rcases readSeed_cases hjson hv origin with ⟨seed', hseed, hread⟩ | ⟨hnone, hfails⟩
  · rw [hread]
    exact ⟨fun h => Except.ok.inj h ▸ hseed, fun h => congrArg _ (hseed.unique h)⟩
  · refine iff_of_false ?_ (hnone seed)
    rcases hfails with ⟨-, hrejected⟩ | ⟨-, hfault⟩
    · exact hrejected.ne_ok seed
    · rw [hfault]
      nofun

theorem Infinite.not_seeds (h : Infinite v) (seed : Option Int) : ¬ Seeds v seed := by
  obtain ⟨x, rfl, -, hinfinite⟩ := h
  rintro ⟨⟩
  simp_all

/-- A level is read from a text that names one, and anything else is rejected. -/
theorem readLevel_cases (hjson : v.IsJson) (hv : Writable v) (origin : Text) :
    ((∃ t, v = .text t ∧ IsLevelName t) ∧ ∃ level, readLevel origin v = .ok level) ∨
      (¬ ∃ t, v = .text t ∧ IsLevelName t) ∧ Rejected origin (readLevel origin v) := by
  obtain ⟨t, ht⟩ := hv.written
  by_cases hlevel : IsLevelName t
  · have htext : ∃ u, v = .text u := by
      by_contra hne
      exact not_isLevelName_of_written hjson (not_exists.1 hne) ht hlevel
    obtain ⟨u, rfl⟩ := htext
    cases ht
    exact .inl ⟨⟨t, rfl, hlevel⟩, _, readLevel_eq_ok_iff.2 ⟨t, rfl, rfl, hlevel⟩⟩
  · refine .inr ⟨?_, ?_⟩
    · rintro ⟨u, rfl, hu⟩
      cases ht
      exact hlevel hu
    · have hunknown : ¬ (levelNamed? (Text.toLower t)).isSome = true :=
        mt (isSome_levelNamed?_iff _).1 hlevel
      unfold readLevel
      rw [ht]
      show Rejected origin (if (levelNamed? (Text.toLower t)).isSome then _ else _)
      rw [if_neg hunknown]
      exact hv.rejected origin _ _

theorem exists_written {items : List Value} (h : ∀ item ∈ items, Writable item) :
    ∃ texts, List.Forall₂ (fun item t => item.written = .ok t) items texts := by
  choose! text htext using fun item hitem => (h item hitem).written
  refine ⟨items.map text, ?_⟩
  rw [List.forall₂_map_right_iff, List.forall₂_same]
  exact htext

/-- Endings are read from a text or a list that is not empty, and anything else is rejected. -/
theorem readExtensions_cases (hjson : v.IsJson) (hv : Writable v) (origin : Text) :
    (IsEndings v ∧ ∃ endings, readExtensions origin v = .ok endings) ∨
      ¬ IsEndings v ∧ Rejected origin (readExtensions origin v) := by
  cases hjson with
  | text t => exact .inl ⟨.inl ⟨t, rfl⟩, _, rfl⟩
  | @list items _ =>
    by_cases hne : items = []
    · subst hne
      exact .inr ⟨by simp [IsEndings], _, _, rfl⟩
    · obtain ⟨texts, htexts⟩ := exists_written hv.of_list
      exact .inl ⟨.inr ⟨items, rfl, hne⟩, _,
        readExtensions_eq_ok_iff.2 ⟨items, texts, .list items, hne, htexts, rfl⟩⟩
  | _ => exact .inr ⟨by simp [IsEndings], _, _, rfl⟩

theorem exists_readModule (hv : Writable v) : ∃ name, readModule v = .ok name := by
  obtain ⟨t, ht⟩ := hv.written
  unfold readModule
  rw [ht]
  cases t with
  | nil => exact ⟨none, rfl⟩
  | cons c rest => exact ⟨some (c :: rest), rfl⟩

/-! ## Whole documents -/

/-- The names of settings. -/
def names : List Text := ["encoding", "extensions", "seed", "log_level", "functions_module"]

/-- **The entries of a section that give settings**, each where it is present: endings are a text or
a list that is not empty, the level is a text that names one, and the seed tells one. -/
structure Valid (own : List (Value × Value)) : Prop where
  extensions : ∀ v, Value.lookupName? own "extensions" = some v → IsEndings v
  seed : ∀ v, Value.lookupName? own "seed" = some v → ∃ seed, Seeds v seed
  logLevel : ∀ v, Value.lookupName? own "log_level" = some v → ∃ t, v = .text t ∧ IsLevelName t

/-- Endings that are well-formed beside an infinite seed. -/
structure Overflows (own : List (Value × Value)) : Prop where
  extensions : ∀ v, Value.lookupName? own "extensions" = some v → IsEndings v
  seed : ∃ v, Value.lookupName? own "seed" = some v ∧ Infinite v

section

variable {α : Type} {name : Text} {read : Value → Except Failure α} {P Q : Value → Prop}

theorem exists_setting {default : α}
    (h : ∀ v, Value.lookupName? own name = some v → ∃ a, read v = .ok a) :
    ∃ a, setting own name default read = .ok a := by
  cases hv : Value.lookupName? own name with
  | none => exact ⟨default, setting_of_none hv _ _⟩
  | some v => exact (h v hv).imp fun _ ha => (setting_of_some hv _ _).trans ha

/-- A setting that is absent or of the form `P` has a value; else it fails as its value does. -/
theorem setting_cases (default : α) (h : ∀ v, Value.lookupName? own name = some v →
    P v ∧ (∃ a, read v = .ok a) ∨ ¬ P v ∧ Q v) :
    ((∀ v, Value.lookupName? own name = some v → P v) ∧
        ∃ a, setting own name default read = .ok a) ∨
      ∃ v, Value.lookupName? own name = some v ∧ ¬ P v ∧ Q v ∧
        setting own name default read = read v := by
  cases hv : Value.lookupName? own name with
  | none => exact .inl ⟨nofun, default, setting_of_none hv _ _⟩
  | some v =>
    rw [setting_of_some hv]
    refine (h v hv).imp (fun hread => ⟨?_, hread.2⟩) fun hfails => ⟨v, rfl, hfails.1, hfails.2, rfl⟩
    rintro _ ⟨⟩
    exact hread.1

end

theorem Valid.not_overflows (h : Valid own) : ¬ Overflows own := by
  rintro ⟨-, v, hv, hinfinite⟩
  obtain ⟨seed, hseed⟩ := h.seed v hv
  exact hinfinite.not_seeds seed hseed

/-- **What becomes of the settings in a section.** -/
theorem ofDocument_cases (hjson : data.IsJson) (hdata : data.HasSettings entries own)
    (hown : ∀ name ∈ names, ∀ v, Value.lookupName? own name = some v → Writable v)
    (origin : Text) (base : Settings) :
    (Valid own ∧ ∃ s, ofDocument origin base data = .ok s) ∨
      (¬ Valid own ∧ ¬ Overflows own ∧ Rejected origin (ofDocument origin base data)) ∨
      ¬ Valid own ∧ Overflows own ∧ ofDocument origin base data = .error (.fault infiniteFault) := by
  have hvalue : ∀ name v, Value.lookupName? own name = some v → v.IsJson :=
    fun name v hv => (hjson.own hdata).of_lookupName? hv
  obtain ⟨rfl, hinside⟩ := hdata
  obtain ⟨encoding, hencoding⟩ : ∃ t, setting own "encoding" base.encoding
      (fun v => Fault.orFail v.written) = .ok t :=
    exists_setting fun v hv => (hown "encoding" (by decide) v hv).written.imp fun _ =>
      orFail_eq_ok_iff.2
  obtain ⟨functions, hfunctions⟩ : ∃ t,
      setting own "functions_module" base.functionsModule readModule = .ok t :=
    exists_setting fun v hv => exists_readModule (hown "functions_module" (by decide) v hv)
  have hextensions := setting_cases base.extensions fun v hv =>
    readExtensions_cases (hvalue _ v hv) (hown "extensions" (by decide) v hv) origin
  have hseed := setting_cases base.seed fun v hv =>
    (readSeed_cases (hvalue _ v hv) (hown "seed" (by decide) v hv) origin).imp
      (fun ⟨seed, hseed, hread⟩ => And.intro (Exists.intro seed hseed) ⟨seed, hread⟩)
      (And.imp_left not_exists.2)
  have hlevel := setting_cases base.logLevel fun v hv =>
    readLevel_cases (hvalue _ v hv) (hown "log_level" (by decide) v hv) origin
  simp only [ofDocument, hinside, hencoding]
  rcases hextensions with ⟨hvalid, endings, hextensions⟩ | ⟨v, hv, hform, hrejected, hfails⟩
  · rcases hseed with ⟨hvalid', seed, hseed⟩ | ⟨v, hv, hform, hfault, hfails⟩
    · simp only [hextensions, hseed]
      rcases hlevel with ⟨hvalid'', level, hlevel⟩ | ⟨v, hv, hform, hrejected, hfails⟩
      · refine .inl ⟨⟨hvalid, hvalid', hvalid''⟩, ?_⟩
        simp only [hlevel, hfunctions]
        exact ⟨_, rfl⟩
      · refine .inr (.inl ⟨fun h => hform (h.logLevel v hv), ?_, ?_⟩)
        · rintro ⟨-, u, hu, hinfinite⟩
          obtain ⟨seed, hseed⟩ := hvalid' u hu
          exact hinfinite.not_seeds seed hseed
        · rw [hfails]
          exact hrejected.bind _
    · simp only [hextensions]
      rcases hfault with ⟨hfinite, hrejected⟩ | ⟨hinfinite, hfault⟩
      · refine .inr (.inl ⟨fun h => hform (h.seed v hv), ?_, ?_⟩)
        · rintro ⟨-, u, hu, hinfinite⟩
          rw [hv] at hu
          cases hu
          exact hfinite hinfinite
        · rw [hfails]
          exact hrejected.bind _
      · refine .inr (.inr ⟨fun h => hform (h.seed v hv), ⟨hvalid, v, hv, hinfinite⟩, ?_⟩)
        rw [hfails, hfault]
        rfl
  · refine .inr (.inl ⟨fun h => hform (h.extensions v hv), fun h => hform (h.extensions v hv), ?_⟩)
    rw [hfails]
    exact hrejected.bind _

/-- What is no mapping, or has a section that is none, is rejected. -/
theorem rejected_of_no_settings (h : ∀ entries own, ¬ data.HasSettings entries own)
    (origin : Text) (base : Settings) : Rejected origin (ofDocument origin base data) := by
  unfold ofDocument
  split
  · split
    · rename_i entries _ own hown
      exact absurd ⟨rfl, hown⟩ (h entries own)
    · exact ⟨_, _, rfl⟩
  · exact ⟨_, _, rfl⟩

/-- The seed of a document is what its value tells, or that of the settings beneath. -/
theorem seeds_of_ofDocument (hjson : data.IsJson) (hdata : data.HasSettings entries own)
    (hown : ∀ name ∈ names, ∀ v, Value.lookupName? own name = some v → Writable v)
    (h : ofDocument origin base data = .ok s) :
    (Value.lookupName? own "seed" = none → s.seed = base.seed) ∧
      ∀ v, Value.lookupName? own "seed" = some v → Seeds v s.seed := by
  obtain ⟨entries', own', hdata', hreads, -⟩ := ofDocument_eq_ok_iff.1 h
  obtain ⟨rfl, rfl⟩ := hdata.unique hdata'
  have hseed := hreads.seed
  refine ⟨fun hnone => ?_, fun v hv => ?_⟩
  · rw [setting_of_none hnone] at hseed
    exact (Except.ok.inj hseed).symm
  · rw [setting_of_some hv] at hseed
    exact (readSeed_eq_ok_iff ((hjson.own hdata).of_lookupName? hv) (hown _ (by decide) v hv)).1 hseed

/-- **What becomes of a document.**  For every document that holds what JSON can hold, whatever its
origin and the settings beneath, where each of its settings can be written:

* it gives settings, or is rejected as invalid at its origin, or ends in the fault of an infinite
  double;
* it gives settings exactly if it is a mapping, and so is its section, and the section is valid;
* it ends in the fault exactly if its endings are well-formed and its seed is an infinite double;
* the seed of the settings is what the value of the seed tells, or that of the settings beneath. -/
theorem ofDocument_outcome (hjson : data.IsJson) (hwritable : ∀ entries own,
      data.HasSettings entries own → ∀ name ∈ names, ∀ v,
        Value.lookupName? own name = some v → Writable v)
    (origin : Text) (base : Settings) :
    ((∃ s, ofDocument origin base data = .ok s) ∨ Rejected origin (ofDocument origin base data) ∨
        ofDocument origin base data = .error (.fault infiniteFault)) ∧
      ((∃ s, ofDocument origin base data = .ok s) ↔
        ∃ entries own, data.HasSettings entries own ∧ Valid own) ∧
      (ofDocument origin base data = .error (.fault infiniteFault) ↔
        ∃ entries own, data.HasSettings entries own ∧ Overflows own) ∧
      ∀ s, ofDocument origin base data = .ok s → ∃ entries own, data.HasSettings entries own ∧
        (Value.lookupName? own "seed" = none → s.seed = base.seed) ∧
        ∀ v, Value.lookupName? own "seed" = some v → Seeds v s.seed := by
  by_cases hsettings : ∃ entries own, data.HasSettings entries own
  · obtain ⟨entries, own, hdata⟩ := hsettings
    have hown := hwritable entries own hdata
    have hexists : ∀ {P : List (Value × Value) → Prop},
        (∃ entries own, data.HasSettings entries own ∧ P own) ↔ P own := by
      intro P
      refine ⟨?_, fun h => ⟨entries, own, hdata, h⟩⟩
      rintro ⟨entries', own', hdata', h⟩
      exact (hdata.unique hdata').2 ▸ h
    simp only [hexists]
    have hseeds := fun s (hs : ofDocument origin base data = .ok s) =>
      seeds_of_ofDocument hjson hdata hown hs
    rcases ofDocument_cases hjson hdata hown origin base with
      ⟨hvalid, s, hs⟩ | ⟨hvalid, hoverflows, hrejected⟩ | ⟨hvalid, hoverflows, hfault⟩
    · refine ⟨.inl ⟨s, hs⟩, iff_of_true ⟨s, hs⟩ hvalid, ?_, hseeds⟩
      exact iff_of_false (by rw [hs]; nofun) hvalid.not_overflows
    · refine ⟨.inr (.inl hrejected), iff_of_false ?_ hvalid, ?_, hseeds⟩
      · rintro ⟨s, hs⟩
        exact hrejected.ne_ok s hs
      · exact iff_of_false (hrejected.ne_fault _) hoverflows
    · refine ⟨.inr (.inr hfault), iff_of_false ?_ hvalid, iff_of_true hfault hoverflows, hseeds⟩
      rintro ⟨s, hs⟩
      rw [hfault] at hs
      cases hs
  · have hrejected : Rejected origin (ofDocument origin base data) :=
      rejected_of_no_settings (fun entries own hdata => hsettings ⟨entries, own, hdata⟩) origin base
    refine ⟨.inr (.inl hrejected), iff_of_false ?_ ?_, iff_of_false (hrejected.ne_fault _) ?_, ?_⟩
    · rintro ⟨s, hs⟩
      exact hrejected.ne_ok s hs
    · rintro ⟨entries, own, hdata, -⟩
      exact hsettings ⟨entries, own, hdata⟩
    · rintro ⟨entries, own, hdata, -⟩
      exact hsettings ⟨entries, own, hdata⟩
    · intro s hs
      exact absurd hs (hrejected.ne_ok s)

/-- A document without a section of its own, whose seed is spelt. -/
theorem ofDocument_outcome_spelt :
    ∃ (data : Value) (s : Settings), data = .dict [(.text "seed", .text "-7")] ∧ data.IsJson ∧
      (∀ entries own, data.HasSettings entries own → ∀ name ∈ names, ∀ v,
        Value.lookupName? own name = some v → Writable v) ∧
      ofDocument "f" standard data = .ok s ∧ s.seed = some (-7) := by
  let own : List (Value × Value) := [(.text "seed", .text "-7")]
  have hdata : (Value.dict own).HasSettings own own := ⟨rfl, rfl⟩
  have hjson : (Value.dict own).IsJson :=
    .dict (List.forall_mem_singleton.2 ⟨_, rfl⟩) (List.forall_mem_singleton.2 (.text _))
  have hseed : Value.lookupName? own "seed" = some (.text "-7") := rfl
  have hread : Value.readInteger 10 "-7" = .ok (-7) := rfl
  have hwritable : ∀ entries own', (Value.dict own).HasSettings entries own' → ∀ name ∈ names, ∀ v,
      Value.lookupName? own' name = some v → Writable v := by
    intro entries own' hdata' name _ v hv
    obtain ⟨-, rfl⟩ := hdata.unique hdata'
    obtain ⟨e, he, rfl⟩ := Value.mem_of_lookupName? hv
    rw [List.mem_singleton.1 he]
    exact ⟨_, rfl⟩
  have hvalid : Valid own := by
    refine ⟨nofun, fun v hv => ?_, nofun⟩
    cases hseed.symm.trans hv
    exact ⟨_, .text (by simp) hread⟩
  obtain ⟨-, haccepts, -, hseeds⟩ := ofDocument_outcome hjson hwritable "f" standard
  obtain ⟨s, hs⟩ := haccepts.2 ⟨own, own, hdata, hvalid⟩
  obtain ⟨entries, own', hdata', -, htells⟩ := hseeds s hs
  obtain ⟨-, rfl⟩ := hdata.unique hdata'
  exact ⟨_, s, rfl, hjson, hwritable, hs, (htells _ hseed).unique (.text (by simp) hread)⟩

/-- **A seed that is no whole number is cut**, though only whole numbers are seeds, and **an infinite
one is no invalid setting** but a fault. -/
theorem ofDocument_double :
    (∃ s, ofDocument "<config>" standard (.dict [(.text "seed", .float 1.5)]) = .ok s ∧
        s.seed = some 1) ∧
      ofDocument "<config>" standard (.dict [(.text "seed", .float Binary64.infinity)]) =
        .error (.fault ⟨.overflow, "cannot convert float infinity to integer"⟩) :=
  ⟨⟨_, rfl, rfl⟩, rfl⟩

end Settings

end Phrasebook
