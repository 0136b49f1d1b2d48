import Phrasebook.Document.Template
import Phrasebook.Error

/-!
# Catalogs

A catalog holds templates under their names, in the order in which they came.  No two templates
of a catalog have the same name.

* `Catalog.find?`: the template with a name;
* `Catalog.insert`, `Catalog.ofList`: catalogs are built template by template, and the first
  repeated name is an error;
* `Catalog.quoted`: the catalog on one line, for display.
-/

namespace Phrasebook

/-- Templates with distinct names. -/
structure Catalog where
  templates : List Template
  distinct : (templates.map (·.name)).Nodup

namespace Catalog

/-- The catalog without templates. -/
def empty : Catalog := ⟨[], List.nodup_nil⟩

instance : Inhabited Catalog := ⟨empty⟩

/-- The names of the templates in order. -/
def names (c : Catalog) : List Text := c.templates.map (·.name)

/-- The template with a name. -/
def find? (c : Catalog) (name : Text) : Option Template := c.templates.find? (·.name = name)

/-- Is there a template with the name? -/
def has (c : Catalog) (name : Text) : Bool := c.names.contains name

theorem find?_eq_none_iff (c : Catalog) (name : Text) : c.find? name = none ↔ name ∉ c.names := by
  simp only [find?, names, List.find?_eq_none, List.mem_map, decide_eq_true_eq, not_exists, not_and]

theorem has_iff (c : Catalog) (name : Text) : c.has name = true ↔ name ∈ c.names := by
  simp [has]

theorem nodup_concat (c : Catalog) (t : Template) (h : t.name ∉ c.names) :
    ((c.templates ++ [t]).map (·.name)).Nodup := by
  rw [List.map_append, List.nodup_append]
  refine ⟨c.distinct, by simp, ?_⟩
  intro a ha b hb heq
  simp only [List.map_cons, List.map_nil, List.mem_singleton] at hb
  exact h (hb ▸ heq ▸ ha)

/-- Adds a template at the end, unless its name is taken. -/
def insert (c : Catalog) (t : Template) : Except TemplateError Catalog :=
  match h : c.find? t.name with
  | some old => .error (.duplicate t.name old.location t.location)
  | none => .ok ⟨c.templates ++ [t], nodup_concat c t ((find?_eq_none_iff c t.name).1 h)⟩

/-- Adds templates one after the other. -/
def insertAll (c : Catalog) (templates : List Template) : Except TemplateError Catalog :=
  templates.foldlM insert c

/-- The catalog of a list of templates; the first name that occurs again is an error. -/
def ofList (templates : List Template) : Except TemplateError Catalog := empty.insertAll templates

/-- The catalog on one line, for display. -/
def quoted (c : Catalog) : Text :=
  "TemplateMap([" ++ Text.join ", " (c.names.map Text.quoted) ++ "])"

end Catalog

end Phrasebook
