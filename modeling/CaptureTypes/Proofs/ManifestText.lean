/-
# What options, declarations and manifests are as values

The forms of options, of declarations and of manifests with what their
fields make of values.  By `Form.Meaning.parse_eq_ok_iff` each of them says
what is read from any text that writes a value.
-/
import CaptureTypes.Builder
import CaptureTypes.Proofs.JsonForm

namespace CaptureTypes

open Json

namespace Options

/-- What a truth value changes in options. -/
def put (name : String) (t : Tree) : Option (Options → Options) :=
  (Toggle.named? name).bind fun toggle => t.truth?.map fun b o => o.set toggle b

/-- Options as a value. -/
def meaning : form.Meaning where
  put := put
  reads := by
    intro f hf
    obtain ⟨t, -, rfl⟩ := List.mem_map.mp hf
    have hput : put t.field.name = fun v => v.truth?.map fun b (o : Options) => o.set t b := by
      funext v
      rw [put, Toggle.field, t.named?_name, Option.bind_some]
    rw [hput]
    exact reads_truth.map fun b (o : Options) => o.set t b

theorem find?_field (t : Toggle) :
    (form.fields.find? fun f => f.name == t.name).isSome = true :=
  List.find?_isSome.mpr ⟨t.field, List.mem_map_of_mem t.mem_all, beq_self_eq_true t.name⟩

theorem find?_field_eq_none {key : String} (h : key ∉ Toggle.names) :
    form.fields.find? (fun f => f.name == key) = none := by
  refine List.find?_eq_none.mpr fun f hf hname => ?_
  obtain ⟨t, -, rfl⟩ := List.mem_map.mp hf
  obtain rfl : t.name = key := beq_iff_eq.mp hname
  exact h t.name_mem_names

end Options

namespace Spec

/-- What a value changes in a declaration. -/
def put (name : String) (t : Tree) : Option (Spec → Spec) :=
  match name with
  | "name" => t.text?.map fun typeName s => { s with typeName := typeName }
  | "pattern" => t.text?.map fun pattern s => { s with pattern := pattern }
  | "options" => (Options.meaning.decode t).map fun options s => { s with options := options }
  | "module" => (t.items?.bind fun ts => ts.mapM Tree.text?).map fun path s =>
      { s with modulePath := path }
  | _ => none

/-- A declaration as a value. -/
def meaning : form.Meaning where
  put := put
  reads := by
    intro f hf
    simp only [form, List.mem_cons, List.not_mem_nil, or_false] at hf
    rcases hf with rfl | rfl | rfl | rfl
    · exact reads_text.map fun typeName (s : Spec) => { s with typeName := typeName }
    · exact reads_text.map fun pattern (s : Spec) => { s with pattern := pattern }
    · exact Options.meaning.reads_form.map fun options (s : Spec) => { s with options := options }
    · exact (reads_array reads_text).map fun path (s : Spec) => { s with modulePath := path }

end Spec

namespace Manifest

/-- What a value changes in a manifest. -/
def put (name : String) (t : Tree) : Option (Manifest → Manifest) :=
  match name with
  | "runtime" => t.text?.map fun runtime m => { m with runtime := runtime }
  | "patterns" => (t.items?.bind fun ts => ts.mapM Spec.meaning.decode).map fun patterns m =>
      { m with patterns := patterns }
  | _ => none

/-- A manifest as a value. -/
def meaning : form.Meaning where
  put := put
  reads := by
    intro f hf
    simp only [form, List.mem_cons, List.not_mem_nil, or_false] at hf
    rcases hf with rfl | rfl
    · exact reads_text.map fun runtime (m : Manifest) => { m with runtime := runtime }
    · exact (reads_array Spec.meaning.reads_form).map fun patterns (m : Manifest) =>
        { m with patterns := patterns }

end Manifest

/-- A text that writes a manifest makes the builder that the manifest describes. -/
theorem Builder.fromManifest_eq_ok_iff {t : Tree} {text : String} (h : Writes t text)
    {b : Builder} :
    fromManifest text = .ok b ↔ ∃ m, Manifest.meaning.decode t = some m ∧ ofManifest m = b := by
  have hparse : ∀ m, Manifest.form.parse text = .ok m ↔ Manifest.meaning.decode t = some m :=
    fun m => Manifest.meaning.parse_eq_ok_iff h
  rw [fromManifest]
  cases hm : Manifest.form.parse text with
  | error fault => simp [← hparse, hm]
  | ok m => simp [← hparse, hm]

end CaptureTypes
