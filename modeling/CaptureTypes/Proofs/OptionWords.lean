/-
# What is said of options

Options are told by their changed toggles: the name of one that is switched
on, and the name after an exclamation mark of one that is switched off.  So
a toggle has one word that can be said of it (`Toggle.change`), the words
that are said tell which toggles are changed, and these tell the options
(`Options.describeAll_injective`).

The words are told apart because no blank is in them: without its blanks
the text is the words with a bar between them, and no word has a bar.
-/
import CaptureTypes.Options
import Mathlib.Data.List.Basic

namespace CaptureTypes

/-! ## Words with something between them -/

/-- No character is in both of two lists, as it is evaluated. -/
theorem not_mem_of_all {cs ds : List Char} (h : (cs.all fun c => !ds.contains c) = true) :
    ∀ c ∈ cs, c ∉ ds := by
  intro c hc hd
  have hno := List.all_eq_true.mp h c hc
  rw [Bool.not_eq_true', List.contains_eq_mem, decide_eq_false_iff_not] at hno
  exact hno hd

theorem mem_of_mem_intercalate {α : Type} {separator : List α} {ws : List (List α)} {a : α}
    (h : a ∈ separator.intercalate ws) : a ∈ separator ∨ ∃ w ∈ ws, a ∈ w := by
  induction ws with
  | nil => cases h
  | cons w ws ih =>
      cases ws with
      | nil =>
          rw [List.intercalate_singleton] at h
          exact .inr ⟨w, List.mem_singleton_self w, h⟩
      | cons v ws =>
          rw [List.intercalate_cons_cons, List.mem_append, List.mem_append] at h
          rcases h with (hw | hseparator) | hrest
          · exact .inr ⟨w, List.mem_cons_self, hw⟩
          · exact .inl hseparator
          · exact (ih hrest).imp_right fun ⟨u, hu, ha⟩ => ⟨u, List.mem_cons_of_mem _ hu, ha⟩

theorem filter_intercalate {α : Type} (p : α → Bool) (separator : List α) (ws : List (List α)) :
    (separator.intercalate ws).filter p = (separator.filter p).intercalate (ws.map (·.filter p)) := by
  induction ws with
  | nil => rfl
  | cons w ws ih =>
      cases ws with
      | nil => simp only [List.map_cons, List.map_nil, List.intercalate_singleton]
      | cons v ws =>
          rw [List.intercalate_cons_cons, List.filter_append, List.filter_append, ih]
          simp only [List.map_cons, List.intercalate_cons_cons]

/-! ## Changed toggles -/

/-- What is said of a toggle that is changed. -/
def Toggle.change (t : Toggle) : String := if t.standard then "!" ++ t.name else t.name

theorem Toggle.change_injective : Function.Injective Toggle.change := by
  intro t u h
  revert h
  cases t <;> cases u <;> decide

theorem Toggle.change_ne_none (t : Toggle) : t.change ≠ "none" := by cases t <;> decide

/-- The characters that are said of a changed toggle: no blank and no bar, and nothing that ends
a line. -/
theorem Toggle.not_mem_change (t : Toggle) : ∀ c ∈ [' ', '|', '\n', '\r'], c ∉ t.change.toList :=
  not_mem_of_all (by cases t <;> decide)

namespace Options

theorem mem_changed_iff {o : Options} {t : Toggle} : t ∈ o.changed ↔ o.get t ≠ t.standard := by
  simp [changed, t.mem_all]

theorem describe_of_mem_changed {o : Options} {t : Toggle} (h : t ∈ o.changed) :
    o.describe t = t.change := by
  have hchanged := mem_changed_iff.mp h
  rw [describe, Toggle.change]
  cases hget : o.get t <;> cases hstandard : t.standard
  · exact absurd (hget.trans hstandard.symm) hchanged
  · rfl
  · rfl
  · exact absurd (hget.trans hstandard.symm) hchanged

/-- Options are told by which toggles they change. -/
theorem changed_injective : Function.Injective changed := by
  intro o p h
  refine ext_get fun t => ?_
  have hiff : o.get t ≠ t.standard ↔ p.get t ≠ t.standard := by
    rw [← mem_changed_iff, ← mem_changed_iff, h]
  revert hiff
  cases o.get t <;> cases p.get t <;> cases t.standard <;> decide

/-! ## The words that are said -/

/-- The words that are said of options. -/
def sayings (o : Options) : List String :=
  if o.changed = [] then ["none"] else o.changed.map Toggle.change

theorem describeAll_eq (o : Options) : o.describeAll = " | ".intercalate o.sayings := by
  unfold describeAll sayings
  split
  · rename_i h
    rw [h, if_pos rfl]
    decide
  · rename_i h
    rw [if_neg h, List.map_congr_left fun t ht => describe_of_mem_changed ht]

theorem not_mem_saying {o : Options} {w : String} (hw : w ∈ o.sayings) :
    ∀ c ∈ [' ', '|', '\n', '\r'], c ∉ w.toList := by
  unfold sayings at hw
  split at hw
  · rw [List.mem_singleton.mp hw]
    exact not_mem_of_all (by decide)
  · obtain ⟨t, -, rfl⟩ := List.mem_map.mp hw
    exact t.not_mem_change

theorem sayings_injective : Function.Injective sayings := by
  have hnone : ∀ ts : List Toggle, ["none"] ≠ ts.map Toggle.change := by
    intro ts h
    obtain ⟨t, -, ht⟩ := List.mem_map.mp (h ▸ List.mem_singleton_self "none")
    exact t.change_ne_none ht
  intro o p h
  refine changed_injective ?_
  unfold sayings at h
  split at h <;> split at h
  · rename_i ho hp
    rw [ho, hp]
  · exact absurd h (hnone _)
  · exact absurd h.symm (hnone _)
  · exact List.map_injective_iff.mpr Toggle.change_injective h

/-- What is said is read back word for word. -/
theorem splitOn_describeAll (o : Options) :
    (o.describeAll.toList.filter (· ≠ ' ')).splitOn '|' = o.sayings.map String.toList := by
  have hwords : (o.sayings.map String.toList).map (·.filter (· ≠ ' ')) = o.sayings.map String.toList := by
    rw [List.map_map]
    refine List.map_congr_left fun w hw => List.filter_eq_self.mpr fun c hc => ?_
    refine decide_eq_true fun hblank => ?_
    exact not_mem_saying hw ' ' (by decide) (hblank ▸ hc)
  have hbar : " | ".toList.filter (· ≠ ' ') = ['|'] := by decide
  have hne : o.sayings.map String.toList ≠ [] := by
    unfold sayings
    split <;> simp [*]
  rw [describeAll_eq, String.toList_intercalate, filter_intercalate, hwords, hbar]
  refine List.splitOn_intercalate '|' (fun l hl => ?_) hne
  obtain ⟨w, hw, rfl⟩ := List.mem_map.mp hl
  exact not_mem_saying hw '|' (by decide)

/-- **What is said of options tells them.** -/
theorem describeAll_injective : Function.Injective describeAll := by
  intro o p h
  refine sayings_injective (List.map_injective_iff.mpr (fun _ _ => String.toList_injective) ?_)
  rw [← splitOn_describeAll, ← splitOn_describeAll, h]

/-- What is said of options stands on one line. -/
theorem not_mem_describeAll {c : Char} (hc : c ∈ ['\n', '\r']) (o : Options) :
    c ∉ o.describeAll.toList := by
  have hsubset : ['\n', '\r'] ⊆ [' ', '|', '\n', '\r'] := by decide
  have hseparator : ∀ d ∈ ['\n', '\r'], d ∉ " | ".toList := not_mem_of_all (by decide)
  rw [describeAll_eq, String.toList_intercalate]
  intro hmem
  rcases mem_of_mem_intercalate hmem with hin | ⟨l, hl, hin⟩
  · exact hseparator c hc hin
  · obtain ⟨w, hw, rfl⟩ := List.mem_map.mp hl
    exact not_mem_saying hw c (hsubset hc) hin

end Options

end CaptureTypes
