/-
# Printing tokens one after the other

A blank stands before every token but the first one and those that belong
to the token before.  So what is printed of a token depends on the token
before it, and printings can be put together only where no joint sign is
at the end.

What is emitted for a declaration ends with a block, in whatever modules
and with whatever path to the runtime (`endsWithBlock_tokensWith`).
Therefore declarations that are printed together are their printings with
single blanks between them (`render_flatten`).
-/
import CaptureTypes.Emission.Generate
import CaptureTypes.Proofs.Readback

namespace CaptureTypes.Token

variable {σ : Type}

/-- Whether the blank after tokens is left out; `tight` says so if there are none. -/
def isTightAfter (tight : Bool) : List (Token σ) → Bool
  | [] => tight
  | t :: ts => isTightAfter t.isJoint ts

theorem printAll_append (tight : Bool) (ts us : List (Token σ)) :
    printAll tight (ts ++ us) = printAll tight ts ++ printAll (isTightAfter tight ts) us := by
  induction ts generalizing tight with
  | nil => simp [printAll, isTightAfter]
  | cons t ts ih => simp only [List.cons_append, printAll, ih, isTightAfter, List.append_assoc]

theorem isTightAfter_concat (tight : Bool) (ts : List (Token σ)) (t : Token σ) :
    isTightAfter tight (ts ++ [t]) = t.isJoint := by
  induction ts generalizing tight with
  | nil => rfl
  | cons u ts ih => exact ih u.isJoint

/-- The blank is all that the token before decides. -/
theorem printAll_false {ts : List (Token σ)} (h : ts ≠ []) :
    printAll false ts = [' '] ++ printAll true ts := by
  cases ts with
  | nil => exact absurd rfl h
  | cons t ts => simp [printAll]

/-- Tokens that end with a block. -/
def EndsWithBlock (ts : List PlainToken) : Prop :=
  ∃ front inner, ts = front ++ [group () .brace inner]

theorem EndsWithBlock.ne_nil {ts : List PlainToken} (h : EndsWithBlock ts) : ts ≠ [] := by
  obtain ⟨front, inner, rfl⟩ := h
  exact List.append_ne_nil_of_right_ne_nil _ (List.cons_ne_nil _ _)

theorem EndsWithBlock.append {ts us : List PlainToken} (h : EndsWithBlock us) :
    EndsWithBlock (ts ++ us) := by
  obtain ⟨front, inner, rfl⟩ := h
  exact ⟨ts ++ front, inner, (List.append_assoc ..).symm⟩

theorem EndsWithBlock.render_append {ts us : List PlainToken} (hts : EndsWithBlock ts)
    (hus : us ≠ []) : render (ts ++ us) = render ts ++ " " ++ render us := by
  obtain ⟨front, inner, rfl⟩ := hts
  have hspaced : isTightAfter true (front ++ [group () .brace inner]) = false :=
    isTightAfter_concat _ _ _
  have hblank : String.ofList ([' '] ++ printAll true us) = " " ++ render us :=
    String.ofList_append
  rw [render, printAll_append, hspaced, printAll_false hus, String.ofList_append, hblank,
    String.append_assoc]
  rfl

/-- **Printed together, the parts are printed one by one**, with single blanks between them. -/
theorem render_flatten {tss : List (List PlainToken)} (h : ∀ ts ∈ tss, EndsWithBlock ts) :
    render tss.flatten = " ".intercalate (tss.map render) := by
  induction tss with
  | nil => rfl
  | cons ts tss ih =>
      obtain ⟨hts, htss⟩ := List.forall_mem_cons.mp h
      rw [List.flatten_cons, List.map_cons]
      cases tss with
      | nil => rw [List.flatten_nil, List.append_nil, List.map_nil, String.intercalate_singleton]
      | cons us rest =>
          have hne : (us :: rest).flatten ≠ [] := by
            rw [List.flatten_cons]
            exact List.append_ne_nil_of_left_ne_nil (htss us List.mem_cons_self).ne_nil _
          rw [hts.render_append hne, ih htss]
          exact (String.intercalate_cons_of_ne_nil (List.cons_ne_nil _ _)).symm

end CaptureTypes.Token

namespace CaptureTypes

open Emission Emission.Piece Readback
open Token (EndsWithBlock)

variable {runtime : List PlainToken}

theorem endsWithBlock_item (i : Item) : EndsWithBlock (fillAll runtime i.pieces) := by
  cases i with
  | struct given attributes visibility name fields => exact ⟨_, _, fillAll_braces _ _⟩
  | implementation attributes binder trait type members => exact ⟨_, _, fillAll_braces _ _⟩
  | submodule name items => exact ⟨_, _, fillAll_braces _ _⟩

theorem endsWithBlock_items {items : List Item} (h : items ≠ []) :
    EndsWithBlock (fillAll runtime (Item.allPieces items)) := by
  induction items with
  | nil => exact absurd rfl h
  | cons i items ih =>
      rw [Item.allPieces, fillAll_append]
      cases items with
      | nil =>
          rw [Item.allPieces, fillAll, List.append_nil]
          exact endsWithBlock_item i
      | cons j rest => exact (ih (List.cons_ne_nil j rest)).append

theorem nest_ne_nil {modules : List String} {items : List Item} (h : items ≠ []) :
    Item.nest modules items ≠ [] := by
  cases modules with
  | nil => exact h
  | cons name modules => exact List.cons_ne_nil _ _

/-- **What is emitted ends with a block.** -/
theorem endsWithBlock_tokensWith (s : Spec) (names : Names) (around : Surroundings) :
    EndsWithBlock (s.tokensWith names around) :=
  endsWithBlock_items (nest_ne_nil (List.cons_ne_nil _ _))

end CaptureTypes
