/-
# The modules of a declaration

The modules around a declaration are given as a path, and a path is read
leniently: the pieces between double colons are names with white space
around them, and blank pieces count for nothing.  `SpellsNames` says which
names pieces spell.  Every path is made of such pieces and stores the names
they spell; a path written from names with white space and blank pieces
stores these names (`Spec.modules_nest`).

What is emitted for a declaration in modules is what is emitted for it
without them, inside as many modules, the first name outermost.
-/
import CaptureTypes.Proofs.Accessor
import CaptureTypes.Proofs.Padding
import Mathlib.Data.List.TakeWhile

namespace CaptureTypes

/-! ## White space around a name -/

/-- A text without white space at its ends. -/
def IsTrimmed (cs : List Char) : Prop :=
  (∀ c ∈ cs.head?, isSpace c = false) ∧ ∀ c ∈ cs.getLast?, isSpace c = false

/-- Nothing is dropped from a text that does not begin with white space. -/
theorem dropWhile_isSpace {cs : List Char} (h : ∀ c ∈ cs.head?, isSpace c = false) :
    cs.dropWhile isSpace = cs := by
  cases cs with
  | nil => rfl
  | cons c cs => rw [List.dropWhile_cons, h c rfl, if_neg Bool.false_ne_true]

theorem head?_dropWhile_isSpace (cs : List Char) :
    ∀ c ∈ (cs.dropWhile isSpace).head?, isSpace c = false := by
  intro c hc
  have hhead := List.head?_dropWhile_not isSpace cs
  rwa [Option.mem_def.mp hc] at hhead

theorem trim_of_blank {cs : List Char} (h : ∀ c ∈ cs, isSpace c = true) : trim cs = [] := by
  rw [trim, List.dropWhile_eq_nil_iff.mpr h]
  rfl

/-- White space around a text is trimmed, and nothing else. -/
theorem trim_around {before cs after : List Char} (hbefore : ∀ c ∈ before, isSpace c = true)
    (hafter : ∀ c ∈ after, isSpace c = true) (h : IsTrimmed cs) :
    trim (before ++ cs ++ after) = cs := by
  cases cs with
  | nil =>
      rw [List.append_nil]
      exact trim_of_blank (List.forall_mem_append.mpr ⟨hbefore, hafter⟩)
  | cons c cs =>
      have hback : ∀ d ∈ after.reverse, isSpace d = true := fun d hd =>
        hafter d (List.mem_reverse.mp hd)
      have hfront : (c :: cs ++ after).dropWhile isSpace = c :: cs ++ after :=
        dropWhile_isSpace h.1
      have hend : ∀ d ∈ (c :: cs).reverse.head?, isSpace d = false := by
        rw [List.head?_reverse]
        exact h.2
      rw [trim, List.append_assoc, List.dropWhile_append_of_pos hbefore, hfront, List.reverse_append,
        List.dropWhile_append_of_pos hback, dropWhile_isSpace hend, List.reverse_reverse]

/-- What is left of a text has no white space at its ends, and what was there is white space. -/
theorem exists_around_trim (cs : List Char) :
    ∃ before after, (∀ c ∈ before, isSpace c = true) ∧ (∀ c ∈ after, isSpace c = true) ∧
      before ++ trim cs ++ after = cs ∧ IsTrimmed (trim cs) := by
  have hsplit : trim cs ++ ((cs.dropWhile isSpace).reverse.takeWhile isSpace).reverse
      = cs.dropWhile isSpace := by
    rw [trim, ← List.reverse_append, List.takeWhile_append_dropWhile, List.reverse_reverse]
  refine ⟨cs.takeWhile isSpace, ((cs.dropWhile isSpace).reverse.takeWhile isSpace).reverse,
    fun c hc => List.mem_takeWhile_imp hc,
    fun c hc => List.mem_takeWhile_imp (List.mem_reverse.mp hc), ?_, fun c hc => ?_, fun c hc => ?_⟩
  · rw [List.append_assoc, hsplit, List.takeWhile_append_dropWhile]
  · refine head?_dropWhile_isSpace cs c ?_
    rw [← hsplit, List.head?_append, Option.mem_def.mp hc]
    rfl
  · rw [trim, List.getLast?_reverse] at hc
    exact head?_dropWhile_isSpace _ c hc

/-! ## Pieces and the names they spell -/

/-- What stands between the pieces of a path. -/
def doubleColon : List Char := [':', ':']

/-- The names that pieces spell: a piece is blank and spells nothing, or it spells a name with
white space around it. -/
inductive SpellsNames : List (List Char) → List String → Prop
  | nil : SpellsNames [] []
  | blank {piece : List Char} {pieces : List (List Char)} {names : List String} :
      (∀ c ∈ piece, isSpace c = true) → SpellsNames pieces names →
      SpellsNames (piece :: pieces) names
  | name {before after : List Char} {name : String} {pieces : List (List Char)}
      {names : List String} :
      (∀ c ∈ before, isSpace c = true) → (∀ c ∈ after, isSpace c = true) →
      SpellsNames pieces names →
      SpellsNames ((before ++ name.toList ++ after) :: pieces) (name :: names)

/-- What a path can hold as a name: a text that is not empty, without white space at its ends
and without colons. -/
structure IsSegment (name : String) : Prop where
  ne_nil : name.toList ≠ []
  trimmed : IsTrimmed name.toList
  free : ':' ∉ name.toList

/-- The names in pieces. -/
def namesOf (pieces : List (List Char)) : List String :=
  ((pieces.map trim).filter fun piece => !piece.isEmpty).map String.ofList

theorem moduleNames_eq (path : String) : moduleNames path = namesOf (splitPath [] path.toList) :=
  rfl

theorem namesOf_blank {piece : List Char} (h : trim piece = []) (pieces : List (List Char)) :
    namesOf (piece :: pieces) = namesOf pieces := by
  rw [namesOf, List.map_cons, h]
  rfl

theorem namesOf_cons {piece : List Char} (h : trim piece ≠ []) (pieces : List (List Char)) :
    namesOf (piece :: pieces) = String.ofList (trim piece) :: namesOf pieces := by
  rw [namesOf, List.map_cons, List.filter_cons, if_pos (by simpa using h), List.map_cons]
  rfl

/-- The names that pieces spell are found in them. -/
theorem SpellsNames.namesOf_eq {pieces : List (List Char)} {names : List String}
    (h : SpellsNames pieces names) (hnames : ∀ name ∈ names, IsSegment name) :
    namesOf pieces = names := by
  induction h with
  | nil => rfl
  | blank hblank _ ih => rw [namesOf_blank (trim_of_blank hblank), ih hnames]
  | name hbefore hafter _ ih =>
      obtain ⟨hname, hnames⟩ := List.forall_mem_cons.mp hnames
      have htrim := trim_around hbefore hafter hname.trimmed
      have hfull : trim (_ ++ _ ++ _) ≠ [] := htrim.trans_ne hname.ne_nil
      rw [namesOf_cons hfull, htrim, String.ofList_toList, ih hnames]

/-- All pieces spell the names found in them. -/
theorem spellsNames_namesOf (pieces : List (List Char)) : SpellsNames pieces (namesOf pieces) := by
  induction pieces with
  | nil => exact .nil
  | cons piece pieces ih =>
      obtain ⟨before, after, hbefore, hafter, heq, -⟩ := exists_around_trim piece
      by_cases hblank : trim piece = []
      · rw [namesOf_blank hblank]
        rw [hblank, List.append_nil] at heq
        exact .blank (heq ▸ List.forall_mem_append.mpr ⟨hbefore, hafter⟩) ih
      · have hspelled : SpellsNames
            ((before ++ (String.ofList (trim piece)).toList ++ after) :: pieces)
            (String.ofList (trim piece) :: namesOf pieces) := .name hbefore hafter ih
        rw [String.toList_ofList, heq] at hspelled
        rwa [namesOf_cons hblank]

/-- A name found in pieces is a trimmed part of one of them, and not empty. -/
theorem of_mem_namesOf {pieces : List (List Char)} {name : String} (h : name ∈ namesOf pieces) :
    name.toList ≠ [] ∧ IsTrimmed name.toList ∧ ∃ piece ∈ pieces, name.toList <:+: piece := by
  obtain ⟨cs, hcs, rfl⟩ := List.mem_map.mp h
  obtain ⟨hmem, hfull⟩ := List.mem_filter.mp hcs
  obtain ⟨piece, hpiece, rfl⟩ := List.mem_map.mp hmem
  obtain ⟨before, after, -, -, heq, htrimmed⟩ := exists_around_trim piece
  rw [String.toList_ofList]
  exact ⟨by simpa using hfull, htrimmed, piece, hpiece, before, after, heq⟩

/-! ## Paths and pieces -/

/-- What holds no colon is a part of one piece. -/
theorem splitPath_append {piece : List Char} (h : ':' ∉ piece) (now rest : List Char) :
    splitPath now (piece ++ rest) = splitPath (piece.reverse ++ now) rest := by
  induction piece generalizing now with
  | nil => rfl
  | cons c piece ih =>
      obtain ⟨hc, hpiece⟩ := not_or.mp (mt List.mem_cons.mpr h)
      have hstep : splitPath now (c :: (piece ++ rest)) = splitPath (c :: now) (piece ++ rest) := by
        rw [splitPath]
        rintro _ rfl
        exact absurd rfl hc
      rw [List.cons_append, hstep, ih hpiece, List.reverse_cons, List.append_assoc,
        List.singleton_append]

/-- Pieces without colons are found again between the double colons. -/
theorem splitPath_intercalate {pieces : List (List Char)} (hne : pieces ≠ [])
    (h : ∀ piece ∈ pieces, ':' ∉ piece) :
    splitPath [] (doubleColon.intercalate pieces) = pieces := by
  induction pieces with
  | nil => exact absurd rfl hne
  | cons piece pieces ih =>
      obtain ⟨hpiece, hpieces⟩ := List.forall_mem_cons.mp h
      cases pieces with
      | nil =>
          have hlast := splitPath_append hpiece [] []
          rw [List.append_nil, List.append_nil, splitPath, List.reverse_reverse] at hlast
          rw [List.intercalate_singleton, hlast]
      | cons next pieces =>
          rw [List.intercalate_cons_cons, List.append_assoc, splitPath_append hpiece,
            List.append_nil, doubleColon, List.cons_append, List.singleton_append, splitPath,
            List.reverse_reverse, ← doubleColon, ih (List.cons_ne_nil _ _) hpieces]

theorem splitPath_ne_nil (now cs : List Char) : splitPath now cs ≠ [] := by
  fun_induction splitPath now cs with
  | case1 => exact List.cons_ne_nil _ _
  | case2 => exact List.cons_ne_nil _ _
  | case3 _ _ _ _ ih => exact ih

/-- Nothing of a path is lost in its pieces. -/
theorem intercalate_splitPath (now cs : List Char) :
    doubleColon.intercalate (splitPath now cs) = now.reverse ++ cs := by
  fun_induction splitPath now cs with
  | case1 now => rw [List.intercalate_singleton, List.append_nil]
  | case2 now rest ih =>
      rw [List.intercalate_cons_of_ne_nil (splitPath_ne_nil _ _), ih, doubleColon]
      simp only [List.reverse_nil, List.nil_append, List.append_assoc, List.cons_append]
  | case3 now c rest hno ih =>
      rw [ih, List.reverse_cons, List.append_assoc, List.singleton_append]

/-- No double colon is left inside a piece.  The piece that is being read has none, and if it
ends with a colon no other one follows. -/
theorem not_infix_of_mem_splitPath {now cs : List Char} (hnow : ¬ doubleColon <:+: now.reverse)
    (hnext : now.head? = some ':' → cs.head? ≠ some ':') :
    ∀ piece ∈ splitPath now cs, ¬ doubleColon <:+: piece := by
  fun_induction splitPath now cs with
  | case1 now => exact List.forall_mem_singleton.mpr hnow
  | case2 now rest ih =>
      have hempty : ¬ doubleColon <:+: [] := fun h => absurd (List.infix_nil.mp h) (by decide)
      exact List.forall_mem_cons.mpr ⟨hnow, ih hempty nofun⟩
  | case3 now c rest hno ih =>
      refine ih ?_ fun hc hrest => ?_
      · rw [List.reverse_cons]
        intro hinfix
        rcases List.infix_append_iff.mp hinfix with hbefore | hlast | ⟨l, r, heq, hl, hr⟩
        · exact hnow hbefore
        · exact Nat.not_succ_le_self 1 hlast.length_le
        · rcases List.prefix_cons_iff.mp hr with rfl | ⟨t, rfl, ht⟩
          · rw [List.append_nil] at heq
            exact hnow (heq ▸ hl.isInfix)
          · have hcolons : [':'] ++ [':'] = l ++ c :: t := heq
            obtain ⟨hcolon, hcs⟩ := List.append_inj' hcolons (by rw [List.prefix_nil.mp ht]; rfl)
            obtain ⟨before, hbefore⟩ := hl
            have hhead : now.head? = some ':' := by
              rw [← List.getLast?_reverse, ← hbefore, ← hcolon, List.getLast?_append]
              rfl
            exact hnext hhead (congrArg some (List.cons.inj hcs).1.symm)
      · cases rest with
        | nil => cases hrest
        | cons d rest =>
            exact hno rest (Option.some.inj hc) (congrArg (· :: rest) (Option.some.inj hrest))

/-! ## Names that are segments -/

/-- Whatever is white space separates words. -/
theorem separators_of_isSpace {c : Char} (h : isSpace c = true) :
    Token.separators.contains c = true :=
  CharSet.has_of_isWithin Token.isWithin_blank_separators h

theorem isSpace_eq_false {c : Char} (h : Token.separators.contains c = false) :
    isSpace c = false := by
  refine Bool.eq_false_iff.mpr fun hspace => ?_
  rw [separators_of_isSpace hspace] at h
  cases h

/-- No word holds a colon. -/
theorem Token.IsWord.not_colon {cs : List Char} (h : Token.IsWord cs) : ':' ∉ cs := by
  cases cs with
  | nil => exact h.elim
  | cons c cs =>
      intro hmem
      rcases List.mem_cons.mp hmem with rfl | hmem
      · exact absurd h.1 (by decide)
      · exact absurd (h.2 _ hmem) (by decide)

/-- A bare name can stand in a path. -/
theorem Token.IsBareName.isSegment {name : String} (h : Token.IsBareName name) :
    IsSegment name where
  ne_nil := h.ne_nil
  trimmed := ⟨fun c hc => isSpace_eq_false (h.solid c (List.mem_of_mem_head? hc)),
    fun c hc => isSpace_eq_false (h.solid c (List.mem_of_mem_getLast? hc))⟩
  free := by
    rcases h.written with hword | ⟨word, heq, hword, -⟩
    · exact hword.not_colon
    · rw [heq]
      rintro (- | ⟨_, - | ⟨_, hmem⟩⟩)
      exact hword.not_colon hmem

/-- White space holds no colon. -/
theorem not_colon_of_isSpace {cs : List Char} (h : ∀ c ∈ cs, isSpace c = true) : ':' ∉ cs :=
  fun hmem => absurd (h _ hmem) (by decide)

/-- Pieces that spell segments hold no colon. -/
theorem SpellsNames.not_colon {pieces : List (List Char)} {names : List String}
    (h : SpellsNames pieces names) (hnames : ∀ name ∈ names, IsSegment name) :
    ∀ piece ∈ pieces, ':' ∉ piece := by
  induction h with
  | nil => exact List.forall_mem_nil _
  | blank hblank _ ih => exact List.forall_mem_cons.mpr ⟨not_colon_of_isSpace hblank, ih hnames⟩
  | name hbefore hafter _ ih =>
      obtain ⟨hname, hnames⟩ := List.forall_mem_cons.mp hnames
      refine List.forall_mem_cons.mpr ⟨fun hmem => ?_, ih hnames⟩
      rcases List.mem_append.mp hmem with hmem | hmem
      · rcases List.mem_append.mp hmem with hmem | hmem
        · exact not_colon_of_isSpace hbefore hmem
        · exact hname.free hmem
      · exact not_colon_of_isSpace hafter hmem

/-- **A path stores the names it spells**, each of them once and in order. -/
theorem moduleNames_of_spells {path : String} {pieces : List (List Char)} {names : List String}
    (hpath : path.toList = doubleColon.intercalate pieces) (h : SpellsNames pieces names)
    (hnames : ∀ name ∈ names, IsSegment name) : moduleNames path = names := by
  rw [moduleNames_eq, hpath]
  by_cases hne : pieces = []
  · subst hne
    cases h
    rfl
  · rw [splitPath_intercalate hne (h.not_colon hnames), h.namesOf_eq hnames]

/-- **What any path stores**: the names that its pieces spell. -/
theorem exists_pieces (path : String) :
    ∃ pieces, path.toList = doubleColon.intercalate pieces ∧
      (∀ piece ∈ pieces, ¬ doubleColon <:+: piece) ∧
      SpellsNames pieces (moduleNames path) ∧
      ∀ name ∈ moduleNames path,
        name.toList ≠ [] ∧ IsTrimmed name.toList ∧ ¬ doubleColon <:+: name.toList := by
  have hempty : ¬ doubleColon <:+: [] := fun h => absurd (List.infix_nil.mp h) (by decide)
  have hpieces : ∀ piece ∈ splitPath [] path.toList, ¬ doubleColon <:+: piece :=
    not_infix_of_mem_splitPath hempty nofun
  refine ⟨splitPath [] path.toList, (intercalate_splitPath [] _).symm, hpieces,
    spellsNames_namesOf _, fun name hname => ?_⟩
  obtain ⟨hne, htrimmed, piece, hpiece, hpart⟩ := of_mem_namesOf hname
  exact ⟨hne, htrimmed, fun hcolons => hpieces piece hpiece (hcolons.trans hpart)⟩

/-! ## Modules around tokens -/

/-- Tokens inside a module that all may see. -/
def moduleTokens (name : String) (inner : List PlainToken) : List PlainToken :=
  [.word "pub", .word "mod", .word name, Token.group () .brace inner]

open Emission in
/-- Items in modules are the tokens of the items inside the tokens of the modules. -/
theorem fillAll_nest {runtime : List PlainToken} (modules : List String) (items : List Item) :
    Piece.fillAll runtime (Item.allPieces (Item.nest modules items))
      = modules.foldr moduleTokens (Piece.fillAll runtime (Item.allPieces items)) := by
  induction modules with
  | nil => rfl
  | cons name modules ih => exact congrArg (moduleTokens name) ih

theorem modulesOf_bare {segments : List String}
    (h : ∀ segment ∈ segments, Token.IsBareName segment) : modulesOf segments = .ok segments := by
  induction segments with
  | nil => rfl
  | cons segment rest ih =>
      obtain ⟨hsegment, hrest⟩ := List.forall_mem_cons.mp h
      rw [modulesOf_cons, Token.name?_self_iff.mpr hsegment, ih hrest]

namespace Spec

/-- **A declaration in modules is the declaration inside the modules**, or the same refusal. -/
theorem answer_inModules {s : Spec} (h : ∀ segment ∈ s.modulePath, Token.IsBareName segment)
    (around : Surroundings) :
    (s.generateWith around).answer
      = (({ s with modulePath := [] } : Spec).generateWith around).answer.map
          (s.modulePath.foldr moduleTokens) := by
  have hresolve : ({ s with modulePath := [] } : Spec).resolve = s.resolve := rfl
  rw [answer_generateWith_eq, answer_generateWith_eq, hresolve]
  cases s.resolve with
  | error e => rfl
  | ok r =>
      have hnone : modulesOf [] = .ok [] := rfl
      simp only [namesWith, modulesOf_bare h, hnone]
      cases Token.name? s.typeName with
      | none => rfl
      | some typeName =>
          cases Emission.accessorsOf r.accessorGroups with
          | error e => rfl
          | ok accessors => exact congrArg Except.ok (fillAll_nest _ _)

/-- **Modules nest in the order of their path.**  A path written from segments, such as bare
names, with white space around them and blank pieces between them stores these segments in their
order.  Any path at all is made of pieces without double colons and stores the names that these
spell, none of them empty and none with white space at its ends.  And a declaration whose modules
are bare names is generated iff it is without modules, with the same refusal if not, and its
tokens are then those without modules, inside the tokens of the modules. -/
theorem modules_nest (s : Spec) :
    (∀ name, Token.IsBareName name → IsSegment name) ∧
    (∀ path pieces names, path.toList = doubleColon.intercalate pieces →
      SpellsNames pieces names → (∀ name ∈ names, IsSegment name) →
      (s.inModule path).modulePath = names) ∧
    (∀ path, ∃ pieces, path.toList = doubleColon.intercalate pieces ∧
      (∀ piece ∈ pieces, ¬ doubleColon <:+: piece) ∧
      SpellsNames pieces (s.inModule path).modulePath ∧
      ∀ name ∈ (s.inModule path).modulePath,
        name.toList ≠ [] ∧ IsTrimmed name.toList ∧ ¬ doubleColon <:+: name.toList) ∧
    ((∀ segment ∈ s.modulePath, Token.IsBareName segment) → ∀ around,
      (s.generateWith around).answer
        = (({ s with modulePath := [] } : Spec).generateWith around).answer.map
            (s.modulePath.foldr moduleTokens)) :=
  ⟨fun _ hname => hname.isSegment,
    fun _ _ _ hpath hspells hnames => moduleNames_of_spells hpath hspells hnames,
    exists_pieces, answer_inModules⟩

/-- A path with blank pieces, and white space of more than one kind around its names. -/
theorem modules_nest_padded :
    let s : Spec := Spec.of "A" "a"
    let path := ":: dates\u3000::\t::parts ::"
    (∀ name ∈ ["dates", "parts"], Token.IsBareName name) ∧
      (s.inModule path).modulePath = ["dates", "parts"] ∧
      ((s.inModule path).generateWith .standard).answer
        = (s.generateWith .standard).answer.map fun ts =>
            moduleTokens "dates" (moduleTokens "parts" ts) := by
  intro s path
  have hbare : ∀ name ∈ ["dates", "parts"], Token.IsBareName name := by
    intro name hname
    have hself : Token.name? name = some name := by
      revert name
      decide +kernel
    exact Token.name?_self_iff.mp hself
  have hspells : SpellsNames [[], [' '] ++ "dates".toList ++ ['\u3000'], ['\t'],
      [] ++ "parts".toList ++ [' '], []] ["dates", "parts"] :=
    .blank (List.forall_mem_nil _) (.name (List.all_eq_true.mp (by decide))
      (List.all_eq_true.mp (by decide)) (.blank (List.all_eq_true.mp (by decide))
        (.name (List.forall_mem_nil _) (List.all_eq_true.mp (by decide))
          (.blank (List.forall_mem_nil _) .nil))))
  have hpath : (s.inModule path).modulePath = ["dates", "parts"] :=
    (modules_nest s).2.1 path _ _ (by decide +kernel) hspells fun name hname =>
      (modules_nest s).1 name (hbare name hname)
  refine ⟨hbare, hpath, ?_⟩
  have hnest := (modules_nest (s.inModule path)).2.2.2 (hpath ▸ hbare) .standard
  rw [hpath] at hnest
  exact hnest

end Spec

end CaptureTypes
