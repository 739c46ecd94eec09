/-
# The numbers and names of groups

The reader numbers the groups from 1 on.  It refuses a name that it has seen
before, and a name that is empty or holds a character that no name may hold.
What it has seen is part of its state, so these facts are an invariant of the
state: every named group of the trees read so far has its name among the
names seen, and two groups of one name are one group.

`Reader.turn_grows` says once what a turn may do to the groups: it keeps
those that are there, or adds one, without a name or under a fresh one.  The
invariant `Reader.Named` follows for a whole run, and from there for the
tree.
-/
import CaptureTypes.Pattern.Reader

namespace CaptureTypes.Pattern

/-- A chain of two steps answers iff both steps do. -/
theorem bind_eq_ok {ε α β : Type} {x : Except ε α} {f : α → Except ε β} {b : β} :
    (x >>= f) = .ok b ↔ ∃ a, x = .ok a ∧ f a = .ok b := by
  cases x with
  | error e => simp [bind, Except.bind]
  | ok a => simp [bind, Except.bind]

theorem refuse_ne_ok {α : Type} {cause : Cause} {span : Span} {a : α} :
    refuse cause span ≠ .ok a := by
  intro h
  cases h

/-! ## Words that name a group -/

/-- The characters of a name: one that may stand first, and others that may follow. -/
def IsGroupName : List Char → Prop
  | [] => False
  | c :: rest => isNameChar true c = true ∧ ∀ d ∈ rest, isNameChar false d = true

theorem readNameChars_ok {first : Bool} {cs : List Char} {p : Place} {name : List Char}
    {after : Cursor} (h : readNameChars first cs p = .ok (name, after)) :
    name = [] ∨ ∃ c rest, name = c :: rest ∧ isNameChar first c = true ∧
      ∀ d ∈ rest, isNameChar false d = true := by
  induction cs generalizing first p name after with
  | nil => exact absurd h refuse_ne_ok
  | cons c cs ih =>
      rw [readNameChars] at h
      split at h
      · cases h
        exact .inl rfl
      · split at h
        · rename_i hc
          obtain ⟨⟨rest, after'⟩, hrest, heq⟩ := bind_eq_ok.mp h
          cases heq
          refine .inr ⟨c, rest, rfl, hc, ?_⟩
          rcases ih hrest with rfl | ⟨d, rest, rfl, hd, hall⟩
          · exact fun _ h => absurd h List.not_mem_nil
          · exact List.forall_mem_cons.mpr ⟨hd, hall⟩
        · exact absurd h refuse_ne_ok

theorem lookup_eq_none_iff_notMem {α β : Type} [BEq α] [LawfulBEq α] {a : α} {l : List (α × β)} :
    l.lookup a = none ↔ a ∉ l.map Prod.fst := by
  rw [List.lookup_eq_none_iff, List.mem_map]
  constructor
  · rintro h ⟨x, hx, rfl⟩
    exact bne_iff_ne.mp (h x hx) rfl
  · exact fun h x hx => bne_iff_ne.mpr fun heq => h ⟨x, hx, heq.symm⟩

/-- A name that is read is fresh and has the shape of a name. -/
theorem readName_ok {known : List (String × Span)} {c : Cursor} {name : String} {span : Span}
    {after : Cursor} (h : readName known c = .ok ((name, span), after)) :
    IsGroupName name.toList ∧ name ∉ known.map Prod.fst := by
  obtain ⟨⟨cs, close⟩, hcs, h⟩ := bind_eq_ok.mp h
  simp only at h
  split at h
  · exact absurd h refuse_ne_ok
  · rename_i hne
    split at h
    · exact absurd h refuse_ne_ok
    · rename_i hfresh
      cases h
      refine ⟨?_, lookup_eq_none_iff_notMem.mp hfresh⟩
      rcases readNameChars_ok hcs with rfl | ⟨d, rest, rfl, hd, hall⟩
      · exact absurd rfl hne
      · rw [String.toList_ofList]
        exact ⟨hd, hall⟩

/-! ## The groups of a tree -/

/-- The number of a group that has one, and its name if it has one. -/
def GroupKind.given : GroupKind → List (Nat × Option String)
  | .numbered index => [(index, none)]
  | .named index name => [(index, some name)]
  | .plain _ => []

mutual

/-- The groups of a tree, with their numbers and names. -/
def Tree.given : Tree → List (Nat × Option String)
  | .repetition _ _ _ _ sub => sub.given
  | .group _ kind sub => kind.given ++ sub.given
  | .alternation _ subs => givenAll subs
  | .concat _ subs => givenAll subs
  | _ => []

/-- The groups of several trees. -/
def givenAll : List Tree → List (Nat × Option String)
  | [] => []
  | t :: rest => t.given ++ givenAll rest

end

theorem givenAll_eq_flatMap (ts : List Tree) : givenAll ts = ts.flatMap Tree.given := by
  induction ts with
  | nil => rfl
  | cons t ts ih => rw [givenAll, ih, List.flatMap_cons]

@[simp] theorem mem_givenAll {x : Nat × Option String} {ts : List Tree} :
    x ∈ givenAll ts ↔ ∃ t ∈ ts, x ∈ t.given := by
  rw [givenAll_eq_flatMap, List.mem_flatMap]

theorem mem_given_ofParts {x : Nat × Option String} {span : Span} {ts : List Tree} :
    x ∈ (Tree.ofParts span ts).given ↔ ∃ t ∈ ts, x ∈ t.given := by
  match ts with
  | [] => simp [Tree.ofParts, Tree.given]
  | [t] => simp [Tree.ofParts]
  | t :: u :: ts => exact mem_givenAll

theorem mem_given_ofBranches {x : Nat × Option String} {span : Span} {ts : List Tree} :
    x ∈ (Tree.ofBranches span ts).given ↔ ∃ t ∈ ts, x ∈ t.given := by
  match ts with
  | [] => simp [Tree.ofBranches, Tree.given]
  | [t] => simp [Tree.ofBranches]
  | t :: u :: ts => exact mem_givenAll

/-! ## Signs are no groups -/

theorem readHex_given {m : Mode} {start : Place} {letter : Char} {c after : Cursor} {t : Tree}
    (h : readHex m start letter c = .ok (t, after)) : t.given = [] := by
  unfold readHex at h
  simp only at h
  split at h
  · exact absurd h refuse_ne_ok
  · split at h
    · split at h
      · exact absurd h refuse_ne_ok
      · split at h
        · exact absurd h refuse_ne_ok
        · split at h
          · exact absurd h refuse_ne_ok
          · split at h
            · exact absurd h refuse_ne_ok
            · cases h
              rfl
    · obtain ⟨⟨digits, after'⟩, -, h⟩ := bind_eq_ok.mp h
      simp only at h
      split at h
      · exact absurd h refuse_ne_ok
      · cases h
        rfl

theorem readProperty_given {m : Mode} {start : Place} {negated : Bool} {c after : Cursor} {t : Tree}
    (h : readProperty m start negated c = .ok (t, after)) : t.given = [] := by
  unfold readProperty at h
  simp only at h
  split at h
  · exact absurd h refuse_ne_ok
  · split at h
    · split at h
      · exact absurd h refuse_ne_ok
      · cases h
        rfl
    · split at h
      · exact absurd h refuse_ne_ok
      · cases h
        rfl

theorem readEscape_given {m : Mode} {c after : Cursor} {t : Tree}
    (h : readEscape m c = .ok (t, after)) : t.given = [] := by
  unfold readEscape at h
  simp only at h
  split at h
  · exact absurd h refuse_ne_ok
  · split at h
    · cases h
      rfl
    · split at h
      · exact absurd h refuse_ne_ok
      · split at h
        · exact readHex_given h
        · split at h
          · exact readProperty_given h
          · split at h
            · cases h
              rfl
            · cases h
              rfl
            · cases h
              rfl
            · split at h
              · cases h
                rfl
              · split at h
                · split at h
                  · obtain ⟨⟨kind, stop⟩, -, h⟩ := bind_eq_ok.mp h
                    cases kind <;> cases h <;> rfl
                  · cases h
                    rfl
                · exact absurd h refuse_ne_ok

theorem readLevel_given {m : Mode} {fuel : Nat} {stack : List Open} {u : Items} {c after : Cursor}
    {t : Tree} (h : readLevel m fuel stack u c = .ok (t, after)) : t.given = [] := by
  induction fuel generalizing stack u c with
  | zero => exact absurd h refuse_ne_ok
  | succ fuel ih =>
      unfold readLevel at h
      simp only at h
      split at h
      · exact absurd h refuse_ne_ok
      · split at h
        · exact ih h
        · obtain ⟨⟨span, negated, items, after'⟩, -, h⟩ := bind_eq_ok.mp h
          exact ih h
      · split at h
        · split at h
          · cases h
            rfl
          · exact ih h
        · exact absurd h refuse_ne_ok
      · split at h
        · exact ih h
        · obtain ⟨⟨item, after'⟩, -, h⟩ := bind_eq_ok.mp h
          exact ih h

/-! ## What a turn does to the groups -/

/-- The groups of what is open. -/
def Frame.given : Frame → List (Nat × Option String)
  | .group outer _ kind _ => kind.given ++ givenAll outer.trees
  | .branches _ done => givenAll done

/-- The groups that were read or are open. -/
def Reader.given (r : Reader) : List (Nat × Option String) :=
  givenAll r.parts.trees ++ r.stack.flatMap Frame.given

/-- What may happen to the groups in a turn: those there are stay or go, and one may come,
without a name or under a fresh one. -/
inductive Grows (r r' : Reader) : Prop where
  | kept (given : r'.given ⊆ r.given) (names : r'.names = r.names)
  | numbered (index : Nat)
      (given : r'.given ⊆ (index, none) :: r.given)
      (names : r'.names = r.names)
      (positive : 0 < index)
  | named (index : Nat) (name : String) (span : Span)
      (given : r'.given ⊆ (index, some name) :: r.given)
      (names : r'.names = r.names ++ [(name, span)])
      (fresh : name ∉ r.names.map Prod.fst)
      (positive : 0 < index)
      (shaped : IsGroupName name.toList)

namespace Reader

theorem mem_given {r : Reader} {x : Nat × Option String} :
    x ∈ r.given ↔ (∃ t ∈ r.parts.trees, x ∈ t.given) ∨ ∃ f ∈ r.stack, x ∈ f.given := by
  rw [given, List.mem_append, mem_givenAll, List.mem_flatMap]

theorem mem_given_push {r : Reader} {t : Tree} {after : Cursor} {x : Nat × Option String} :
    x ∈ (r.push t after).given ↔ x ∈ t.given ∨ x ∈ r.given := by
  simp only [mem_given, push, List.mem_cons, exists_eq_or_imp, or_assoc]

theorem push_grows {r : Reader} {t : Tree} {after : Cursor} (h : t.given = []) :
    Grows r (r.push t after) := by
  refine .kept (fun x hx => ?_) rfl
  rcases mem_given_push.mp hx with hx | hx
  · exact absurd (h ▸ hx) List.not_mem_nil
  · exact hx

theorem mem_given_enter {r : Reader} {span : Span} {kind : GroupKind} {verbose : Bool}
    {after : Cursor} {x : Nat × Option String} :
    x ∈ (r.enter span kind verbose after).given ↔ x ∈ kind.given ∨ x ∈ r.given := by
  simp [mem_given, enter, Frame.given, or_assoc]

theorem readOpen_grows {r r' : Reader} (h : r.readOpen = .ok r') : Grows r r' := by
  unfold readOpen at h
  simp only at h
  split at h
  · obtain ⟨-, h, -⟩ := bind_eq_ok.mp h
    exact absurd h refuse_ne_ok
  · split at h
    · obtain ⟨⟨⟨name, span⟩, after⟩, hname, h⟩ := bind_eq_ok.mp h
      obtain ⟨hshape, hfresh⟩ := readName_ok hname
      cases h
      refine .named (r.groups + 1) name span (fun x hx => ?_) rfl hfresh r.groups.succ_pos hshape
      rcases mem_given_enter.mp hx with hx | hx
      · exact List.mem_cons.mpr (.inl (List.mem_singleton.mp hx))
      · exact List.mem_cons_of_mem _ hx
    · split at h
      · cases h
        refine .numbered (r.groups + 1) (fun x hx => ?_) rfl r.groups.succ_pos
        rcases mem_given_enter.mp hx with hx | hx
        · exact List.mem_cons.mpr (.inl (List.mem_singleton.mp hx))
        · exact List.mem_cons_of_mem _ hx
      · split at h
        · obtain ⟨-, h, -⟩ := bind_eq_ok.mp h
          exact absurd h refuse_ne_ok
        · obtain ⟨⟨items, close⟩, -, h⟩ := bind_eq_ok.mp h
          simp only at h
          split at h
          · cases h
            refine .kept (fun x hx => ?_) rfl
            exact (mem_given_enter.mp hx).resolve_left List.not_mem_nil
          · split at h
            · exact absurd h refuse_ne_ok
            · cases h
              refine .kept (fun x hx => ?_) rfl
              exact (mem_given_push.mp hx).resolve_left List.not_mem_nil

theorem closeBranches_given {body t : Tree} {stop : Place} {stack rest : List Frame}
    (h : closeBranches body stop stack = (t, rest)) {x : Nat × Option String}
    (hx : x ∈ t.given ∨ ∃ f ∈ rest, x ∈ f.given) : x ∈ body.given ∨ ∃ f ∈ stack, x ∈ f.given := by
  unfold closeBranches at h
  split at h
  · rename_i start done rest'
    cases h
    rcases hx with hx | ⟨f, hf, hx⟩
    · obtain ⟨u, hu, hxu⟩ := mem_given_ofBranches.mp hx
      rcases List.mem_cons.mp (List.mem_reverse.mp hu) with rfl | hu
      · exact .inl hxu
      · exact .inr ⟨_, List.mem_cons_self, mem_givenAll.mpr ⟨u, hu, hxu⟩⟩
    · exact .inr ⟨f, List.mem_cons_of_mem _ hf, hx⟩
  · cases h
    exact hx

theorem mem_given_toTree {p : Parts} {stop : Place} {x : Nat × Option String}
    (hx : x ∈ (p.toTree stop).given) : ∃ t ∈ p.trees, x ∈ t.given := by
  obtain ⟨t, ht, hx⟩ := mem_given_ofParts.mp hx
  exact ⟨t, List.mem_reverse.mp ht, hx⟩

theorem readClose_grows {r r' : Reader} (h : r.readClose = .ok r') : Grows r r' := by
  unfold readClose at h
  simp only at h
  split at h
  · rename_i body outer span kind verbose rest hclose
    cases h
    refine .kept (fun x hx => ?_) rfl
    have hopen : x ∈ body.given ∨
        ∃ f ∈ Frame.group outer span kind verbose :: rest, x ∈ f.given := by
      rcases mem_given_push.mp hx with hx | hx
      · rcases List.mem_append.mp hx with hx | hx
        · exact .inr ⟨_, List.mem_cons_self, List.mem_append_left _ hx⟩
        · exact .inl hx
      · rcases mem_given.mp hx with hx | ⟨f, hf, hx⟩
        · exact .inr ⟨_, List.mem_cons_self, List.mem_append_right _ (mem_givenAll.mpr hx)⟩
        · exact .inr ⟨f, List.mem_cons_of_mem _ hf, hx⟩
    rcases closeBranches_given hclose hopen with hx | hx
    · exact mem_given.mpr (.inl (mem_given_toTree hx))
    · exact mem_given.mpr (.inr hx)
  · exact absurd h refuse_ne_ok

/-- A sign for alternatives moves the parts read so far into a branch. -/
theorem readBranch_grows (r : Reader) : Grows r r.readBranch := by
  refine .kept (fun x hx => mem_given.mpr ?_) rfl
  obtain ⟨t, ht, -⟩ | ⟨f, hf, hx⟩ := mem_given.mp hx
  · exact absurd ht List.not_mem_nil
  · simp only [readBranch] at hf
    split at hf
    · rename_i start done rest hstack
      rw [hstack]
      rcases List.mem_cons.mp hf with rfl | hf
      · obtain ⟨t, ht, hxt⟩ := mem_givenAll.mp hx
        rcases List.mem_cons.mp ht with rfl | ht
        · exact .inl (mem_given_toTree hxt)
        · exact .inr ⟨_, List.mem_cons_self, mem_givenAll.mpr ⟨t, ht, hxt⟩⟩
      · exact .inr ⟨f, List.mem_cons_of_mem _ hf, hx⟩
    · rcases List.mem_cons.mp hf with rfl | hf
      · obtain ⟨t, ht, hxt⟩ := mem_givenAll.mp hx
        rcases List.mem_singleton.mp ht with rfl
        exact .inl (mem_given_toTree hxt)
      · exact .inr ⟨f, hf, hx⟩

theorem repeated_ok {r : Reader} {sub : Tree} {before : List Tree}
    (h : r.repeated = .ok (sub, before)) : r.parts.trees = sub :: before := by
  unfold repeated at h
  split at h
  · exact absurd h refuse_ne_ok
  · exact absurd h refuse_ne_ok
  · exact absurd h refuse_ne_ok
  · rename_i heq
    cases h
    exact heq

theorem pushRepetition_grows {r : Reader} {sub : Tree} {before : List Tree} {min : Nat}
    {max : Option Nat} {greedy : Bool} {after : Cursor} (h : r.parts.trees = sub :: before) :
    Grows r (r.pushRepetition sub before min max greedy after) := by
  refine .kept (fun x hx => mem_given.mpr ?_) rfl
  rw [h]
  rcases mem_given_push.mp hx with hx | hx
  · exact .inl ⟨sub, List.mem_cons_self, hx⟩
  · exact (mem_given.mp hx).imp_left fun ⟨t, ht, hx⟩ => ⟨t, List.mem_cons_of_mem _ ht, hx⟩

theorem readRepetition_grows {r r' : Reader} {min : Nat} {max : Option Nat}
    (h : r.readRepetition min max = .ok r') : Grows r r' := by
  obtain ⟨⟨sub, before⟩, hrep, h⟩ := bind_eq_ok.mp h
  cases h
  exact pushRepetition_grows (repeated_ok hrep)

theorem readCounted_grows {r r' : Reader} (h : r.readCounted = .ok r') : Grows r r' := by
  obtain ⟨⟨sub, before⟩, hrep, h⟩ := bind_eq_ok.mp h
  obtain ⟨⟨min, max, close⟩, -, h⟩ := bind_eq_ok.mp h
  simp only at h
  split at h
  · split at h
    · exact absurd h refuse_ne_ok
    · cases h
      exact pushRepetition_grows (repeated_ok hrep)
  · cases h
    exact pushRepetition_grows (repeated_ok hrep)

/-- A turn keeps the groups, or adds one without a name or under a fresh one. -/
theorem turn_grows {r r' : Reader} {x : Char} (h : r.turn x = .ok r') : Grows r r' := by
  unfold turn at h
  simp only at h
  split at h
  · exact readOpen_grows h
  · exact readClose_grows h
  · cases h
    exact readBranch_grows r
  · obtain ⟨⟨t, after⟩, ht, h⟩ := bind_eq_ok.mp h
    cases h
    exact push_grows (readLevel_given ht)
  · exact readRepetition_grows h
  · exact readRepetition_grows h
  · exact readRepetition_grows h
  · exact readCounted_grows h
  · obtain ⟨⟨t, after⟩, ht, h⟩ := bind_eq_ok.mp h
    cases h
    exact push_grows (readEscape_given ht)
  all_goals
    cases h
    exact push_grows rfl

end Reader

/-! ## The invariant of a run -/

/-- Groups with positive numbers that are told apart by the names they have: two of one name are
one group, and the names have the shape of names. -/
structure WellNamed (groups : List (Nat × Option String)) : Prop where
  positive : ∀ x ∈ groups, 0 < x.1
  unique : ∀ {i j : Nat} {name : String},
    (i, some name) ∈ groups → (j, some name) ∈ groups → i = j
  shaped : ∀ {i : Nat} {name : String}, (i, some name) ∈ groups → IsGroupName name.toList

namespace WellNamed

variable {groups fewer : List (Nat × Option String)} {index : Nat} {name : String}

theorem mono (h : WellNamed groups) (hfewer : fewer ⊆ groups) : WellNamed fewer where
  positive := fun x hx => h.positive x (hfewer hx)
  unique := fun hi hj => h.unique (hfewer hi) (hfewer hj)
  shaped := fun hi => h.shaped (hfewer hi)

theorem cons_none (h : WellNamed groups) (hpos : 0 < index) :
    WellNamed ((index, none) :: groups) where
  positive := List.forall_mem_cons.mpr ⟨hpos, h.positive⟩
  unique := fun hi hj =>
    h.unique ((List.mem_cons.mp hi).resolve_left fun e => by cases e)
      ((List.mem_cons.mp hj).resolve_left fun e => by cases e)
  shaped := fun hi => h.shaped ((List.mem_cons.mp hi).resolve_left fun e => by cases e)

theorem cons_some (h : WellNamed groups) (hother : ∀ i, (i, some name) ∉ groups)
    (hpos : 0 < index) (hshape : IsGroupName name.toList) :
    WellNamed ((index, some name) :: groups) where
  positive := List.forall_mem_cons.mpr ⟨hpos, h.positive⟩
  unique := by
    intro i j n hi hj
    rcases List.mem_cons.mp hi with e | hi
    · cases e
      rcases List.mem_cons.mp hj with e | hj
      · cases e
        rfl
      · exact absurd hj (hother j)
    · rcases List.mem_cons.mp hj with e | hj
      · cases e
        exact absurd hi (hother i)
      · exact h.unique hi hj
  shaped := by
    intro i n hi
    rcases List.mem_cons.mp hi with e | hi
    · cases e
      exact hshape
    · exact h.shaped hi

end WellNamed

namespace Reader

/-- What holds of the groups at every moment: their names were seen and tell them apart. -/
structure Named (r : Reader) : Prop where
  seen : ∀ {i : Nat} {name : String}, (i, some name) ∈ r.given → name ∈ r.names.map Prod.fst
  apart : WellNamed r.given

theorem Named.start (m : Mode) (pattern : List Char) : (Reader.start m pattern).Named where
  seen := fun hx => absurd hx List.not_mem_nil
  apart := ⟨fun _ hx => absurd hx List.not_mem_nil, fun hx => absurd hx List.not_mem_nil,
    fun hx => absurd hx List.not_mem_nil⟩

/-- The invariant is kept by whatever a turn may do. -/
theorem Named.grows {r r' : Reader} (hr : r.Named) (h : Grows r r') : r'.Named := by
  cases h with
  | kept hgiven hnames =>
      constructor
      · exact fun hx => hnames ▸ hr.seen (hgiven hx)
      · exact hr.apart.mono hgiven
  | numbered index hgiven hnames hpos =>
      constructor
      · intro i name hx
        rw [hnames]
        exact hr.seen ((List.mem_cons.mp (hgiven hx)).resolve_left fun e => by cases e)
      · exact (hr.apart.cons_none hpos).mono hgiven
  | named index name span hgiven hnames hfresh hpos hshape =>
      constructor
      · intro i n hx
        rw [hnames, List.map_append, List.mem_append]
        rcases List.mem_cons.mp (hgiven hx) with e | hx
        · cases e
          exact .inr List.mem_cons_self
        · exact .inl (hr.seen hx)
      · -- a group that was there cannot have the new name, for its own was seen
        have hother : ∀ i, (i, some name) ∉ r.given := fun i hi => hfresh (hr.seen hi)
        exact (hr.apart.cons_some hother hpos hshape).mono hgiven

/-- The invariant holds after a run if it holds before. -/
theorem Named.run {fuel : Nat} {r r' : Reader} (hr : r.Named) (h : Reader.run fuel r = .ok r') :
    r'.Named := by
  induction fuel generalizing r with
  | zero =>
      cases h
      exact hr
  | succ fuel ih =>
      unfold Reader.run at h
      simp only at h
      have hmoved : Named { r with cursor := r.cursor.skip r.mode } :=
        ⟨hr.seen, hr.apart⟩
      split at h
      · cases h
        exact hmoved
      · obtain ⟨next, hturn, h⟩ := bind_eq_ok.mp h
        exact ih (hmoved.grows (turn_grows hturn)) h

theorem finish_given {r : Reader} {t : Tree} (h : r.finish = .ok t) : t.given ⊆ r.given := by
  unfold finish at h
  simp only at h
  split at h
  · exact absurd h refuse_ne_ok
  · rename_i u rest hclose
    cases h
    intro x hx
    rcases closeBranches_given hclose (.inl hx) with hx | hx
    · exact mem_given.mpr (.inl (mem_given_toTree hx))
    · exact mem_given.mpr (.inr hx)

end Reader

/-- The groups of a pattern that is read have positive numbers and are told apart by their
names. -/
theorem wellNamed_of_read {m : Mode} {pattern : List Char} {t : Tree}
    (h : read m pattern = .ok t) : WellNamed t.given := by
  obtain ⟨r, hrun, h⟩ := bind_eq_ok.mp h
  obtain ⟨u, hfinish, h⟩ := bind_eq_ok.mp h
  split at h
  · exact absurd h refuse_ne_ok
  · cases h
    exact ((Reader.Named.start m pattern).run hrun).apart.mono (Reader.finish_given hfinish)

end CaptureTypes.Pattern
