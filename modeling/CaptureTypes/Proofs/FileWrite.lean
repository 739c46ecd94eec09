/-
# What a write changes

A write that succeeds changes one entry: the file at the place where its
path leads (`writeBytes_eq_ok_iff`).  No path leads elsewhere afterwards,
because the folders are what they were (`target_set`): the entry written
was no folder before and is none now, so no path goes through it.  Hence
the content is read back at the path, and every path that leads to another
place reads what it read.
-/
import CaptureTypes.Files

namespace CaptureTypes.Files

variable {fs fs' : Files} {l l' : Location} {path : String} {content : ByteArray}

theorem bind_eq_ok {ε α β : Type} {x : Except ε α} {f : α → Except ε β} {b : β} :
    x >>= f = .ok b ↔ ∃ a, x = .ok a ∧ f a = .ok b := by
  cases x with
  | error e => simp [bind, Except.bind]
  | ok a => simp [bind, Except.bind]

/-! ## Entries -/

theorem find?_set_self (e : Entry) (h : l ≠ []) : (fs.set l e).find? l = some e := by
  rw [find?, if_neg (by simpa using h), set, List.lookup_cons_self]

theorem lookup_filter_ne (entries : List (Location × Entry)) (h : l' ≠ l) :
    (entries.filter fun entry => entry.1 != l).lookup l' = entries.lookup l' := by
  induction entries with
  | nil => rfl
  | cons entry entries ih =>
      obtain ⟨k, e⟩ := entry
      by_cases hk : k = l
      · subst hk
        rw [List.filter_cons_of_neg (by simp), ih, List.lookup_cons, beq_eq_false_iff_ne.mpr h]
      · rw [List.filter_cons_of_pos (by simpa using hk), List.lookup_cons, List.lookup_cons, ih]

theorem find?_set_of_ne (e : Entry) (h : l' ≠ l) : (fs.set l e).find? l' = fs.find? l' := by
  simp only [find?, set, List.lookup_cons, beq_eq_false_iff_ne.mpr h, lookup_filter_ne _ h]

/-! ## Where paths lead -/

theorem walk_cons_eq_ok {here there : Location} {c : List Char} {rest : List (List Char)}
    (hdot : c ≠ ['.']) (hdots : c ≠ ['.', '.']) :
    fs.walk here (c :: rest) = .ok there ↔ Text.byteLength c ≤ nameLimit ∧
      fs.find? (here ++ [c]) = some .folder ∧ fs.walk (here ++ [c]) rest = .ok there := by
  rw [walk, if_neg hdot, if_neg hdots]
  by_cases hlong : nameLimit < Text.byteLength c
  · simp [hlong, Nat.not_le_of_lt hlong]
  · rw [if_neg hlong]
    cases hfind : fs.find? (here ++ [c]) with
    | none => simp
    | some e =>
        cases e with
        | file _ => simp
        | folder => simp [Nat.le_of_not_lt hlong]

/-- The folders that a path goes through are those it went through before. -/
theorem walk_set (h : fs.find? l ≠ some .folder) (hl : l ≠ []) {here there : Location}
    {names : List (List Char)} :
    (fs.set l (.file content)).walk here names = .ok there ↔ fs.walk here names = .ok there := by
  induction names generalizing here with
  | nil => exact Iff.rfl
  | cons c rest ih =>
      by_cases hdot : c = ['.']
      · rw [walk, if_pos hdot, walk, if_pos hdot]
        exact ih
      · by_cases hdots : c = ['.', '.']
        · rw [walk, if_neg hdot, if_pos hdots, walk, if_neg hdot, if_pos hdots]
          exact ih
        · have hfolder : (fs.set l (.file content)).find? (here ++ [c]) = some .folder ↔
              fs.find? (here ++ [c]) = some .folder := by
            by_cases hplace : here ++ [c] = l
            · rw [hplace, find?_set_self _ hl]
              exact ⟨nofun, fun hold => absurd hold h⟩
            · rw [find?_set_of_ne _ hplace]
          rw [walk_cons_eq_ok hdot hdots, walk_cons_eq_ok hdot hdots, hfolder, ih]

theorem target_set (h : fs.find? l ≠ some .folder) (hl : l ≠ []) {t : Target} :
    (fs.set l (.file content)).target path = .ok t ↔ fs.target path = .ok t := by
  unfold target
  simp only
  split
  · exact Iff.rfl
  · split
    · exact Iff.rfl
    · split
      · exact Iff.rfl
      · split
        · exact Iff.rfl
        · simp only [bind_eq_ok, walk_set h hl]
          refine exists_congr fun here => and_congr_right fun _ => ?_
          split
          · simp only [bind_eq_ok, walk_set h hl]
          · exact Iff.rfl

/-- A name in a folder is a place below it. -/
theorem ne_nil_of_target {slash : Bool} (h : fs.target path = .ok (.named l slash)) : l ≠ [] := by
  unfold target at h
  simp only at h
  split at h
  · cases h
  · split at h
    · cases h
    · split at h
      · cases h
      · split at h
        · cases h
        · obtain ⟨here, -, h⟩ := bind_eq_ok.mp h
          split at h
          · obtain ⟨there, -, h⟩ := bind_eq_ok.mp h
            cases h
          · split at h
            · cases h
            · cases h
              simp

/-! ## Writing -/

theorem writeBytes_eq_ok_iff :
    fs.writeBytes path content = .ok fs' ↔ ∃ l, fs.target path = .ok (.named l false) ∧
      fs.find? l ≠ some .folder ∧ fs' = fs.set l (.file content) := by
  rw [writeBytes, bind_eq_ok]
  constructor
  · rintro ⟨t, ht, h⟩
    cases t with
    | folder l => cases h
    | named l slash =>
        cases slash with
        | true => cases h
        | false =>
            simp only [Bool.false_eq_true, if_false] at h
            split at h
            · cases h
            · rename_i hfind
              cases h
              exact ⟨l, ht, hfind, rfl⟩
  · rintro ⟨l, ht, hfind, rfl⟩
    refine ⟨_, ht, ?_⟩
    simp only [Bool.false_eq_true, if_false]

theorem readBytes_eq_ok_iff :
    fs.readBytes path = .ok content ↔
      ∃ l, fs.target path = .ok (.named l false) ∧ fs.find? l = some (.file content) := by
  rw [readBytes, bind_eq_ok]
  constructor
  · rintro ⟨t, ht, h⟩
    cases t with
    | folder l => cases h
    | named l slash =>
        simp only at h
        split at h
        · cases h
        · cases h
        · rename_i hfind
          cases slash with
          | true => cases h
          | false =>
              cases h
              exact ⟨l, ht, hfind⟩
  · rintro ⟨l, ht, hfind⟩
    refine ⟨_, ht, ?_⟩
    simp only [hfind, Bool.false_eq_true, if_false]

/-- What is the case after a content was written to a place: it stands there, every other place
holds what it held, and every path leads where it led. -/
structure IsWritten (fs fs' : Files) (l : Location) (content : ByteArray) : Prop where
  here : fs'.find? l = some (.file content)
  elsewhere : ∀ l', l' ≠ l → fs'.find? l' = fs.find? l'
  paths : ∀ path t, fs'.target path = .ok t ↔ fs.target path = .ok t

theorem isWritten_of_writeBytes (h : fs.writeBytes path content = .ok fs') :
    ∃ l, fs.target path = .ok (.named l false) ∧ IsWritten fs fs' l content := by
  obtain ⟨l, htarget, hfind, rfl⟩ := writeBytes_eq_ok_iff.mp h
  have hl : l ≠ [] := ne_nil_of_target htarget
  exact ⟨l, htarget, find?_set_self _ hl, fun _ => find?_set_of_ne _,
    fun _ _ => target_set hfind hl⟩

/-- What was written is read back. -/
theorem IsWritten.readBytes_here (h : IsWritten fs fs' l content)
    (hpath : fs.target path = .ok (.named l false)) : fs'.readBytes path = .ok content :=
  readBytes_eq_ok_iff.mpr ⟨l, (h.paths path _).mpr hpath, h.here⟩

/-- A path that does not lead to what was written reads what it read. -/
theorem IsWritten.readBytes_elsewhere (h : IsWritten fs fs' l content)
    (hpath : fs.target path ≠ .ok (.named l false)) (found : ByteArray) :
    fs'.readBytes path = .ok found ↔ fs.readBytes path = .ok found := by
  rw [readBytes_eq_ok_iff, readBytes_eq_ok_iff]
  refine exists_congr fun l' => ?_
  rw [h.paths]
  refine and_congr_right fun htarget => ?_
  rw [h.elsewhere l' fun heq => hpath (heq ▸ htarget)]

/-! ## Texts -/

theorem fromUTF8?_eq_some_iff {bytes : ByteArray} {text : String} :
    String.fromUTF8? bytes = some text ↔ bytes = text.toUTF8 := by
  rw [String.fromUTF8?]
  constructor
  · intro h
    split at h
    · cases h
      rfl
    · cases h
  · rintro rfl
    have hvalid : text.toUTF8.IsValidUTF8 := text.isValidUTF8
    rw [dif_pos hvalid]
    rfl

theorem readText_of_text {text : String} (h : fs.readBytes path = .ok text.toUTF8) :
    fs.readText path = .ok text := by
  have htext : String.fromUTF8? text.toUTF8 = some text := fromUTF8?_eq_some_iff.mpr rfl
  rw [readText, h]
  simp only [bind, Except.bind, htext]

theorem readText_of_no_text (h : fs.readBytes path = .ok content)
    (hno : ∀ text : String, content ≠ text.toUTF8) : fs.readText path = .error .notText := by
  have hnone : String.fromUTF8? content = none :=
    Option.eq_none_iff_forall_ne_some.mpr fun text h => hno text (fromUTF8?_eq_some_iff.mp h)
  rw [readText, h]
  simp only [bind, Except.bind, hnone]

theorem readText_of_error {e : FileError} (h : fs.readBytes path = .error e) :
    fs.readText path = .error e := by
  rw [readText, h]
  rfl

end CaptureTypes.Files
