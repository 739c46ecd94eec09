/-
# Names that no toggle has

Three readers take the name of a toggle from outside: the write by name,
the arguments of the attribute, and the documents of the data format.  The
first two refuse a name that no toggle has.  The third does not: a member
with such a name is dropped, wherever it stands in an object of options,
and the document is read as it is read without the member.

To take a name out of a document (`without`) is to take it out of every
object of options in it; a document without the name can be written in any
way.
-/
import CaptureTypes.OptionSession
import CaptureTypes.Proofs.FlagList
import CaptureTypes.Proofs.ManifestText

namespace CaptureTypes

open Json (Tree Writes)

variable {k : String}

theorem Toggle.named?_eq_none (h : k ∉ Toggle.names) : Toggle.named? k = none := by
  rw [Toggle.named?, List.find?_eq_none]
  intro t ht heq
  exact h (List.mem_map.mpr ⟨t, ht, by simpa using heq⟩)

theorem Options.setNamed?_eq_none (h : k ∉ Toggle.names) (o : Options) (value : Bool) :
    o.setNamed? k value = none := by
  rw [setNamed?, Toggle.named?_eq_none h, Option.map_none]

/-! ## Arguments of the attribute -/

namespace Grammar

variable {p q : Extent} {joint : Bool} {after : List SourceToken}

/-- The value of a flag ends before the next comma. -/
theorem flagValue_before_comma {front rest : List SourceToken} {value : Bool}
    (h : flagValue (front ++ .sign p ',' joint :: after) = .ok (value, rest)) :
    ∃ front', rest = front' ++ .sign p ',' joint :: after := by
  unfold flagValue at h
  split at h
  case h_1 ts heq =>
      split at h
      case h_1 found htruth =>
          cases h
          obtain ⟨place, rfl⟩ := exists_truthWord_of_truth? htruth
          rcases front with - | ⟨x, - | ⟨y, front⟩⟩
          · cases heq
          · cases heq
          · cases heq
            exact ⟨front, rfl⟩
      case h_2 => cases h
  case h_2 =>
      cases h
      exact ⟨front, rfl⟩

/-- Flags are read one by one, and the reading does not get past an unknown one. -/
theorem flags_unknown (h : k ∉ Toggle.names) (o : Options) (front : List SourceToken) :
    ∃ c, flags o (front ++ .sign p ',' joint :: .word q k :: after) = .error c := by
  generalize hts : front ++ .sign p ',' joint :: .word q k :: after = ts
  fun_induction flags o ts generalizing front with
  | case1 => simp at hts
  | case2 =>
      have hlength := congrArg List.length hts
      simp only [List.length_append, List.length_cons, List.length_nil] at hlength
      omega
  | case4 o _ _ place s ts _ value rest hvalue o' hset ih =>
      rcases front with - | ⟨x, - | ⟨y, front⟩⟩
      · cases hts
        rw [Options.setNamed?_eq_none h] at hset
        cases hset
      · cases hts
      · cases hts
        obtain ⟨front', rfl⟩ := flagValue_before_comma hvalue
        exact ih front' rfl
  | case3 | case5 | case6 | case7 | case8 => exact ⟨_, rfl⟩

/-- Arguments with an unknown flag are refused. -/
theorem arguments?_unknown (h : k ∉ Toggle.names) {text : String} {front : List SourceToken}
    (htext : Token.readAll text = .ok (front ++ .sign p ',' joint :: .word q k :: after)) :
    ∃ c, arguments? text = .error c := by
  rw [arguments?, htext]
  cases front with
  | nil => exact ⟨_, rfl⟩
  | cons x front =>
      cases x with
      | literal place s =>
          simp only [List.cons_append, Arguments.ofTokens]
          cases Token.quoted? s with
          | none => exact ⟨_, rfl⟩
          | some pattern =>
              have hflags : ∃ c, flags .standard (front ++ .sign p ',' joint :: .word q k :: after)
                  = .error c := flags_unknown h .standard front
              obtain ⟨c, hc⟩ := hflags
              exact ⟨c, by simp only [hc]; rfl⟩
      | word | sign | group => exact ⟨_, rfl⟩

end Grammar

/-! ## Documents -/

namespace Json

variable {α : Type}

/-- Changes the items of an array. -/
def Tree.mapItems (change : Tree → Tree) : Tree → Tree
  | .array ts => .array (ts.map change)
  | t => t

namespace Form

/-- Changes the items of an array, each by the name of its field. -/
def changeItems (change : String → Tree → Tree) : List (Field α) → List Tree → List Tree
  | f :: fs, t :: ts => change f.name t :: changeItems change fs ts
  | _, ts => ts

/-- Changes the values of the fields of a structure. -/
def changeFields (form : Form α) (change : String → Tree → Tree) : Tree → Tree
  | .array ts => .array (changeItems change form.fields ts)
  | .object ms => .object (ms.map fun e => (e.1, change e.1 e.2))
  | t => t

end Form

namespace Form.Meaning

variable {form : Form α} (m : form.Meaning)

/-- A member that is no field is dropped. -/
theorem decodeMembers_filter (hk : (form.fields.find? fun f => f.name == k) = none)
    (seen : List String) (a : α) (ms : List (String × Tree)) :
    m.decodeMembers seen a (ms.filter fun e => e.1 != k) = m.decodeMembers seen a ms := by
  induction ms generalizing seen a with
  | nil => rfl
  | cons e ms ih =>
      obtain ⟨key, t⟩ := e
      by_cases hkey : key = k
      · subst hkey
        simp [decodeMembers, hk, ih]
      · simp [decodeMembers, hkey, ih]

variable {change : String → Tree → Tree}

theorem decodeMembers_change (hchange : ∀ name t, m.put name (change name t) = m.put name t)
    (seen : List String) (a : α) (ms : List (String × Tree)) :
    m.decodeMembers seen a (ms.map fun e => (e.1, change e.1 e.2)) = m.decodeMembers seen a ms := by
  induction ms generalizing seen a with
  | nil => rfl
  | cons e ms ih => simp only [List.map_cons, decodeMembers, hchange, ih]

theorem decodeItems_change (hchange : ∀ name t, m.put name (change name t) = m.put name t)
    (fields : List (Field α)) (a : α) (ts : List Tree) :
    m.decodeItems fields a (Form.changeItems change fields ts) = m.decodeItems fields a ts := by
  induction fields generalizing a ts with
  | nil => rfl
  | cons f fields ih =>
      cases ts with
      | nil => rfl
      | cons t ts => simp only [Form.changeItems, decodeItems, hchange, ih]

/-- A change that no field notices is not noticed. -/
theorem decode_changeFields (hchange : ∀ name t, m.put name (change name t) = m.put name t)
    (t : Tree) : m.decode (form.changeFields change t) = m.decode t := by
  cases t with
  | array ts => exact m.decodeItems_change hchange form.fields form.blank ts
  | object ms =>
      simp only [Form.changeFields, decode, m.decodeMembers_change hchange]
  | null | bool | number | text => rfl

end Form.Meaning

end Json

namespace Options

/-- An object of options without a member. -/
def without (k : String) : Tree → Tree
  | .object ms => .object (ms.filter fun e => e.1 != k)
  | t => t

theorem decode_without (hk : k ∉ Toggle.names) (t : Tree) :
    meaning.decode (without k t) = meaning.decode t := by
  cases t with
  | object ms =>
      simp only [without, Json.Form.Meaning.decode,
        meaning.decodeMembers_filter (find?_field_eq_none hk)]
  | null | bool | number | text | array => rfl

end Options

namespace Spec

/-- A declaration whose options are without a member. -/
def without (k : String) : Tree → Tree :=
  form.changeFields fun name t => if name = "options" then Options.without k t else t

theorem decode_without (hk : k ∉ Toggle.names) (t : Tree) :
    meaning.decode (without k t) = meaning.decode t := by
  refine meaning.decode_changeFields (fun name t => ?_) t
  split
  case isTrue h =>
      subst h
      exact congrArg (Option.map _) (Options.decode_without hk t)
  case isFalse => rfl

end Spec

namespace Manifest

/-- A manifest without a member in the options of any declaration. -/
def without (k : String) : Tree → Tree :=
  form.changeFields fun name t => if name = "patterns" then t.mapItems (Spec.without k) else t

theorem decode_without (hk : k ∉ Toggle.names) (t : Tree) :
    meaning.decode (without k t) = meaning.decode t := by
  refine meaning.decode_changeFields (fun name t => ?_) t
  split
  case isTrue h =>
      subst h
      have hitems : (t.mapItems (Spec.without k)).items?.bind (·.mapM Spec.meaning.decode)
          = t.items?.bind (·.mapM Spec.meaning.decode) := by
        cases t with
        | array ts =>
            simp [Json.Tree.mapItems, Json.Tree.items?, List.mapM_map, Function.comp_def,
              Spec.decode_without hk]
        | null | bool | number | text | object => rfl
      exact congrArg (Option.map _) hitems
  case isFalse => rfl

end Manifest

/-! ## All readers of names -/

/-- **A name that no toggle has is refused by the write by name and by the attribute, and is
dropped from the options of a document.** Whatever it holds and wherever it stands, a document is
accepted with such a member iff it is accepted without, and means the same. -/
theorem Toggle.unknown_name_in_readers (hk : k ∉ Toggle.names) :
    (∀ (o : Options) (value : Bool), o.step (.writeNamed k value) = (.truth false, o)) ∧
    (∀ {text : String} {front after : List SourceToken} {p q : Extent} {joint : Bool},
      Token.readAll text = .ok (front ++ .sign p ',' joint :: .word q k :: after) →
        ∃ c, Grammar.arguments? text = .error c) ∧
    (∀ {t : Tree} {text text' : String} {o : Options},
      Writes t text → Writes (Options.without k t) text' →
        (Options.form.parse text = .ok o ↔ Options.form.parse text' = .ok o)) ∧
    (∀ {t : Tree} {text text' : String} {s : Spec},
      Writes t text → Writes (Spec.without k t) text' →
        (Spec.form.parse text = .ok s ↔ Spec.form.parse text' = .ok s)) ∧
    (∀ {t : Tree} {text text' : String} {b : Builder},
      Writes t text → Writes (Manifest.without k t) text' →
        (Builder.fromManifest text = .ok b ↔ Builder.fromManifest text' = .ok b)) := by
  refine ⟨fun o value => ?_, Grammar.arguments?_unknown hk, fun h h' => ?_, fun h h' => ?_,
    fun h h' => ?_⟩
  · rw [Options.step, Options.setNamed?_eq_none hk]
  · rw [Options.meaning.parse_eq_ok_iff h, Options.meaning.parse_eq_ok_iff h',
      Options.decode_without hk]
  · rw [Spec.meaning.parse_eq_ok_iff h, Spec.meaning.parse_eq_ok_iff h', Spec.decode_without hk]
  · rw [Builder.fromManifest_eq_ok_iff h, Builder.fromManifest_eq_ok_iff h',
      Manifest.decode_without hk]

/-- A flag whose underscore was left out, before all readers. -/
theorem Toggle.unknown_name_ignorecase :
    let spec (options : String) :=
      "\x7b\"name\":\"A\",\"pattern\":\"a\",\"options\":" ++ options ++ "\x7d"
    let manifest (options : String) := "\x7b\"patterns\":[" ++ spec options ++ "]\x7d"
    let misspelt := "\x7b\"ignorecase\":true\x7d"
    let none := "\x7b\x7d"
    "ignorecase" ∉ Toggle.names ∧
    Options.standard.step (.writeNamed "ignorecase" true) = (.truth false, .standard) ∧
    (∃ c, Grammar.arguments? "\"a\", ignorecase" = .error c) ∧
    (∀ o, Options.form.parse misspelt = .ok o ↔ Options.form.parse none = .ok o) ∧
    (∀ s, Spec.form.parse (spec misspelt) = .ok s ↔ Spec.form.parse (spec none) = .ok s) ∧
    ∀ b, Builder.fromManifest (manifest misspelt) = .ok b ↔
      Builder.fromManifest (manifest none) = .ok b := by
  intro spec manifest misspelt none
  have hk : "ignorecase" ∉ Toggle.names := by decide
  have htokens : Token.readAll "\"a\", ignorecase"
      = .ok ([.literal ⟨1, 0, 1, 3⟩ "\"a\""] ++ .sign ⟨1, 3, 1, 4⟩ ',' false ::
          .word ⟨1, 5, 1, 15⟩ "ignorecase" :: []) := by
    decide +kernel
  have hblank := Json.isBlank_nil
  have hflag := Json.spellsText_self "ignorecase".toList (by decide)
  have hname := Json.spellsText_self "name".toList (by decide)
  have hA := Json.spellsText_self "A".toList (by decide)
  have hpattern := Json.spellsText_self "pattern".toList (by decide)
  have ha := Json.spellsText_self "a".toList (by decide)
  have hoptions := Json.spellsText_self "options".toList (by decide)
  have hpatterns := Json.spellsText_self "patterns".toList (by decide)
  have hmembers := Json.SpellsMembers.member .first hblank hflag hblank hblank .true (.close hblank)
  have hspec := fun ms body (h : Json.SpellsMembers true ms body) =>
    Json.SpellsMembers.member .first hblank hname hblank hblank (.text hA)
      (.member (.comma hblank) hblank hpattern hblank hblank (.text ha)
        (.member (.comma hblank) hblank hoptions hblank hblank (.object h) (.close hblank)))
  have hmanifest := fun ms body (h : Json.SpellsMembers true ms body) =>
    Json.SpellsMembers.member .first hblank hpatterns hblank hblank
      (.array (.item .first hblank (.object (hspec _ _ h)) (.close hblank))) (.close hblank)
  have hnone : Json.SpellsMembers true [] ['\x7d'] := .close hblank
  have hwrites : ∀ {ms : List (String × Tree)} {body : List Char} {text : String},
      Json.SpellsMembers true ms body → text.toList = '\x7b' :: body → Writes (.object ms) text := by
    intro ms body text h htext
    refine ⟨[], _, [], hblank, .object h, hblank, ?_⟩
    rw [List.nil_append, List.append_nil, htext]
  obtain ⟨hset, hattribute, hform, hdeclaration, hbuilder⟩ := Toggle.unknown_name_in_readers hk
  refine ⟨hk, hset .standard true, hattribute htokens, fun o => ?_, fun s => ?_, fun b => ?_⟩
  · exact hform (hwrites hmembers (by decide)) (hwrites hnone (by decide))
  · exact hdeclaration (hwrites (hspec _ _ hmembers) (by decide))
      (hwrites (hspec _ _ hnone) (by decide))
  · exact hbuilder (hwrites (hmanifest _ _ hmembers) (by decide))
      (hwrites (hmanifest _ _ hnone) (by decide))

/-- A misspelt flag changes nothing, and no fault tells of it. -/
theorem Builder.fromManifest_misspelt :
    "ignorecase" ∉ Toggle.names ∧
    Builder.fromManifest ("\x7b\"patterns\":[\x7b\"name\":\"A\",\"pattern\":\"a\"," ++
        "\"options\":\x7b\"ignorecase\":true\x7d\x7d]\x7d")
      = .ok ⟨[.of "A" "a"], standardRuntime⟩ :=
  ⟨by decide, rfl⟩

end CaptureTypes
