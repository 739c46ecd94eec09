/-
# Words in a source

A word that stands before a blank or a sign is read as one token, whatever
it is: the lexer looks for documents, delimiters, literals and signs first,
and none of them begins with a word (`readFrom_word`).  So a name is its own
token, and the text of a unit struct is the tokens that one expects
(`readAll_struct`).
-/
import CaptureTypes.Proofs.Remainder

namespace CaptureTypes.Token

/-! ## What is skipped -/

theorem length_afterComment?_lt {cs rest : List Char} (h : afterComment? cs = some rest) :
    rest.length < cs.length := by
  unfold afterComment? at h
  split at h
  · rename_i after
    split at h
    · cases h
    · cases h
      have := (suffix_untilLineEnd after).length_le
      simp only [List.length_cons]
      omega
  · rename_i after
    split at h
    · cases h
      simp only [List.length_drop, List.length_cons]
      omega
    · split at h
      · cases h
      · obtain ⟨⟨inside, found⟩, hfound, rfl⟩ := Option.map_eq_some_iff.mp h
        have := (suffix_untilBlockEnd hfound).length_le
        simp only [List.length_cons]
        omega
  · cases h

theorem withoutMark_eq {cs : List Char} (h : cs.length ≤ (withoutMark cs).length) :
    withoutMark cs = cs := by
  unfold withoutMark at h ⊢
  split at h
  · exact absurd h (Nat.not_succ_le_self _)
  · rfl

/-! ## The characters of words -/

/-- What begins a word is none of the ASCII characters that are no letters. -/
theorem ne_of_beginsWord {c d : Char} (hc : beginsWord c = true) (hd : beginsWord d = false) :
    c ≠ d := by
  rintro rfl
  rw [hc] at hd
  cases hd

/-- The first character of a word. -/
theorem beginsWord_of_plainWord? {c : Char} {cs text rest : List Char}
    (h : plainWord? (c :: cs) = some (text, rest)) : beginsWord c = true := by
  rw [plainWord?] at h
  split at h
  · assumption
  · cases h

theorem beginsWord_of_word? {c : Char} {cs text rest : List Char}
    (h : word? (c :: cs) = some (text, rest)) : beginsWord c = true := by
  unfold word? at h
  split at h
  · cases h
  · unfold rawWord? at h
    split at h
    · rename_i heq
      cases heq
      decide
    · exact beginsWord_of_plainWord? h

/-! ## Words before other things -/

/-- A name that is its own is a word as a whole, with nothing to skip before it. -/
theorem word?_of_name? {s : String} (h : name? s = some s) :
    word? s.toList = some (s.toList, []) ∧ afterBlanks s.toList = s.toList ∧ isName s = true := by
  obtain ⟨text, htext, h⟩ := Option.bind_eq_some_iff.mp h
  simp only at h
  split at h
  case isFalse => cases h
  case isTrue hname =>
    have hs : String.ofList text = s := Option.some.inj h
    obtain ⟨⟨found, rest⟩, hword, hrest⟩ := Option.bind_eq_some_iff.mp htext
    simp only at hrest
    split at hrest
    case isFalse => cases hrest
    case isTrue =>
      cases hrest
      have htoList : s.toList = text := by rw [← hs, String.toList_ofList]
      have happend := word?_append hword
      have hmark := (suffix_withoutMark s.toList).length_le
      have hblanks := (suffix_afterBlanks (withoutMark s.toList)).length_le
      have hlength := congrArg List.length happend
      rw [List.length_append, ← htoList] at hlength
      have hnil : rest = [] := List.eq_nil_of_length_eq_zero (by omega)
      have hkept : withoutMark s.toList = s.toList := withoutMark_eq (by omega)
      rw [hnil, List.append_nil, hkept, ← htoList] at happend
      rw [hkept, ← happend, ← htoList, hnil] at hword
      exact ⟨hword, happend.symm, hs ▸ hname⟩

/-- The characters that stand after a word here. -/
def isWordStop (c : Char) : Bool := c == ' ' || c == ';'

theorem beginsWith_before_stop {start cs rest : List Char} {stop : Char} (hstop : stop ∉ start)
    (h : beginsWith start (cs ++ stop :: rest) = true) : beginsWith start cs = true := by
  induction start generalizing cs with
  | nil => rfl
  | cons p ps ih =>
      obtain ⟨hp, hps⟩ := not_or.mp (List.mem_cons.not.mp hstop)
      cases cs with
      | nil =>
          rw [List.nil_append, beginsWith, after?, if_neg (Ne.symm hp)] at h
          cases h
      | cons c cs =>
          rw [List.cons_append, beginsWith, after?] at h
          rw [beginsWith, after?]
          split at h
          · rename_i hpc
            rw [if_pos hpc]
            exact ih hps h
          · cases h

theorem plainWord?_before_stop {cs rest : List Char} {stop : Char}
    (hstop : continuesWord stop = false) (h : plainWord? cs = some (cs, [])) :
    plainWord? (cs ++ stop :: rest) = some (cs, stop :: rest) := by
  cases cs with
  | nil => cases h
  | cons c cs =>
      have hbegins := beginsWord_of_plainWord? h
      rw [plainWord?, if_pos hbegins] at h
      have hword : cs.takeWhile continuesWord = cs :=
        (List.cons.inj (congrArg Prod.fst (Option.some.inj h))).2
      have hall : ∀ d ∈ cs, continuesWord d = true := List.takeWhile_eq_self_iff.mp hword
      rw [List.cons_append, plainWord?, if_pos hbegins, List.takeWhile_append_of_pos hall,
        List.dropWhile_append_of_pos hall]
      simp [hstop]

theorem rawWord?_before_stop {cs rest : List Char} {stop : Char} (hstop : isWordStop stop = true)
    (h : rawWord? cs = some (cs, [])) :
    rawWord? (cs ++ stop :: rest) = some (cs, stop :: rest) := by
  have hends : continuesWord stop = false := by
    rcases Bool.or_eq_true_iff.mp hstop with hc | hc
    · rw [eq_of_beq hc]; decide
    · rw [eq_of_beq hc]; decide
  have hhash : stop ≠ '#' := by
    rintro rfl
    exact absurd hstop (by decide)
  unfold rawWord? at h
  split at h
  · rename_i name
    obtain ⟨⟨found, rest'⟩, hname, h⟩ := Option.bind_eq_some_iff.mp h
    simp only at h
    split at h
    case isTrue => cases h
    case isFalse hraw =>
      cases h
      simp only [List.cons_append, rawWord?, plainWord?_before_stop hends hname,
        Option.bind_eq_bind, Option.bind_some, if_neg hraw]
  · rename_i hno
    have hplain : plainWord? (cs ++ stop :: rest) = some (cs, stop :: rest) :=
      plainWord?_before_stop hends h
    unfold rawWord?
    split
    · rename_i heq
      cases cs with
      | nil => cases h
      | cons c cs =>
          cases cs with
          | nil => exact absurd (List.cons.inj (List.cons.inj heq).2).1 hhash
          | cons d cs =>
              obtain ⟨hr, htail⟩ := List.cons.inj heq
              exact absurd (by rw [hr, (List.cons.inj htail).1]) (hno cs)
    · exact hplain

/-- A word before a stop is read up to the stop. -/
theorem word?_before_stop {cs rest : List Char} {stop : Char} (hstop : isWordStop stop = true)
    (h : word? cs = some (cs, [])) : word? (cs ++ stop :: rest) = some (cs, stop :: rest) := by
  have hstarts : ∀ start ∈ literalStarts, stop ∉ start := by
    intro start hstart hmem
    have htable : (literalStarts.all fun s => s.all fun c => !isWordStop c) = true := by decide
    have hno := List.all_eq_true.mp (List.all_eq_true.mp htable start hstart) stop hmem
    rw [hstop] at hno
    cases hno
  have hnone : literalStarts.any (beginsWith · cs) = false := by
    refine Bool.eq_false_iff.mpr fun hany => ?_
    rw [word?, if_pos hany] at h
    cases h
  have hnone' : literalStarts.any (beginsWith · (cs ++ stop :: rest)) = false := by
    refine List.any_eq_false.mpr fun start hstart hbegins => ?_
    exact List.any_eq_false.mp hnone start hstart
      (beginsWith_before_stop (hstarts start hstart) hbegins)
  rw [word?, hnone, if_neg Bool.false_ne_true] at h
  rw [word?, hnone', if_neg Bool.false_ne_true]
  exact rawWord?_before_stop hstop h

/-! ## A word is nothing else -/

theorem beginsWith_cons (p : Char) (start cs : List Char) :
    beginsWith (p :: start) (p :: cs) = beginsWith start cs := by
  rw [beginsWith, after?, if_pos rfl]
  rfl

theorem after?_cons_ne {p c : Char} (h : c ≠ p) (start cs : List Char) :
    after? (p :: start) (c :: cs) = none := by
  rw [after?, if_neg (Ne.symm h)]

theorem beginsWith_append_eq_false {start cs : List Char} (more : List Char)
    (h : beginsWith start cs = false) : beginsWith (start ++ more) cs = false := by
  refine Bool.eq_false_iff.mpr fun hmore => ?_
  obtain ⟨rest, hrest⟩ := Option.isSome_iff_exists.mp hmore
  rw [← after?_append hrest, List.append_assoc, beginsWith_append] at h
  cases h

/-- No raw literal without its opening mark. -/
theorem afterRaw?_eq_none {kind : Charset} {cs : List Char} (hquote : beginsWith ['"'] cs = false)
    (hone : beginsWith ['#', '"'] cs = false) (hmore : beginsWith ['#', '#'] cs = false) :
    afterRaw? kind cs = none := by
  cases cs with
  | nil => rfl
  | cons c cs =>
      by_cases hc : c = '#'
      · subst hc
        cases cs with
        | nil => rfl
        | cons d cs =>
            have hd : d ≠ '"' := by rintro rfl; cases hone
            have hd' : d ≠ '#' := by rintro rfl; cases hmore
            simp [afterRaw?, hd, hd']
      · have hc' : c ≠ '"' := by rintro rfl; cases hquote
        simp [afterRaw?, hc, hc']

/-- No text after letters without an opening mark. -/
theorem afterText?_eq_none {letters cs : List Char} {kind : Charset}
    (h : ∀ rest, after? letters cs = some rest →
      beginsWith ['"'] rest = false ∧ beginsWith ['r', '"'] rest = false ∧
        beginsWith ['r', '#', '"'] rest = false ∧ beginsWith ['r', '#', '#'] rest = false) :
    afterText? letters kind cs = none := by
  rw [afterText?]
  cases hletters : after? letters cs with
  | none => rfl
  | some rest =>
      obtain ⟨hquote, hraw, hone, hmore⟩ := h rest hletters
      simp only [Option.bind_eq_bind, Option.bind_some]
      split
      · cases hquote
      · rw [beginsWith_cons] at hraw hone hmore
        exact afterRaw?_eq_none hraw hone hmore
      · rfl

theorem isDigit_eq_false_of_beginsWord {c : Char} (h : beginsWord c = true) :
    c.isDigit = false := by
  refine Bool.eq_false_iff.mpr fun hdigit => ?_
  obtain ⟨hlow, hhigh⟩ := Char.isDigit_iff_toNat.mp hdigit
  change 48 ≤ c.toNat at hlow
  change c.toNat ≤ 57 at hhigh
  have htable : ∀ n, n < 58 → 48 ≤ n → beginsWord (Char.ofNat n) = false := by decide +kernel
  have := htable c.toNat (by omega) hlow
  rw [Char.ofNat_toNat, h] at this
  cases this

/-- Letters are digits from ten on. -/
theorem ten_le_of_hexValue? {c : Char} {d : Nat} (hc : c.isDigit = false)
    (h : hexValue? c = some d) : 10 ≤ d := by
  simp only [hexValue?, hc, Bool.false_eq_true, if_false] at h
  split at h
  case isTrue hletter =>
    have hlow : 97 ≤ c.val.toNat := UInt32.le_iff_toNat_le.mp hletter.1
    cases h
    change 10 ≤ c.val.toNat - 87
    omega
  case isFalse =>
    split at h
    case isTrue hletter =>
      have hlow : 65 ≤ c.val.toNat := UInt32.le_iff_toNat_le.mp hletter.1
      cases h
      change 10 ≤ c.val.toNat - 55
      omega
    case isFalse => cases h

/-- No decimal digits where a word begins. -/
theorem afterWhole?_eq_none {c : Char} (rest : List Char) (h : c.isDigit = false) :
    afterWhole? (c :: rest) = none := by
  have hzero : c ≠ '0' := by
    rintro rfl
    cases h
  unfold afterWhole?
  split
  case h_4 =>
    rw [afterDigits?]
    split
    · rw [if_pos ⟨rfl, rfl⟩]
    · split
      · rename_i d hd
        rw [if_neg (Nat.not_lt.mpr (ten_le_of_hexValue? h hd)), if_pos (Or.inr rfl)]
      · rfl
  all_goals
    rename_i heq
    exact absurd (List.cons.inj heq).1 hzero

theorem afterNumber?_eq_none {c : Char} (rest : List Char) (h : beginsWord c = true) :
    afterNumber? afterFraction? (c :: rest) = none ∧ afterNumber? afterWhole? (c :: rest) = none := by
  have hdigit := isDigit_eq_false_of_beginsWord h
  have hfraction : afterFraction? (c :: rest) = none := by
    rw [afterFraction?, hdigit]
    rfl
  rw [afterNumber?, afterNumber?, afterWhole?_eq_none rest hdigit, hfraction]
  exact ⟨rfl, rfl⟩

/-- No literal begins with a word. -/
theorem afterLiteral?_of_word? {cs text rest : List Char} (h : word? cs = some (text, rest)) :
    afterLiteral? cs = none := by
  cases cs with
  | nil => rfl
  | cons c cs =>
      have hbegins := beginsWord_of_word? h
      have hstarts : ∀ start ∈ literalStarts, beginsWith start (c :: cs) = false := by
        intro start hstart
        refine Bool.eq_false_iff.mpr fun hstarts => ?_
        rw [word?, if_pos (List.any_eq_true.mpr ⟨start, hstart, hstarts⟩)] at h
        cases h
      have hplain : afterText? [] .characters (c :: cs) = none := by
        refine afterText?_eq_none fun rest hrest => ?_
        cases hrest
        refine ⟨?_, hstarts _ (by decide), hstarts _ (by decide), hstarts _ (by decide)⟩
        rw [beginsWith, after?_cons_ne (ne_of_beginsWord hbegins (by decide))]
        rfl
      have hafter : ∀ l start, l :: start ∈ literalStarts → ∀ rest, after? [l] (c :: cs) = some rest →
          beginsWith start rest = false := by
        intro l start hmem rest hrest
        rw [after?] at hrest
        split at hrest
        · rename_i hl
          cases hrest
          rw [← beginsWith_cons l, hl]
          exact hstarts _ (hl ▸ hmem)
        · cases hrest
      have hletter : ∀ l, [l, '"'] ∈ literalStarts → [l, 'r', '"'] ∈ literalStarts →
          [l, 'r', '#'] ∈ literalStarts → ∀ kind, afterText? [l] kind (c :: cs) = none := by
        intro l hquote hraw hhash kind
        refine afterText?_eq_none fun rest hrest => ?_
        have hlonger := fun more => beginsWith_append_eq_false more (hafter _ _ hhash rest hrest)
        exact ⟨hafter _ _ hquote rest hrest, hafter _ _ hraw rest hrest, hlonger ['"'],
          hlonger ['#']⟩
      have hbyte : afterSingle? ['b'] .bytes (c :: cs) = none := by
        rw [afterSingle?]
        cases hb : after? ['b'] (c :: cs) with
        | none => rfl
        | some rest =>
            have hmark := hafter 'b' ['\''] (by decide) rest hb
            rw [beginsWith, Option.isSome_eq_false_iff, Option.isNone_iff_eq_none] at hmark
            simp only [Option.bind_eq_bind, Option.bind_some, hmark, Option.bind_none]
      have hsingle : afterSingle? [] .characters (c :: cs) = none := by
        have hmark : after? ['\''] (c :: cs) = none :=
          after?_cons_ne (ne_of_beginsWord hbegins (by decide)) _ _
        rw [afterSingle?, after?]
        simp only [Option.bind_eq_bind, Option.bind_some, hmark, Option.bind_none]
      obtain ⟨hfraction, hwhole⟩ := afterNumber?_eq_none cs hbegins
      rw [afterLiteral?, hplain, hletter 'b' (by decide) (by decide) (by decide),
        hletter 'c' (by decide) (by decide) (by decide), hbyte, hsingle, hfraction, hwhole]
      rfl

/-- No sign begins with a word. -/
theorem sign?_of_beginsWord {c : Char} (rest : List Char) (h : beginsWord c = true) :
    sign? (c :: rest) = none := by
  have hsigns : c ∉ signs := by
    have htable : (signs.all fun d => !beginsWord d) = true := by decide
    intro hmem
    have hno := List.all_eq_true.mp htable c hmem
    rw [h] at hno
    cases hno
  have hany : anySign? (c :: rest) = none := by
    rw [anySign?]
    simp only [if_neg hsigns, ite_self]
  rw [sign?, hany]
  rfl

theorem document?_of_beginsWord {c : Char} (rest : List Char) (h : beginsWord c = true) :
    document? (c :: rest) = none := by
  have hslash : c ≠ '/' := ne_of_beginsWord h (by decide)
  have hnone : anyDocument? (c :: rest) = none := by
    unfold anyDocument?
    split
    case h_5 => rfl
    all_goals
      rename_i heq
      exact absurd (List.cons.inj heq).1 hslash
  rw [document?, hnone]
  rfl

/-- No delimiter begins a word. -/
theorem no_delimiter_of_beginsWord {c : Char} (h : beginsWord c = true) :
    opens? c = none ∧ closes? c = none := by
  have hne : ∀ d, beginsWord d = false → c ≠ d := fun d hd => ne_of_beginsWord h hd
  constructor
  · rw [opens?, if_neg (hne _ (by decide)), if_neg (hne _ (by decide)), if_neg (hne _ (by decide))]
  · rw [closes?, if_neg (hne _ (by decide)), if_neg (hne _ (by decide)), if_neg (hne _ (by decide))]

/-! ## Reading words -/

/-- **A word after blanks is read as a token**, up to what stands after it. -/
theorem readFrom_word {fuel : Nat} {frames : List Frame} {done : List SourceToken} {s : Source}
    {text rest : List Char} (h : word? (afterBlanks s.rest) = some (text, rest)) :
    ∃ p q, readFrom (fuel + 1) frames done s
      = readFrom fuel frames (.word p (String.ofList text) :: done) ⟨q, rest⟩ := by
  cases hs : afterBlanks s.rest with
  | nil =>
      rw [hs] at h
      cases h
  | cons c cs =>
      rw [hs] at h
      have hbegins := beginsWord_of_word? h
      obtain ⟨hopens, hcloses⟩ := no_delimiter_of_beginsWord hbegins
      let here := s.moveTo (c :: cs)
      have hleaf : leaf? here = some
          (.word (here.position.upTo (here.moveTo rest).position) (String.ofList text),
            here.moveTo rest) := by
        have hrest : here.rest = c :: cs := rfl
        rw [leaf?, hrest, afterLiteral?_of_word? h, sign?_of_beginsWord cs hbegins, h]
        rfl
      refine ⟨here.position.upTo (here.moveTo rest).position, (here.moveTo rest).position, ?_⟩
      have hmove : s.moveTo (afterBlanks s.rest) = here := by rw [hs]
      simp only [readFrom, hmove]
      have hrest : here.rest = c :: cs := rfl
      simp only [hrest, document?_of_beginsWord cs hbegins, hopens, hcloses, hleaf]
      rfl

theorem afterBlanks_blank (cs : List Char) : afterBlanks (' ' :: cs) = afterBlanks cs := rfl

/-- Nothing is skipped before a word that has nothing to skip before it. -/
theorem afterBlanks_append {cs : List Char} (hblanks : afterBlanks cs = cs)
    (hword : word? cs = some (cs, [])) (rest : List Char) :
    afterBlanks (cs ++ rest) = cs ++ rest := by
  cases cs with
  | nil => cases hword
  | cons c cs =>
      have hslash : c ≠ '/' := ne_of_beginsWord (beginsWord_of_word? hword) (by decide)
      have hcomment : ∀ after, afterComment? (c :: after) = none := afterComment?_of_ne hslash
      have hsolid : isBlank c = false := by
        refine Bool.eq_false_iff.mpr fun hblank => ?_
        have hshort := (suffix_skipBlanks cs.length cs).length_le
        rw [afterBlanks, List.length_cons, skipBlanks, hcomment] at hblanks
        simp only [hblank, if_true] at hblanks
        rw [hblanks] at hshort
        exact absurd hshort (Nat.not_succ_le_self _)
      rw [List.cons_append, afterBlanks, List.length_cons, skipBlanks, hcomment]
      simp [hsolid]

/-- A word that is given in full. -/
theorem readFrom_given {fuel : Nat} {frames : List Frame} {done : List SourceToken} {s : Source}
    {cs rest : List Char} {stop : Char} (hrest : afterBlanks s.rest = cs ++ stop :: rest)
    (hword : word? cs = some (cs, [])) (hstop : isWordStop stop = true) :
    ∃ p q, readFrom (fuel + 1) frames done s
      = readFrom fuel frames (.word p (String.ofList cs) :: done) ⟨q, stop :: rest⟩ :=
  readFrom_word (by rw [hrest, word?_before_stop hstop hword])

/-- A semicolon at the end of a text. -/
theorem readFrom_semicolon {fuel : Nat} {done : List SourceToken} {p : Position} :
    ∃ e, readFrom (fuel + 2) [] done ⟨p, [';']⟩ = .ok (done.reverse ++ [.sign e ';' false]) := by
  have hblanks : afterBlanks [';'] = [';'] := rfl
  have hdocument : document? [';'] = none := rfl
  have hdelimiter : opens? ';' = none ∧ closes? ';' = none := ⟨rfl, rfl⟩
  have hliteral : afterLiteral? [';'] = none := rfl
  have hsign : sign? [';'] = some (';', false, []) := by decide
  have hend : afterBlanks [] = [] := rfl
  have hdocument' : document? [] = none := rfl
  simp only [readFrom, Source.moveTo, hblanks, hdocument, hdelimiter, leaf?, hliteral, hsign, hend,
    hdocument', List.reverse_cons]
  exact ⟨_, rfl⟩

/-- **The text of a unit struct is read as its tokens**, whatever it is called. -/
theorem readAll_struct {name : String} (h : name? name = some name) :
    ∃ p q r s, readAll ("pub struct " ++ name ++ ";")
      = .ok [.word p "pub", .word q "struct", .word r name, .sign s ';' false] := by
  obtain ⟨hword, hblanks, -⟩ := word?_of_name? h
  have hpub : word? "pub".toList = some ("pub".toList, []) := by decide
  have hstruct : word? "struct".toList = some ("struct".toList, []) := by decide
  let named := ' ' :: (name.toList ++ [';'])
  let declared := ' ' :: ("struct".toList ++ named)
  have htext : ("pub struct " ++ name ++ ";").toList = "pub".toList ++ declared := by
    simp [declared, named, String.toList_append]
  have hlength : ("pub".toList ++ declared).length + 1 = name.toList.length + 8 + 2 + 1 + 1 + 1 := by
    simp [declared, named]
  have hmark : withoutMark ("pub".toList ++ declared) = "pub".toList ++ declared := rfl
  obtain ⟨p, p', hp⟩ : ∃ p q, readFrom (name.toList.length + 8 + 2 + 1 + 1 + 1) [] []
        ⟨⟨1, 0⟩, "pub".toList ++ declared⟩
      = readFrom (name.toList.length + 8 + 2 + 1 + 1) [] [.word p "pub"] ⟨q, declared⟩ :=
    readFrom_given rfl hpub rfl
  obtain ⟨q, q', hq⟩ : ∃ e q, readFrom (name.toList.length + 8 + 2 + 1 + 1) [] [.word p "pub"]
        ⟨p', declared⟩
      = readFrom (name.toList.length + 8 + 2 + 1) [] [.word e "struct", .word p "pub"]
        ⟨q, named⟩ :=
    readFrom_given rfl hstruct rfl
  obtain ⟨r, r', hr⟩ : ∃ e r, readFrom (name.toList.length + 8 + 2 + 1) []
        [.word q "struct", .word p "pub"] ⟨q', named⟩
      = readFrom (name.toList.length + 8 + 2) []
        [.word e (String.ofList name.toList), .word q "struct", .word p "pub"] ⟨r, [';']⟩ :=
    readFrom_given ((afterBlanks_blank _).trans (afterBlanks_append hblanks hword [';'])) hword rfl
  obtain ⟨s, hs⟩ : ∃ e, readFrom (name.toList.length + 8 + 2) []
        [.word r (String.ofList name.toList), .word q "struct", .word p "pub"] ⟨r', [';']⟩
      = .ok [.word p "pub", .word q "struct", .word r (String.ofList name.toList),
          .sign e ';' false] :=
    readFrom_semicolon
  refine ⟨p, q, r, s, ?_⟩
  simp only [readAll, htext, hmark, hlength]
  rw [hp, hq, hr, hs, String.ofList_toList]

end CaptureTypes.Token
