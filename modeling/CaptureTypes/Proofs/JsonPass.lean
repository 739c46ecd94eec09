/-
# Passing over values

A value that nobody wants is passed as a whole, whatever it is: the reader
that stands before it comes to what is left after it.  Nested values are
passed with a stack of what is open and not by recursion, so what a value
takes is a number of turns (`Passes`), at most twice its length, after
which the stack is what it was.

All statements are about what is left to read; the places in which faults
are reported play no part.
-/
import CaptureTypes.Proofs.JsonText

namespace CaptureTypes.Json.Reader

/-- Fuel above a bound is left for one more turn. -/
theorem exists_succ_of_lt {n fuel : Nat} (h : n < fuel) : ∃ left, fuel = left + 1 :=
  Nat.exists_eq_succ_of_ne_zero (Nat.ne_of_gt (Nat.zero_lt_of_lt h))

/-! ## Single steps -/

theorem rest_eat {r : Reader} {c : Char} {rest : List Char} (h : r.rest = c :: rest) :
    r.eat.rest = rest := by
  simp only [eat, h]
  split
  · rfl
  · rfl

theorem peek?_eq {r : Reader} {c : Char} {rest : List Char} (h : r.rest = c :: rest) :
    r.peek? = some c := by
  rw [peek?, h]
  rfl

theorem rest_skipFrom {ws cs : List Char} (hws : IsBlank ws)
    (hcs : ∀ c ∈ cs.head?, isSpace c = false) (line column : Nat) :
    (skipFrom (ws ++ cs) line column).rest = cs := by
  induction ws generalizing line column with
  | nil =>
      cases cs with
      | nil => rfl
      | cons c cs =>
          rw [List.nil_append, skipFrom, hcs c rfl]
          rfl
  | cons c ws ih =>
      obtain ⟨hc, hrest⟩ := List.forall_mem_cons.mp hws
      rw [List.cons_append, skipFrom, if_pos hc]
      split
      · exact ih hrest _ _
      · exact ih hrest _ _

/-- White space is skipped up to what is none. -/
theorem rest_skip {r : Reader} {ws rest : List Char} {c : Char} (hws : IsBlank ws)
    (hc : isSpace c = false) (h : r.rest = ws ++ c :: rest) : r.skip.rest = c :: rest := by
  rw [skip, h]
  refine rest_skipFrom hws ?_ _ _
  intro d hd
  cases hd
  exact hc

/-- What is read, and what is left after it. -/
def Gives {α : Type} (x : Except Fault (α × Reader)) (a : α) (rest : List Char) : Prop :=
  ∃ r, x = .ok (a, r) ∧ r.rest = rest

/-- What is left after something was passed. -/
def Leaves (x : Except Fault Reader) (rest : List Char) : Prop := ∃ r, x = .ok r ∧ r.rest = rest

theorem leaves_passWord {word rest : List Char} {r : Reader} (h : r.rest = word ++ rest) :
    Leaves (passWord word r) rest := by
  induction word generalizing r with
  | nil => exact ⟨r, rfl, h⟩
  | cons x word ih =>
      rw [passWord, peek?_eq h]
      simp only [if_true]
      exact ih (rest_eat h)

/-! ## Texts -/

theorem length_le_byteLength (cs : List Char) : cs.length ≤ Text.byteLength cs := by
  induction cs with
  | nil => exact Nat.le_refl _
  | cons c cs ih =>
      have := Char.utf8Size_pos c
      rw [List.length_cons, Text.byteLength]
      omega

theorem gives_readHex {digits rest : List Char} {n : Nat} {r : Reader} (h : IsCode digits n)
    (hr : r.rest = digits ++ rest) : Gives r.readHex n rest := by
  obtain ⟨a, b, c, d, hdigits, rfl⟩ := h
  obtain ⟨x, xs, rfl, hx, hxs⟩ := List.map_eq_cons_iff.mp hdigits
  obtain ⟨y, ys, rfl, hy, hys⟩ := List.map_eq_cons_iff.mp hxs
  obtain ⟨z, zs, rfl, hz, hzs⟩ := List.map_eq_cons_iff.mp hys
  obtain ⟨w, ws, rfl, hw, hws⟩ := List.map_eq_cons_iff.mp hzs
  obtain rfl := List.map_eq_nil_iff.mp hws
  have hlong : ¬ Text.byteLength r.rest < 4 := by
    have hlength := length_le_byteLength r.rest
    have : r.rest.length = rest.length + 4 := by rw [hr]; rfl
    omega
  have hmap : (r.rest.take 4).mapM hexValue? = some [a, b, c, d] := by
    rw [hr]
    simp [hx, hy, hz, hw]
  refine ⟨r.eat.eat.eat.eat, ?_, rest_eat (rest_eat (rest_eat (rest_eat hr)))⟩
  rw [readHex, if_neg hlong, hmap]

theorem gives_readNumbered_code {digits rest : List Char} {n : Nat} {r : Reader}
    (h : IsCode digits n) (hleading : isLeading n = false) (htrailing : isTrailing n = false)
    (hr : r.rest = digits ++ rest) : Gives r.readNumbered (Char.ofNat n) rest := by
  obtain ⟨r', hread, hrest⟩ := gives_readHex h hr
  refine ⟨r', ?_, hrest⟩
  rw [readNumbered, hread]
  simp [bind, Except.bind, hleading, htrailing]

theorem gives_readNumbered_pair {first second rest : List Char} {n t : Nat} {r : Reader}
    (hfirst : IsCode first n) (hsecond : IsCode second t) (hleading : isLeading n = true)
    (htrailing : isTrailing t = true)
    (hr : r.rest = first ++ '\\' :: 'u' :: (second ++ rest)) :
    Gives r.readNumbered (Char.ofNat (0x10000 + (n - 0xD800) * 0x400 + (t - 0xDC00))) rest := by
  obtain ⟨r₁, hread, hrest⟩ := gives_readHex hfirst hr
  obtain ⟨r₂, hread', hrest'⟩ := gives_readHex hsecond (rest_eat (rest_eat hrest))
  have hno : isTrailing n = false := by
    simp only [isLeading, Bool.and_eq_true, decide_eq_true_eq] at hleading
    simp only [isTrailing, Bool.and_eq_false_iff, decide_eq_false_iff_not]
    omega
  have hback : passPairSign '\\' r₁ = .ok r₁.eat := by
    rw [passPairSign, peek?_eq hrest]
    rfl
  have hletter : passPairSign 'u' r₁.eat = .ok r₁.eat.eat := by
    rw [passPairSign, peek?_eq (rest_eat hrest)]
    rfl
  refine ⟨r₂, ?_, hrest'⟩
  rw [readNumbered, hread]
  simp [bind, Except.bind, hleading, hno, hback, hletter, hread', htrailing]

theorem gives_readEscape_letter {x e : Char} {rest : List Char} {r : Reader}
    (h : escaped? x = some e) (hr : r.rest = x :: rest) : Gives r.readEscape e rest := by
  refine ⟨r.eat, ?_, rest_eat hr⟩
  rw [readEscape, peek?_eq hr]
  simp only [h]

theorem gives_readEscape_number {c : Char} {rest after : List Char} {r : Reader}
    (hr : r.rest = 'u' :: rest) (h : Gives r.eat.readNumbered c after) :
    Gives r.readEscape c after := by
  rw [readEscape, peek?_eq hr]
  exact h

/-- A whole escape is read at one turn. -/
theorem gives_readChars_escape {c : Char} {meant tail after rest : List Char} {fuel : Nat}
    {r : Reader} (hr : r.rest = '\\' :: tail) (hc : Gives r.eat.readEscape c after)
    (hmeant : ∀ {r' : Reader}, r'.rest = after → Gives (readChars fuel r') meant rest) :
    Gives (readChars (fuel + 1) r) (c :: meant) rest := by
  obtain ⟨r₁, hread, hrest⟩ := hc
  obtain ⟨r₂, hread', hrest'⟩ := hmeant hrest
  refine ⟨r₂, ?_, hrest'⟩
  rw [readChars, peek?_eq hr]
  simp [bind, Except.bind, hread, hread']

/-- What is spelled is read as what is meant. -/
theorem gives_readChars {written meant rest : List Char} (h : SpellsText written meant)
    {fuel : Nat} {r : Reader} (hfuel : written.length < fuel)
    (hr : r.rest = written ++ '"' :: rest) : Gives (readChars fuel r) meant rest := by
  induction h generalizing fuel r with
  | nil =>
      obtain ⟨fuel, rfl⟩ := exists_succ_of_lt hfuel
      refine ⟨r.eat, ?_, rest_eat hr⟩
      rw [readChars, peek?_eq hr]
      rfl
  | @plain c written meant hquote hback hcontrol _ ih =>
      obtain ⟨fuel, rfl⟩ := exists_succ_of_lt hfuel
      obtain ⟨r', hread, hrest⟩ := ih (Nat.lt_of_succ_lt_succ hfuel) (rest_eat hr)
      refine ⟨r', ?_, hrest⟩
      rw [readChars, peek?_eq hr]
      simp [bind, Except.bind, hquote, hback, Nat.not_lt.mpr hcontrol, hread]
  | escape hletter _ ih =>
      obtain ⟨fuel, rfl⟩ := exists_succ_of_lt hfuel
      refine gives_readChars_escape hr (gives_readEscape_letter hletter (rest_eat hr)) ?_
      refine fun hr' => ih ?_ hr'
      simp only [List.length_cons] at hfuel
      omega
  | code hcode hleading htrailing _ ih =>
      obtain ⟨fuel, rfl⟩ := exists_succ_of_lt hfuel
      simp only [List.cons_append, List.append_assoc] at hr
      refine gives_readChars_escape hr (gives_readEscape_number (rest_eat hr)
        (gives_readNumbered_code hcode hleading htrailing (rest_eat (rest_eat hr)))) ?_
      refine fun hr' => ih ?_ hr'
      simp only [List.length_cons, List.length_append] at hfuel
      omega
  | pair hfirst hsecond hleading htrailing _ ih =>
      obtain ⟨fuel, rfl⟩ := exists_succ_of_lt hfuel
      simp only [List.cons_append, List.append_assoc] at hr
      refine gives_readChars_escape hr (gives_readEscape_number (rest_eat hr)
        (gives_readNumbered_pair hfirst hsecond hleading htrailing (rest_eat (rest_eat hr)))) ?_
      refine fun hr' => ih ?_ hr'
      simp only [List.length_cons, List.length_append] at hfuel
      omega

theorem gives_readText {written rest : List Char} {s : String} {r : Reader}
    (h : SpellsText written s.toList) (hr : r.rest = written ++ '"' :: rest) :
    Gives r.readText s rest := by
  have hfuel : written.length < r.rest.length + 1 := by
    rw [hr, List.length_append]
    omega
  obtain ⟨r', hread, hrest⟩ := gives_readChars h hfuel hr
  refine ⟨r', ?_, hrest⟩
  simp [readText, bind, Except.bind, hread]

/-- The number of a character is passed at one turn. -/
theorem leaves_passChars_code {digits after rest : List Char} {n fuel : Nat} {r : Reader}
    (h : IsCode digits n) (hr : r.rest = '\\' :: 'u' :: (digits ++ after))
    (hafter : ∀ {r' : Reader}, r'.rest = after → Leaves (passChars fuel r') rest) :
    Leaves (passChars (fuel + 1) r) rest := by
  obtain ⟨r₁, hread, hrest⟩ := gives_readHex h (rest_eat (rest_eat hr))
  rw [passChars, peek?_eq hr]
  simpa [peek?_eq (rest_eat hr), bind, Except.bind, hread] using hafter hrest

theorem leaves_passChars {written meant rest : List Char} (h : SpellsText written meant)
    {fuel : Nat} {r : Reader} (hfuel : written.length < fuel)
    (hr : r.rest = written ++ '"' :: rest) : Leaves (passChars fuel r) rest := by
  induction h generalizing fuel r with
  | nil =>
      obtain ⟨fuel, rfl⟩ := exists_succ_of_lt hfuel
      refine ⟨r.eat, ?_, rest_eat hr⟩
      rw [passChars, peek?_eq hr]
      rfl
  | plain hquote hback hcontrol _ ih =>
      obtain ⟨fuel, rfl⟩ := exists_succ_of_lt hfuel
      rw [passChars, peek?_eq hr]
      simpa [hquote, hback, Nat.not_lt.mpr hcontrol] using
        ih (Nat.lt_of_succ_lt_succ hfuel) (rest_eat hr)
  | @escape x e _ _ hletter _ ih =>
      obtain ⟨fuel, rfl⟩ := exists_succ_of_lt hfuel
      have hu : x ≠ 'u' := by
        rintro rfl
        cases hletter
      simp only [List.length_cons] at hfuel
      rw [passChars, peek?_eq hr]
      simpa [peek?_eq (rest_eat hr), hu, hletter] using ih (by omega) (rest_eat (rest_eat hr))
  | code hcode _ _ _ ih =>
      obtain ⟨fuel, rfl⟩ := exists_succ_of_lt hfuel
      simp only [List.cons_append, List.append_assoc] at hr
      refine leaves_passChars_code hcode hr fun hr' => ih ?_ hr'
      simp only [List.length_cons, List.length_append] at hfuel
      omega
  | pair hfirst hsecond _ _ _ ih =>
      -- the two numbers of a pair are two turns
      simp only [List.cons_append, List.append_assoc] at hr
      simp only [List.length_cons, List.length_append] at hfuel
      have htwo : 2 ≤ fuel := by omega
      obtain ⟨fuel, rfl⟩ := Nat.exists_eq_add_of_le' htwo
      refine leaves_passChars_code hfirst hr fun hr' => ?_
      exact leaves_passChars_code hsecond hr' fun hr'' => ih (by omega) hr''

theorem leaves_passText {written meant rest : List Char} {r : Reader} (h : SpellsText written meant)
    (hr : r.rest = written ++ '"' :: rest) : Leaves r.passText rest := by
  refine leaves_passChars h ?_ hr
  rw [hr, List.length_append]
  omega

/-! ## Numbers -/

/-- Digits end here. -/
def IsDigitStop (cs : List Char) : Prop := ∀ c ∈ cs.head?, c.isDigit = false

theorem isDigitStop_cons {c : Char} (rest : List Char) (h : c.isDigit = false) :
    IsDigitStop (c :: rest) := by
  intro d hd
  cases hd
  exact h

/-- What stops a value stops its digits. -/
theorem isDigitStop_of_isStop {rest : List Char} (h : IsStop rest) : IsDigitStop rest :=
  fun c hc => (h c hc).1

theorem isDigitStop_exponent {cs rest : List Char} (h : IsExponent cs) (hrest : IsStop rest) :
    IsDigitStop (cs ++ rest) := by
  rcases h with rfl | ⟨e, he, sign, -, ds, -, rfl⟩
  · exact isDigitStop_of_isStop hrest
  · refine isDigitStop_cons _ ?_
    simp only [List.mem_cons, List.not_mem_nil, or_false] at he
    rcases he with rfl | rfl
    · decide
    · decide

theorem isDigitStop_fraction {cs rest : List Char} (h : IsFraction cs) (hrest : IsDigitStop rest) :
    IsDigitStop (cs ++ rest) := by
  rcases h with rfl | ⟨ds, -, rfl⟩
  · exact hrest
  · exact isDigitStop_cons _ (by decide)

theorem digitsFrom_append {ds rest : List Char} (hds : ∀ d ∈ ds, d.isDigit = true)
    (hrest : IsDigitStop rest) (line column : Nat) :
    (digitsFrom (ds ++ rest) line column).1 = ds ∧
      (digitsFrom (ds ++ rest) line column).2.rest = rest := by
  induction ds generalizing column with
  | nil =>
      cases rest with
      | nil => exact ⟨rfl, rfl⟩
      | cons c rest =>
          rw [List.nil_append, digitsFrom, hrest c rfl]
          exact ⟨rfl, rfl⟩
  | cons d ds ih =>
      obtain ⟨hd, hds⟩ := List.forall_mem_cons.mp hds
      obtain ⟨hfirst, hsecond⟩ := ih hds (column + 1)
      rw [List.cons_append, digitsFrom, if_pos hd]
      exact ⟨congrArg (List.cons d) hfirst, hsecond⟩

theorem rest_digits {ds rest : List Char} {r : Reader} (hds : ∀ d ∈ ds, d.isDigit = true)
    (hrest : IsDigitStop rest) (hr : r.rest = ds ++ rest) :
    r.digits.1 = ds ∧ r.digits.2.rest = rest := by
  rw [digits, hr]
  exact digitsFrom_append hds hrest _ _

/-- Digits are seen where digits stand. -/
theorem peek?_isDigit {ds rest : List Char} {r : Reader} (hds : IsDigits ds)
    (hr : r.rest = ds ++ rest) : r.peek?.any Char.isDigit = true := by
  obtain ⟨d, ds, rfl, hd⟩ := hds.exists_cons
  rw [peek?_eq hr, Option.any_some, hd]

theorem peek?_not_digit {r : Reader} (h : IsDigitStop r.rest) :
    r.peek?.any Char.isDigit = false := by
  rw [peek?]
  cases hc : r.rest.head? with
  | none => rfl
  | some c => exact h c hc

theorem leaves_passExponent {e : Char} {sign ds rest : List Char} {r : Reader}
    (hsign : sign ∈ [[], ['+'], ['-']]) (hds : IsDigits ds) (hrest : IsDigitStop rest)
    (hr : r.rest = e :: (sign ++ (ds ++ rest))) : Leaves (passExponent r) rest := by
  have hsigned : ∃ r', (if r.eat.peek? == some '+' || r.eat.peek? == some '-' then r.eat.eat
      else r.eat) = r' ∧ r'.rest = ds ++ rest := by
    have heat := rest_eat hr
    simp only [List.mem_cons, List.not_mem_nil, or_false] at hsign
    rcases hsign with rfl | rfl | rfl
    · obtain ⟨d, ds, rfl, hd⟩ := hds.exists_cons
      refine ⟨r.eat, ?_, heat⟩
      have hplus : d ≠ '+' := by rintro rfl; cases hd
      have hminus : d ≠ '-' := by rintro rfl; cases hd
      simp [peek?_eq heat, hplus, hminus]
    · exact ⟨r.eat.eat, by simp [peek?_eq heat], rest_eat heat⟩
    · exact ⟨r.eat.eat, by simp [peek?_eq heat], rest_eat heat⟩
  obtain ⟨r', heq, hr'⟩ := hsigned
  refine ⟨r'.digits.2, ?_, (rest_digits hds.2 hrest hr').2⟩
  simp only [passExponent]
  rw [heq, if_pos (peek?_isDigit hds hr')]

theorem leaves_passTail {cs rest : List Char} {r : Reader} (h : IsExponent cs) (hrest : IsStop rest)
    (hr : r.rest = cs ++ rest) : Leaves (passTail r) rest := by
  have hstop : IsDigitStop rest := isDigitStop_of_isStop hrest
  rcases h with rfl | ⟨e, he, sign, hsign, ds, hds, rfl⟩
  · refine ⟨r, ?_, hr⟩
    rw [passTail, if_neg]
    rw [peek?, hr]
    intro hletter
    simp only [Bool.or_eq_true, beq_iff_eq, List.nil_append] at hletter
    rcases hletter with h | h
    · exact absurd ((hrest _ h).2) (by decide)
    · exact absurd ((hrest _ h).2) (by decide)
  · simp only [List.cons_append, List.append_assoc] at hr
    rw [passTail, if_pos]
    · exact leaves_passExponent hsign hds hstop hr
    · rw [peek?_eq hr]
      simp only [List.mem_cons, List.not_mem_nil, or_false] at he
      rcases he with rfl | rfl
      · rfl
      · rfl

/-- What follows the digits before the point is passed. -/
theorem leaves_passFraction {fraction exponent rest : List Char} {r : Reader}
    (hfraction : IsFraction fraction) (hexponent : IsExponent exponent) (hrest : IsStop rest)
    (hr : r.rest = fraction ++ (exponent ++ rest)) :
    Leaves (if r.peek? == some '.' then
        if r.eat.digits.1.isEmpty then r.eat.digits.2.failAhead .invalidNumber
        else passTail r.eat.digits.2
      else passTail r) rest := by
  rcases hfraction with rfl | ⟨ds, hds, rfl⟩
  · rw [if_neg]
    · exact leaves_passTail hexponent hrest hr
    · rw [peek?, hr]
      simp only [beq_iff_eq, List.nil_append]
      intro hpoint
      rcases hexponent with rfl | ⟨e, he, sign, hsign, ds, hds, rfl⟩
      · exact absurd ((hrest _ hpoint).2) (by decide)
      · cases hpoint
        exact absurd he (by decide)
  · obtain ⟨hfirst, hsecond⟩ := rest_digits hds.2 (isDigitStop_exponent hexponent hrest)
      (rest_eat hr)
    rw [peek?_eq hr, if_pos (by rfl), hfirst, if_neg]
    · exact leaves_passTail hexponent hrest hsecond
    · rw [List.isEmpty_iff]
      exact hds.1

theorem leaves_passNumber {cs rest : List Char} {r : Reader} (h : IsUnsigned cs)
    (hrest : IsStop rest) (hr : r.rest = cs ++ rest) : Leaves (passNumber r) rest := by
  obtain ⟨whole, fraction, exponent, ⟨hwhole, hzero⟩, hfraction, hexponent, rfl⟩ := h
  simp only [List.append_assoc] at hr
  have hstop := isDigitStop_fraction hfraction (isDigitStop_exponent hexponent hrest)
  have hafter : ∃ r', (if r.peek? == some '0' then r.eat else r.digits.2) = r' ∧
      r'.rest = fraction ++ (exponent ++ rest) := by
    obtain ⟨d, ds, rfl, hd⟩ := hwhole.exists_cons
    by_cases hd0 : d = '0'
    · subst hd0
      obtain rfl : ds = [] := (List.cons.inj (hzero rfl)).2
      exact ⟨r.eat, by rw [peek?_eq hr]; rfl, rest_eat hr⟩
    · refine ⟨r.digits.2, ?_, (rest_digits hwhole.2 hstop hr).2⟩
      rw [peek?_eq hr, if_neg (by simpa using hd0)]
  obtain ⟨r', heq, hr'⟩ := hafter
  have hdigit : r'.peek?.any Char.isDigit = false := peek?_not_digit (hr' ▸ hstop)
  simp only [passNumber]
  rw [peek?_isDigit hwhole hr, heq, hdigit, Bool.and_false]
  exact leaves_passFraction hfraction hexponent hrest hr'

/-! ## What is open

Each lemma says what one turn does where the next sign is known; `Comes` counts the turns up to
the end of a value. -/

/-- The sign that opens a container. -/
def Container.sign : Container → Char
  | .array => '['
  | .object => '\x7b'

theorem Container.isSpace_sign (kind : Container) : isSpace kind.sign = false := by
  cases kind <;> decide

theorem Container.isSpace_close (kind : Container) : isSpace kind.close = false := by
  cases kind <;> decide

variable {phase : Phase} {kind : Container} {stack after : List Container} {r r' : Reader}
  {ws ws' cs mid rest : List Char} {c : Char}

/-- After some turns, a number of them at most, a value is passed. -/
def Comes (most : Nat) (phase : Phase) (stack : List Container) (r : Reader)
    (after : List Container) (rest : List Char) : Prop :=
  ∃ n r', n ≤ most ∧ r'.rest = rest ∧
    ∀ fuel, passOpen (n + fuel) phase stack r = passOpen fuel .after after r'

theorem comes_here (h : r.rest = rest) : Comes 0 .after stack r stack rest :=
  ⟨0, r, Nat.le_refl 0, h, fun fuel => by rw [Nat.zero_add]⟩

theorem Comes.step {most : Nat} {phase' : Phase} {stack' : List Container}
    (hstep : ∀ fuel, passOpen (fuel + 1) phase stack r = passOpen fuel phase' stack' r')
    (h : Comes most phase' stack' r' after rest) : Comes (most + 1) phase stack r after rest := by
  obtain ⟨n, r'', hn, hrest, heq⟩ := h
  refine ⟨n + 1, r'', Nat.succ_le_succ hn, hrest, fun fuel => ?_⟩
  rw [Nat.add_right_comm, hstep, heq]

theorem Comes.trans {most most' : Nat} {stack' : List Container}
    (h : Comes most phase stack r stack' mid)
    (h' : ∀ {r' : Reader}, r'.rest = mid → Comes most' .after stack' r' after rest) :
    Comes (most + most') phase stack r after rest := by
  obtain ⟨n, r', hn, hrest, heq⟩ := h
  obtain ⟨n', r'', hn', hrest', heq'⟩ := h' hrest
  refine ⟨n + n', r'', Nat.add_le_add hn hn', hrest', fun fuel => ?_⟩
  rw [Nat.add_assoc, heq, heq']

theorem Comes.mono {most most' : Nat} (h : Comes most phase stack r after rest)
    (hle : most ≤ most') : Comes most' phase stack r after rest := by
  obtain ⟨n, r', hn, hrest, heq⟩ := h
  exact ⟨n, r', Nat.le_trans hn hle, hrest, heq⟩

theorem comes_scalar (hws : IsBlank ws) (hc : IsStart c) (hr : r.rest = ws ++ c :: cs)
    (h : ∀ {r' : Reader}, r'.rest = c :: cs → ∃ x, passScalar? c r' = some x ∧ Leaves x rest) :
    Comes 1 .before stack r stack rest := by
  have hskip := rest_skip hws hc.not_space hr
  obtain ⟨_, hscalar, r', rfl, hrest⟩ := h hskip
  refine (comes_here hrest).step fun fuel => ?_
  rw [passOpen]
  simp only [peek?_eq hskip, hscalar]

theorem comes_empty (kind : Container) (hws : IsBlank ws) (hws' : IsBlank ws')
    (hr : r.rest = ws ++ kind.sign :: (ws' ++ kind.close :: rest)) :
    Comes 1 .before stack r stack rest := by
  have hskip := rest_skip hws kind.isSpace_sign hr
  have hclose := rest_skip hws' kind.isSpace_close (rest_eat hskip)
  refine (comes_here (rest_eat hclose)).step fun fuel => ?_
  rw [passOpen]
  simp only [peek?_eq hskip]
  cases kind with
  | array => simp [Container.sign, passScalar?, peek?_eq hclose, Container.close]
  | object => simp [Container.sign, passScalar?, peek?_eq hclose, Container.close]

theorem comes_opens {most : Nat} (kind : Container) (hws : IsBlank ws) (hws' : IsBlank ws')
    (hc : isSpace c = false) (hne : c ≠ kind.close) (hr : r.rest = ws ++ kind.sign :: (ws' ++ c :: cs))
    (hlabel : ∀ {r' : Reader}, r'.rest = c :: cs → Leaves (passLabel kind r') mid)
    (h : ∀ {r' : Reader}, r'.rest = mid → Comes most .before (kind :: stack) r' after rest) :
    Comes (most + 1) .before stack r after rest := by
  have hskip := rest_skip hws kind.isSpace_sign hr
  have hfirst := rest_skip hws' hc (rest_eat hskip)
  obtain ⟨r', hpass, hmid⟩ := hlabel hfirst
  refine (h hmid).step fun fuel => ?_
  rw [passOpen]
  simp only [peek?_eq hskip]
  cases kind with
  | array =>
      have hclose : c ≠ ']' := hne
      simp [Container.sign, passScalar?, peek?_eq hfirst, Container.close, hclose, hpass, bind,
        Except.bind]
  | object =>
      have hclose : c ≠ '\x7d' := hne
      simp [Container.sign, passScalar?, peek?_eq hfirst, Container.close, hclose, hpass, bind,
        Except.bind]

theorem comes_close (hws : IsBlank ws) (hr : r.rest = ws ++ kind.close :: rest) :
    Comes 1 .after (kind :: stack) r stack rest := by
  have hskip := rest_skip hws kind.isSpace_close hr
  refine (comes_here (rest_eat hskip)).step fun fuel => ?_
  rw [passOpen]
  simp [peek?_eq hskip]

theorem comes_comma {most : Nat} (hws : IsBlank ws) (hr : r.rest = ws ++ ',' :: cs)
    (hlabel : ∀ {r' : Reader}, r'.rest = cs → Leaves (passLabel kind r') mid)
    (h : ∀ {r' : Reader}, r'.rest = mid → Comes most .before (kind :: stack) r' after rest) :
    Comes (most + 1) .after (kind :: stack) r after rest := by
  have hskip := rest_skip hws (by decide) hr
  have hne : ',' ≠ kind.close := by cases kind <;> decide
  obtain ⟨r', hpass, hmid⟩ := hlabel (rest_eat hskip)
  refine (h hmid).step fun fuel => ?_
  rw [passOpen]
  simp [peek?_eq hskip, hne, hpass, bind, Except.bind]

/-! ## Whole values -/

theorem leaves_passKey {written meant : List Char} (hws : IsBlank ws)
    (hwritten : SpellsText written meant) (hws' : IsBlank ws')
    (hr : r.rest = ws ++ '"' :: (written ++ '"' :: (ws' ++ ':' :: rest))) :
    Leaves (passKey r) rest := by
  have hskip := rest_skip hws (by decide) hr
  obtain ⟨r₁, htext, hrest⟩ := leaves_passText hwritten (rest_eat hskip)
  have hcolon := rest_skip hws' (by decide) hrest
  refine ⟨r₁.skip.eat, ?_, rest_eat hcolon⟩
  simp [passKey, peek?_eq hskip, htext, bind, Except.bind, peek?_eq hcolon]

theorem passScalar?_digit (h : c.isDigit = true) : passScalar? c r = some (passNumber r) := by
  unfold passScalar?
  split
  case h_8 => rw [if_pos h]
  all_goals exact absurd h (by decide)

mutual

/-- **A value is passed in at most twice as many turns as it has characters.** -/
theorem comes_value {t : Tree} {value : List Char} (h : Spells t value) {ws rest : List Char}
    {stack : List Container} {r : Reader} (hws : IsBlank ws) (hrest : IsStop rest)
    (hr : r.rest = ws ++ (value ++ rest)) :
    Comes (2 * value.length) .before stack r stack rest := by
  cases h with
  | null =>
      refine (comes_scalar hws (.inr (by decide)) hr fun hr' => ?_).mono (by decide)
      exact ⟨_, rfl, leaves_passWord (rest_eat hr')⟩
  | true =>
      refine (comes_scalar hws (.inr (by decide)) hr fun hr' => ?_).mono (by decide)
      exact ⟨_, rfl, leaves_passWord (rest_eat hr')⟩
  | false =>
      refine (comes_scalar hws (.inr (by decide)) hr fun hr' => ?_).mono (by decide)
      exact ⟨_, rfl, leaves_passWord (rest_eat hr')⟩
  | number hnumber =>
      rcases hnumber with hunsigned | ⟨digits, hunsigned, rfl⟩
      · obtain ⟨d, digits, rfl, hd⟩ := hunsigned.exists_cons
        refine (comes_scalar hws (.inl hd) hr fun hr' => ?_).mono ?_
        · exact ⟨_, passScalar?_digit hd, leaves_passNumber hunsigned hrest hr'⟩
        · rw [List.length_cons]
          omega
      · refine (comes_scalar hws (.inr (by decide)) hr fun hr' => ?_).mono ?_
        · exact ⟨_, rfl, leaves_passNumber hunsigned hrest (rest_eat hr')⟩
        · rw [List.length_cons]
          omega
  | text htext =>
      simp only [List.cons_append, List.append_assoc, List.nil_append] at hr
      refine (comes_scalar hws (.inr (by decide)) hr fun hr' => ?_).mono ?_
      · exact ⟨_, rfl, leaves_passText htext (rest_eat hr')⟩
      · rw [List.length_cons]
        omega
  | array hitems =>
      cases hitems with
      | close hws' =>
          simp only [List.cons_append, List.append_assoc, List.nil_append] at hr
          refine (comes_empty .array hws hws' hr).mono ?_
          rw [List.length_cons]
          omega
      | item hseparator hws' hvalue hbody =>
          cases hseparator
          obtain ⟨c, cs, rfl, hc⟩ := hvalue.exists_cons
          simp only [List.cons_append, List.append_assoc, List.nil_append] at hr
          have hclose : c ≠ ']' := hc.ne (by decide) (by decide)
          refine (comes_opens .array hws hws' hc.not_space hclose hr
            (fun hr' => ⟨_, rfl, hr'⟩) fun hr' =>
              (comes_value hvalue isBlank_nil (isStop_items hbody rest) hr').trans
                (comes_items hbody)).mono ?_
          simp only [List.length_cons, List.length_append, List.length_nil]
          omega
  | object hmembers =>
      cases hmembers with
      | close hws' =>
          simp only [List.cons_append, List.append_assoc, List.nil_append] at hr
          refine (comes_empty .object hws hws' hr).mono ?_
          rw [List.length_cons]
          omega
      | member hseparator hws' hwritten hblank hblank' hvalue hbody =>
          cases hseparator
          simp only [List.cons_append, List.append_assoc, List.nil_append] at hr
          refine (comes_opens .object hws hws' (by decide) (by decide) hr
            (leaves_passKey isBlank_nil hwritten hblank) fun hr' =>
              (comes_value hvalue hblank' (isStop_members hbody rest) hr').trans
                (comes_members hbody)).mono ?_
          simp only [List.length_cons, List.length_append, List.length_nil]
          omega

theorem comes_items {ts : List Tree} {body : List Char} (h : SpellsItems false ts body)
    {rest : List Char} {stack : List Container} {r : Reader} (hr : r.rest = body ++ rest) :
    Comes (2 * body.length) .after (.array :: stack) r stack rest := by
  cases h with
  | close hws =>
      rw [List.append_assoc] at hr
      refine (comes_close hws hr).mono ?_
      rw [List.length_append, List.length_singleton]
      omega
  | item hseparator hws hvalue hbody =>
      cases hseparator with
      | comma hblank =>
          simp only [List.append_assoc, List.cons_append, List.nil_append] at hr
          refine (comes_comma hblank hr (fun hr' => ⟨_, rfl, hr'⟩) fun hr' =>
            (comes_value hvalue hws (isStop_items hbody rest) hr').trans
              (comes_items hbody)).mono ?_
          simp only [List.length_cons, List.length_append, List.length_nil]
          omega

theorem comes_members {ms : List (String × Tree)} {body : List Char}
    (h : SpellsMembers false ms body) {rest : List Char} {stack : List Container} {r : Reader}
    (hr : r.rest = body ++ rest) :
    Comes (2 * body.length) .after (.object :: stack) r stack rest := by
  cases h with
  | close hws =>
      rw [List.append_assoc] at hr
      refine (comes_close hws hr).mono ?_
      rw [List.length_append, List.length_singleton]
      omega
  | member hseparator hws hwritten hws' hws'' hvalue hbody =>
      cases hseparator with
      | comma hblank =>
          simp only [List.append_assoc, List.cons_append, List.nil_append] at hr
          refine (comes_comma hblank hr (leaves_passKey hws hwritten hws') fun hr' =>
            (comes_value hvalue hws'' (isStop_members hbody rest) hr').trans
              (comes_members hbody)).mono ?_
          simp only [List.length_cons, List.length_append, List.length_nil]
          omega

end

theorem leaves_passValue {t : Tree} {value : List Char} (h : Spells t value) (hws : IsBlank ws)
    (hrest : IsStop rest) (hr : r.rest = ws ++ (value ++ rest)) : Leaves (passValue r) rest := by
  have hcomes : Comes (2 * value.length) .before [] r [] rest := comes_value h hws hrest hr
  obtain ⟨n, r', hn, hrest', heq⟩ := hcomes
  have hlength : r.rest.length = ws.length + (value.length + rest.length) := by
    rw [hr, List.length_append, List.length_append]
  have hfuel : n + 1 ≤ 2 * r.rest.length + 2 := by omega
  obtain ⟨fuel, hfuel⟩ := Nat.exists_eq_add_of_le hfuel
  refine ⟨r', ?_, hrest'⟩
  rw [passValue, hfuel, Nat.add_assoc, heq, Nat.add_comm, passOpen]

end CaptureTypes.Json.Reader
