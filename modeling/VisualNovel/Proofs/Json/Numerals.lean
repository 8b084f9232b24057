import VisualNovel.Proofs.Json.Lexing

namespace VisualNovel.Json

namespace Numeral

/-- A significand times a power of ten, with the sign of the numeral. -/
def scaled (n : Numeral) (significand : Nat) (exponent : Int) : Except Error Number :=
  match scale? significand exponent with
  | some x => .ok (n.signed x)
  | none => .error (.located .numberOutOfRange n.stop)

/-- The same, with the exponent of the numeral added to the power. -/
def withExponent (n : Numeral) (significand : Nat) (start : Int) : Except Error Number :=
  match n.exponent with
  | none => n.scaled significand start
  | some (negative, digits) =>
    match exponentSize 0 0 digits with
    | .ok size => n.scaled significand (if negative then start - size else start + size)
    | .error read =>
      if significand ≠ 0 && !negative then
        .error (.located .numberOutOfRange (n.exponentStart + read))
      else .ok (n.signed 0)

theorem value_eq (n : Numeral) : n.value =
    match n.fraction with
    | some digits =>
      n.withExponent (absorbFraction (absorbWhole 0 n.whole).1 digits).1
        (((absorbWhole 0 n.whole).2 : Int) -
          (absorbFraction (absorbWhole 0 n.whole).1 digits).2)
    | none =>
      if n.exponent.isNone && (absorbWhole 0 n.whole).2 = 0 then
        if !n.negative then .ok (.integer (absorbWhole 0 n.whole).1)
        else if (absorbWhole 0 n.whole).1 = 0 || twoTo 63 < (absorbWhole 0 n.whole).1 then
          .ok (n.signed (Float.ofNat (absorbWhole 0 n.whole).1))
        else .ok (.integer (-(absorbWhole 0 n.whole).1))
      else n.withExponent (absorbWhole 0 n.whole).1 (absorbWhole 0 n.whole).2 := rfl

/-- Two numerals that differ at most in their offsets, which matter only to their errors. -/
structure Alike (n m : Numeral) : Prop where
  negative : m.negative = n.negative
  whole : m.whole = n.whole
  fraction : m.fraction = n.fraction
  exponent : m.exponent = n.exponent

namespace Alike

variable {n m : Numeral} {v : Number} (h : Alike n m)

include h

theorem signed (x : Float) : m.signed x = n.signed x := by
  rw [Numeral.signed, Numeral.signed, h.negative]

theorem scaled {significand : Nat} {exponent : Int}
    (value : n.scaled significand exponent = .ok v) : m.scaled significand exponent = .ok v := by
  unfold Numeral.scaled at value ⊢
  split at value
  · rw [h.signed]
    exact value
  · cases value

theorem withExponent {significand : Nat} {start : Int}
    (value : n.withExponent significand start = .ok v) :
    m.withExponent significand start = .ok v := by
  unfold Numeral.withExponent at value ⊢
  rw [h.exponent]
  split at value
  · exact h.scaled value
  · split at value
    · exact h.scaled value
    · split at value
      · cases value
      · next small =>
        rw [if_neg small, h.signed]
        exact value

theorem value (value : n.value = .ok v) : m.value = .ok v := by
  rw [value_eq] at value ⊢
  rw [h.whole, h.fraction, h.exponent]
  split at value
  · exact h.withExponent value
  · split at value
    · next integer =>
      rw [if_pos integer, h.negative, h.signed]
      exact value
    · next scale =>
      rw [if_neg scale]
      exact h.withExponent value

end Alike

theorem le_foldl_digits (significand : Nat) (digits : List Nat) :
    significand ≤ digits.foldl (fun s d => s * 10 + d) significand := by
  induction digits generalizing significand with
  | nil => exact Nat.le_refl _
  | cons d rest ih =>
    rw [List.foldl_cons]
    exact Nat.le_trans (by omega) (ih (significand * 10 + d))

/-- Digits of a number that fits 64 bits are all taken. -/
theorem absorbWhole_of_lt {significand : Nat} {digits : List Nat}
    (fits : digits.foldl (fun s d => s * 10 + d) significand < twoTo 64) :
    absorbWhole significand digits = (digits.foldl (fun s d => s * 10 + d) significand, 0) := by
  induction digits generalizing significand with
  | nil => rfl
  | cons d rest ih =>
    rw [List.foldl_cons] at fits ⊢
    have taken := Nat.lt_of_le_of_lt (le_foldl_digits _ rest) fits
    rw [absorbWhole, if_pos taken, ih fits]

theorem value_natural {digits : List Nat} {n first last : Nat}
    (whole : digits.foldl (fun s d => s * 10 + d) 0 = n) (fits : n < twoTo 64) :
    value ⟨false, digits, none, none, first, last⟩ = .ok (.integer n) := by
  have absorbed : absorbWhole 0 digits = (n, 0) := by
    rw [absorbWhole_of_lt (whole ▸ fits), whole]
  simp [value, absorbed]

theorem value_negative {digits : List Nat} {n first last : Nat}
    (whole : digits.foldl (fun s d => s * 10 + d) 0 = n) (pos : 0 < n) (fits : n ≤ twoTo 63) :
    value ⟨true, digits, none, none, first, last⟩ = .ok (.integer (-n)) := by
  have absorbed : absorbWhole 0 digits = (n, 0) := by
    rw [absorbWhole_of_lt, whole]
    exact whole ▸ Nat.lt_of_le_of_lt fits (by decide)
  have small : ¬ (n = 0 ∨ twoTo 63 < n) := by omega
  simp [value, absorbed, small]

end Numeral

namespace Token

/-- No character that could go on with a numeral comes first. -/
def Ends (tail : List Char) : Prop :=
  ∀ c ∈ tail.head?, c.isDigit = false ∧ c ≠ '.' ∧ c ≠ 'e' ∧ c ≠ 'E'

/-- No digit comes first. -/
def Breaks (tail : List Char) : Prop := ∀ c ∈ tail.head?, c.isDigit = false

theorem Ends.breaks {tail : List Char} (h : Ends tail) : Breaks tail := fun c mem => (h c mem).1

theorem breaks_cons {c : Char} {tail : List Char} (h : c.isDigit = false) : Breaks (c :: tail) := by
  simpa [Breaks] using h

variable {digits tail : List Char}

theorem takeWhile_digits (all : ∀ c ∈ digits, c.isDigit = true) (breaks : Breaks tail) :
    (digits ++ tail).takeWhile Char.isDigit = digits := by
  rw [List.takeWhile_append_of_pos all]
  cases tail with
  | nil => simp
  | cons c rest => simp [breaks c rfl]

theorem dropWhile_digits (all : ∀ c ∈ digits, c.isDigit = true) (breaks : Breaks tail) :
    (digits ++ tail).dropWhile Char.isDigit = tail := by
  rw [List.dropWhile_append_of_pos all]
  cases tail with
  | nil => simp
  | cons c rest => simp [breaks c rfl]

theorem digitsAt_append (all : ∀ c ∈ digits, c.isDigit = true) (breaks : Breaks tail) :
    digitsAt (digits ++ tail) = digits.map digitValue := by
  rw [digitsAt, takeWhile_digits all breaks]

/-- The digits at the beginning of a text, and what stands behind them. -/
theorem exists_digits (cs : List Char) : ∃ digits tail, cs = digits ++ tail ∧
    (∀ c ∈ digits, c.isDigit = true) ∧ Breaks tail := by
  refine ⟨cs.takeWhile Char.isDigit, cs.dropWhile Char.isDigit,
    List.takeWhile_append_dropWhile.symm,
    List.all_eq_true.1 List.all_takeWhile, fun c mem => ?_⟩
  have stops := List.head?_dropWhile_not Char.isDigit cs
  rw [Option.mem_def.1 mem] at stops
  simpa using stops

/-- A reader takes what was used up, whatever ends it. -/
def Takes (read : Numeral → Nat → List Char → Read) (n : Numeral) (used : List Char)
    (v : Number) : Prop :=
  ∀ m offset tail, Numeral.Alike n m → Ends tail →
    ∃ stop, read m offset (used ++ tail) = ⟨.number (.ok v), tail, stop⟩

theorem missingDigit_ne {offset stop : Nat} {cs rest : List Char} {v : Except Error Number} :
    missingDigit offset cs ≠ ⟨.number v, rest, stop⟩ := by
  cases cs <;> simp [missingDigit, fault]

/-- The digits of an exponent whose sign was read. -/
def exponentDigits (negative : Bool) (n : Numeral) (offset : Nat) (cs : List Char) : Read :=
  match digitsAt cs with
  | [] => missingDigit offset cs
  | digits =>
    let stop := offset + digits.length
    let n := { n with exponent := some (negative, digits), exponentStart := offset, stop }
    ⟨.number n.value, cs.dropWhile Char.isDigit, stop⟩

theorem readExponent_unsigned (n : Numeral) (offset : Nat) {c : Char} {cs : List Char}
    (plus : c ≠ '+') (minus : c ≠ '-') :
    readExponent n offset (c :: cs) = exponentDigits false n offset (c :: cs) := by
  unfold readExponent
  split
  next negative rest next signed =>
  split at signed
  · next first =>
    cases first
    exact (plus rfl).elim
  · next first =>
    cases first
    exact (minus rfl).elim
  · cases signed
    rfl

theorem exponentDigits_cons {digits tail : List Char} {d : Char} (n : Numeral) (negative : Bool)
    (offset : Nat) (all : ∀ c ∈ d :: digits, c.isDigit = true) (breaks : Breaks tail) :
    ∃ first stop, exponentDigits negative n offset (d :: digits ++ tail) =
      ⟨.number (Numeral.value { n with
        exponent := some (negative, (d :: digits).map digitValue), exponentStart := first, stop }),
        tail, stop⟩ := by
  refine ⟨offset, offset + (d :: digits).length, ?_⟩
  rw [exponentDigits, digitsAt_append all breaks, dropWhile_digits all breaks]
  simp

theorem exponentDigits_take {n : Numeral} {negative : Bool} {offset stop : Nat}
    {cs rest : List Char} {v : Number}
    (h : exponentDigits negative n offset cs = ⟨.number (.ok v), rest, stop⟩) :
    ∃ d used, cs = d :: used ++ rest ∧ Takes (exponentDigits negative) n (d :: used) v := by
  obtain ⟨digits, after, rfl, all, breaks⟩ := exists_digits cs
  cases digits with
  | nil =>
    rw [exponentDigits, digitsAt_append all breaks] at h
    exact (missingDigit_ne h).elim
  | cons d digits =>
    obtain ⟨first, last, read⟩ := exponentDigits_cons n negative offset all breaks
    rw [read] at h
    simp only [Read.mk.injEq, Kind.number.injEq] at h
    obtain ⟨value, rfl, -⟩ := h
    refine ⟨d, digits, rfl, fun m offset' tail alike ends => ?_⟩
    obtain ⟨first', last', read'⟩ := exponentDigits_cons m negative offset' all ends.breaks
    refine ⟨last', ?_⟩
    rw [read', Numeral.Alike.value ?_ value]
    exact ⟨alike.negative, alike.whole, alike.fraction, rfl⟩

theorem readExponent_take {n : Numeral} {offset stop : Nat} {cs rest : List Char} {v : Number}
    (h : readExponent n offset cs = ⟨.number (.ok v), rest, stop⟩) :
    ∃ used, cs = used ++ rest ∧ Takes readExponent n used v := by
  cases cs with
  | nil => cases h
  | cons c cs =>
    by_cases plus : c = '+'
    · subst plus
      obtain ⟨d, used, rfl, takes⟩ := exponentDigits_take h
      exact ⟨'+' :: d :: used, rfl, fun m offset => takes m (offset + 1)⟩
    · by_cases minus : c = '-'
      · subst minus
        obtain ⟨d, used, rfl, takes⟩ := exponentDigits_take h
        exact ⟨'-' :: d :: used, rfl, fun m offset => takes m (offset + 1)⟩
      · rw [readExponent_unsigned n offset plus minus] at h
        obtain ⟨d, used, same, takes⟩ := exponentDigits_take h
        cases same
        refine ⟨c :: used, rfl, fun m offset tail alike ends => ?_⟩
        rw [List.cons_append, readExponent_unsigned m offset plus minus]
        exact takes m offset tail alike ends

/-- What stands behind the digits of a whole part or of a fraction: an exponent or the end. -/
def readScale (n : Numeral) (stop : Nat) (cs : List Char) : Read :=
  match cs with
  | 'e' :: rest | 'E' :: rest => readExponent n (stop + 1) rest
  | rest => ⟨.number n.value, rest, stop⟩

theorem readScale_unscaled (n : Numeral) (stop : Nat) {cs : List Char}
    (small : ∀ rest, cs ≠ 'e' :: rest) (big : ∀ rest, cs ≠ 'E' :: rest) :
    readScale n stop cs = ⟨.number n.value, cs, stop⟩ := by
  unfold readScale
  split
  · exact (small _ rfl).elim
  · exact (big _ rfl).elim
  · rfl

theorem readScale_ends (n : Numeral) (stop : Nat) {cs : List Char} (ends : Ends cs) :
    readScale n stop cs = ⟨.number n.value, cs, stop⟩ := by
  apply readScale_unscaled
  · rintro rest rfl
    exact (ends _ rfl).2.2.1 rfl
  · rintro rest rfl
    exact (ends _ rfl).2.2.2 rfl

theorem readScale_take {n : Numeral} {offset stop : Nat} {cs rest : List Char} {v : Number}
    (h : readScale n offset cs = ⟨.number (.ok v), rest, stop⟩) :
    ∃ used, cs = used ++ rest ∧ (∀ c ∈ used.head?, c = 'e' ∨ c = 'E') ∧ Takes readScale n used v := by
  unfold readScale at h
  split at h
  · obtain ⟨used, rfl, takes⟩ := readExponent_take h
    exact ⟨'e' :: used, rfl, by simp, fun m offset => takes m (offset + 1)⟩
  · obtain ⟨used, rfl, takes⟩ := readExponent_take h
    exact ⟨'E' :: used, rfl, by simp, fun m offset => takes m (offset + 1)⟩
  · simp only [Read.mk.injEq, Kind.number.injEq] at h
    obtain ⟨value, rfl, -⟩ := h
    refine ⟨[], rfl, by simp, fun m offset tail alike ends => ⟨offset, ?_⟩⟩
    rw [List.nil_append, readScale_ends m offset ends, alike.value value]

theorem breaks_scale {used tail : List Char} (scale : ∀ c ∈ used.head?, c = 'e' ∨ c = 'E')
    (ends : Ends tail) : Breaks (used ++ tail) := by
  cases used with
  | nil => exact ends.breaks
  | cons c used =>
    obtain rfl | rfl := scale c rfl
    · exact breaks_cons (by decide)
    · exact breaks_cons (by decide)

theorem readFraction_cons {digits tail : List Char} {d : Char} (n : Numeral) (offset : Nat)
    (all : ∀ c ∈ d :: digits, c.isDigit = true) (breaks : Breaks tail) :
    ∃ stop, readFraction n offset (d :: digits ++ tail) =
      readScale { n with fraction := some ((d :: digits).map digitValue), stop } stop tail := by
  refine ⟨offset + ((d :: digits).map digitValue).length, ?_⟩
  rw [readFraction, digitsAt_append all breaks, dropWhile_digits all breaks]
  rfl

theorem readFraction_take {n : Numeral} {offset stop : Nat} {cs rest : List Char} {v : Number}
    (h : readFraction n offset cs = ⟨.number (.ok v), rest, stop⟩) :
    ∃ used, cs = used ++ rest ∧ Takes readFraction n used v := by
  obtain ⟨digits, after, rfl, all, breaks⟩ := exists_digits cs
  cases digits with
  | nil =>
    rw [readFraction, digitsAt_append all breaks] at h
    exact (missingDigit_ne h).elim
  | cons d digits =>
    obtain ⟨last, read⟩ := readFraction_cons n offset all breaks
    rw [read] at h
    obtain ⟨used, rfl, scale, takes⟩ := readScale_take h
    refine ⟨d :: digits ++ used, (List.append_assoc ..).symm, fun m offset' tail alike ends => ?_⟩
    obtain ⟨last', read'⟩ := readFraction_cons m offset' all (breaks_scale scale ends)
    rw [List.append_assoc, read']
    exact takes _ last' tail ⟨alike.negative, alike.whole, rfl, alike.exponent⟩ ends

/-- What stands behind the digits of a whole part. -/
def readPlaces (n : Numeral) (stop : Nat) (cs : List Char) : Read :=
  match cs with
  | '.' :: rest => readFraction n (stop + 1) rest
  | cs => readScale n stop cs

theorem readPlaces_scale (n : Numeral) (stop : Nat) {cs : List Char}
    (whole : ∀ rest, cs ≠ '.' :: rest) : readPlaces n stop cs = readScale n stop cs := by
  unfold readPlaces
  split
  · exact (whole _ rfl).elim
  · rfl

theorem readPlaces_ends (n : Numeral) (stop : Nat) {cs : List Char} (ends : Ends cs) :
    readPlaces n stop cs = ⟨.number n.value, cs, stop⟩ := by
  rw [readPlaces_scale, readScale_ends n stop ends]
  rintro rest rfl
  exact (ends _ rfl).2.1 rfl

theorem readPlaces_take {n : Numeral} {offset stop : Nat} {cs rest : List Char} {v : Number}
    (h : readPlaces n offset cs = ⟨.number (.ok v), rest, stop⟩) :
    ∃ used, cs = used ++ rest ∧ (∀ tail, Ends tail → Breaks (used ++ tail)) ∧
      Takes readPlaces n used v := by
  unfold readPlaces at h
  split at h
  · obtain ⟨used, rfl, takes⟩ := readFraction_take h
    exact ⟨'.' :: used, rfl, fun _ _ => breaks_cons (by decide), fun m offset => takes m (offset + 1)⟩
  · obtain ⟨used, rfl, scale, takes⟩ := readScale_take h
    refine ⟨used, rfl, fun _ => breaks_scale scale, fun m offset tail alike ends => ?_⟩
    rw [readPlaces_scale]
    · exact takes m offset tail alike ends
    · cases used with
      | nil =>
        rintro rest rfl
        exact (ends _ rfl).2.1 rfl
      | cons d used =>
        obtain rfl | rfl := scale d rfl
        · simp
        · simp

/-- Only a zero that stands alone leads. -/
theorem readNumber_cons {digits tail : List Char} {d : Char} (negative : Bool) (offset : Nat)
    (all : ∀ c ∈ d :: digits, c.isDigit = true) (breaks : Breaks tail)
    (leads : digitValue d = 0 → digits = []) :
    ∃ stop, readNumber negative offset (d :: digits ++ tail) =
      readPlaces ⟨negative, (d :: digits).map digitValue, none, none, 0, stop⟩ stop tail := by
  refine ⟨offset + ((d :: digits).map digitValue).length, ?_⟩
  rw [readNumber, digitsAt_append all breaks, dropWhile_digits all breaks]
  split
  · next none => cases none
  · next zeros =>
    simp only [List.map_cons, List.cons.injEq] at zeros
    rw [leads zeros.1] at zeros
    cases zeros.2
  · dsimp only
    split
    · rfl
    · rfl
    · rfl
    · next point small big => rw [readPlaces_scale _ _ point, readScale_unscaled _ _ small big]

theorem readNumber_take {negative : Bool} {offset stop : Nat} {cs rest : List Char} {v : Number}
    (h : readNumber negative offset cs = ⟨.number (.ok v), rest, stop⟩) :
    ∃ d used, cs = d :: used ++ rest ∧ d.isDigit = true ∧ ∀ offset tail, Ends tail →
      ∃ stop, readNumber negative offset (d :: used ++ tail) = ⟨.number (.ok v), tail, stop⟩ := by
  obtain ⟨digits, after, rfl, all, breaks⟩ := exists_digits cs
  cases digits with
  | nil =>
    rw [readNumber, digitsAt_append all breaks] at h
    exact (missingDigit_ne h).elim
  | cons d digits =>
    have leads : digitValue d = 0 → digits = [] := by
      intro zero
      cases digits with
      | nil => rfl
      | cons d' digits =>
        rw [readNumber, digitsAt_append all breaks] at h
        simp only [List.map_cons, zero, fault, Read.mk.injEq, reduceCtorEq, false_and] at h
    obtain ⟨last, read⟩ := readNumber_cons negative offset all breaks leads
    rw [read] at h
    obtain ⟨used, rfl, breaks', takes⟩ := readPlaces_take h
    refine ⟨d, digits ++ used, by simp, all d (by simp), fun offset' tail ends => ?_⟩
    obtain ⟨last', read'⟩ := readNumber_cons negative offset' all (breaks' tail ends) leads
    rw [← List.cons_append, List.append_assoc, read']
    exact takes _ last' tail ⟨rfl, rfl, rfl, rfl⟩ ends

theorem readWord_ne {kind : Kind} {v : Except Error Number} (other : kind ≠ .number v)
    (word cs : List Char) (offset : Nat) : (readWord kind offset word cs).kind ≠ .number v := by
  induction word generalizing offset cs with
  | nil => exact other
  | cons w word ih =>
    cases cs with
    | nil => simp [readWord, fault]
    | cons c cs =>
      rw [readWord]
      split
      · exact ih cs (offset + 1)
      · simp [fault]

theorem readString_ne {v : Except Error Number} (earlier : Option Error) (leading : Option Nat)
    (chars : List Char) (offset : Nat) (cs : List Char) :
    (readString earlier leading chars offset cs).kind ≠ .number v := by
  fun_induction readString with
  | case1 => simp [endString]
  | _ => first | assumption | simp_all [endString]

theorem isSpace_digit {c : Char} (digit : c.isDigit = true) : isSpace c = false := by
  simp only [isSpace, Bool.or_eq_false_iff, beq_eq_false_iff_ne]
  refine ⟨⟨⟨?_, ?_⟩, ?_⟩, ?_⟩ <;> (rintro rfl; cases digit)

theorem readOne_digit {c : Char} (digit : c.isDigit = true) (offset : Nat) (rest : List Char) :
    readOne offset c rest = readNumber false offset (c :: rest) := by
  unfold readOne
  split
  case h_12 => rw [if_pos digit]
  all_goals cases digit

/-- A numeral that is read as the first token is read so before any end of it. -/
theorem readOne_number {first : Char} {offset stop : Nat} {cs rest : List Char} {v : Number}
    (h : readOne offset first cs = ⟨.number (.ok v), rest, stop⟩) :
    isSpace first = false ∧ ∃ used, cs = used ++ rest ∧ ∀ tail, Ends tail →
      Lexes (first :: used ++ tail) tail [.number (.ok v)] := by
  have kind : (readOne offset first cs).kind = .number (.ok v) := by rw [h]
  unfold readOne at h kind
  split at h
  · cases h
  · cases h
  · cases h
  · cases h
  · cases h
  · cases h
  · exact (readWord_ne (by simp) _ _ _ kind).elim
  · exact (readWord_ne (by simp) _ _ _ kind).elim
  · exact (readWord_ne (by simp) _ _ _ kind).elim
  · exact (readString_ne _ _ _ _ _ kind).elim
  · obtain ⟨d, used, rfl, digit, takes⟩ := readNumber_take h
    refine ⟨rfl, d :: used, rfl, fun tail ends => ?_⟩
    exact .one (fun offset => takes (offset + 1) tail ends) rfl rfl (by simp; omega)
  · split at h
    · next digit =>
      obtain ⟨d, used, same, -, takes⟩ := readNumber_take h
      cases same
      refine ⟨isSpace_digit digit, used, rfl, fun tail ends => ?_⟩
      refine .one (fun offset => ?_) (isSpace_digit digit) rfl (by simp)
      rw [readOne_digit digit]
      exact takes offset tail ends
    · cases h

theorem ends_space {c : Char} (blank : isSpace c = true) (tail : List Char) :
    Ends (c :: tail) := by
  simp only [isSpace, Bool.or_eq_true, beq_iff_eq] at blank
  obtain ((rfl | rfl) | rfl) | rfl := blank <;> simp [Ends]

theorem lexes_spaces {cs : List Char} {bound offset : Nat} (le : cs.length ≤ bound)
    (empty : readAll bound offset cs = []) {tail : List Char} (ends : Ends tail) :
    Ends (cs ++ tail) ∧ Lexes (cs ++ tail) tail [] := by
  induction cs generalizing bound offset with
  | nil => exact ⟨ends, .refl tail⟩
  | cons c cs ih =>
    obtain ⟨bound, rfl⟩ := Nat.exists_eq_add_one_of_ne_zero (Nat.ne_of_gt (Nat.zero_lt_of_lt le))
    rw [readAll] at empty
    split at empty
    · next blank =>
      have later := (ih (Nat.le_of_succ_le_succ le) empty).2
      exact ⟨ends_space blank _, (Lexes.space blank _).layout later⟩
    · dsimp only at empty
      split at empty <;> cases empty

/-- A text whose only token is a number has it wherever the text stands. -/
theorem lexes_of_readAll {cs : List Char} {bound offset : Nat} {tokens : List Token} {v : Number}
    (le : cs.length ≤ bound) (read : readAll bound offset cs = tokens)
    (kinds : tokens.map Token.kind = [.number (.ok v)]) {tail : List Char} (ends : Ends tail) :
    Lexes (cs ++ tail) tail [.number (.ok v)] := by
  induction cs generalizing bound offset with
  | nil =>
    have none : readAll bound offset [] = [] := by cases bound <;> rfl
    rw [none] at read
    subst read
    cases kinds
  | cons c cs ih =>
    obtain ⟨bound, rfl⟩ := Nat.exists_eq_add_one_of_ne_zero (Nat.ne_of_gt (Nat.zero_lt_of_lt le))
    rw [readAll] at read
    split at read
    · next blank => exact (Lexes.space blank _).layout (ih (Nat.le_of_succ_le_succ le) read)
    · dsimp only at read
      generalize taken : readOne offset c cs = r at read
      obtain ⟨kind, rest, stop⟩ := r
      split at read
      · next last =>
        subst read
        simp only [List.map_cons, List.map_nil, List.cons.injEq, and_true] at kinds
        subst kinds
        cases last
      · subst read
        simp only [List.map_cons, List.cons.injEq, List.map_eq_nil_iff] at kinds
        obtain ⟨rfl, empty⟩ := kinds
        obtain ⟨-, used, rfl, takes⟩ := readOne_number taken
        have short : rest.length ≤ bound := by
          simp only [List.length_cons, List.length_append] at le
          omega
        obtain ⟨ends', blanks⟩ := lexes_spaces short empty ends
        rw [List.cons_append, List.append_assoc]
        exact (takes _ ends').trans blanks

theorem leads_toDigits {n : Nat} {d : Char} {digits : List Char}
    (h : Nat.toDigits 10 n = d :: digits) (zero : digitValue d = 0) : digits = [] := by
  induction n using Nat.strongRecOn generalizing d digits with
  | ind n ih =>
    rw [Nat.toDigits_eq_if (by decide)] at h
    split at h
    · exact (List.cons.inj h).2.symm
    · next large =>
      cases high : Nat.toDigits 10 (n / 10) with
      | nil => exact (Nat.toDigits_ne_nil high).elim
      | cons d' digits' =>
        rw [high, List.cons_append] at h
        obtain ⟨rfl, -⟩ := List.cons.inj h
        rw [ih (n / 10) (by omega) high zero] at high
        have value := @Nat.ofDigitChars_ten_toDigits (n / 10)
        rw [high, Nat.ofDigitChars_cons, Nat.ofDigitChars_nil] at value
        have none : d'.toNat - '0'.toNat = 0 := zero
        omega

theorem foldl_toDigits (n : Nat) :
    ((Nat.toDigits 10 n).map digitValue).foldl (fun s d => s * 10 + d) 0 = n := by
  have value := @Nat.ofDigitChars_ten_toDigits n
  rw [Nat.ofDigitChars_eq_foldl] at value
  rw [List.foldl_map]
  simpa only [digitValue, Nat.mul_comm] using value

theorem readNumber_natural (n : Nat) (negative : Bool) (offset : Nat) {tail : List Char}
    (ends : Ends tail) : ∃ first stop, readNumber negative offset (Nat.toDigits 10 n ++ tail) =
      ⟨.number (Numeral.value
        ⟨negative, (Nat.toDigits 10 n).map digitValue, none, none, first, stop⟩), tail, stop⟩ := by
  have all : ∀ c ∈ Nat.toDigits 10 n, c.isDigit = true := fun c mem =>
    Nat.isDigit_of_mem_toDigits (by decide) (by decide) mem
  cases digits : Nat.toDigits 10 n with
  | nil => exact (Nat.toDigits_ne_nil digits).elim
  | cons d rest =>
    rw [digits] at all
    obtain ⟨stop, read⟩ := readNumber_cons negative offset all ends.breaks (leads_toDigits digits)
    exact ⟨0, stop, by rw [read, readPlaces_ends _ _ ends]⟩

theorem lexes_natural {n : Nat} (fits : n < twoTo 64) {tail : List Char} (ends : Ends tail) :
    Lexes (Nat.toDigits 10 n ++ tail) tail [.number (.ok (.integer n))] := by
  have read (offset : Nat) := readNumber_natural n false offset ends
  cases digits : Nat.toDigits 10 n with
  | nil => exact (Nat.toDigits_ne_nil digits).elim
  | cons d rest =>
    have digit : d.isDigit = true := by
      refine @Nat.isDigit_of_mem_toDigits 10 n d (by decide) (by decide) ?_
      simp [digits]
    rw [List.cons_append]
    refine .one (fun offset => ?_) (isSpace_digit digit) rfl (by simp)
    obtain ⟨first, stop, read⟩ := read offset
    refine ⟨stop, ?_⟩
    rw [readOne_digit digit, ← List.cons_append, ← digits, read,
      Numeral.value_natural (foldl_toDigits n) fits]

theorem lexes_negative {n : Nat} (pos : 0 < n) (fits : n ≤ twoTo 63) {tail : List Char}
    (ends : Ends tail) :
    Lexes ('-' :: Nat.toDigits 10 n ++ tail) tail [.number (.ok (.integer (-n)))] := by
  refine .one (fun offset => ?_) rfl rfl (by simp)
  obtain ⟨first, stop, read⟩ := readNumber_natural n true (offset + 1) ends
  refine ⟨stop, ?_⟩
  rw [Numeral.value_negative (foldl_toDigits n) pos fits] at read
  exact read

theorem lexes_integer {i : Int} (least : -(twoTo 63 : Int) ≤ i) (greatest : i < twoTo 64)
    {tail : List Char} (ends : Ends tail) :
    Lexes ((Number.integer i).text.toList ++ tail) tail [.number (.ok (.integer i))] := by
  cases i with
  | ofNat n =>
    have text : (Number.integer (Int.ofNat n)).text.toList = Nat.toDigits 10 n := by
      rw [Number.text, Int.toString_eq_repr]
      exact Nat.toList_repr
    rw [text]
    refine lexes_natural ?_ ends
    exact Int.ofNat_lt.1 greatest
  | negSucc n =>
    have text : (Number.integer (Int.negSucc n)).text.toList = '-' :: Nat.toDigits 10 (n + 1) := by
      rw [Number.text, Int.toString_eq_repr, Int.repr, String.toList_append, Nat.toList_repr]
      rfl
    rw [text]
    exact lexes_negative (Nat.succ_pos n) (by omega) ends

end Token

end VisualNovel.Json
