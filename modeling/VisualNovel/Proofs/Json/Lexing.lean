import VisualNovel.Json.Printer
import VisualNovel.Json.Token

/-!
The tokens of texts that are put together: brackets, words and strings are found where they are
written, and layout between them is passed over.
-/

namespace VisualNovel.Json.Token

/-- The tokens of a text are some of the given kinds, and behind them those of the rest of it,
whatever the offset of the text is. -/
def Lexes (cs rest : List Char) (kinds : List Kind) : Prop :=
  ∀ bound offset, cs.length ≤ bound → ∃ tokens bound' offset', rest.length ≤ bound' ∧
    readAll bound offset cs = tokens ++ readAll bound' offset' rest ∧
      tokens.map Token.kind = kinds

namespace Lexes

variable {a b c : List Char} {kinds later : List Kind}

theorem refl (cs : List Char) : Lexes cs cs [] := fun bound offset h =>
  ⟨[], bound, offset, h, rfl, rfl⟩

theorem trans (h : Lexes a b kinds) (h' : Lexes b c later) : Lexes a c (kinds ++ later) := by
  intro bound offset le
  obtain ⟨first, bound', offset', le', same, rfl⟩ := h bound offset le
  obtain ⟨second, bound'', offset'', le'', same', rfl⟩ := h' bound' offset' le'
  exact ⟨first ++ second, bound'', offset'', le'', by rw [same, same', List.append_assoc],
    List.map_append⟩

theorem layout (h : Lexes a b []) (h' : Lexes b c kinds) : Lexes a c kinds := h.trans h'

theorem space {blank : Char} (isSpace : isSpace blank = true) (rest : List Char) :
    Lexes (blank :: rest) rest [] := by
  intro bound offset le
  obtain ⟨bound, rfl⟩ := Nat.exists_eq_add_one_of_ne_zero (Nat.ne_of_gt (Nat.zero_lt_of_lt le))
  exact ⟨[], bound, offset + 1, Nat.le_of_succ_le_succ le, by simp [readAll, isSpace], rfl⟩

theorem one {first : Char} {cs rest : List Char} {kind : Kind}
    (read : ∀ offset, ∃ stop, readOne offset first cs = ⟨kind, rest, stop⟩)
    (begins : isSpace first = false) (fine : kind.isLast = false)
    (shorter : rest.length ≤ cs.length) : Lexes (first :: cs) rest [kind] := by
  intro bound offset le
  obtain ⟨bound, rfl⟩ := Nat.exists_eq_add_one_of_ne_zero (Nat.ne_of_gt (Nat.zero_lt_of_lt le))
  obtain ⟨stop, read⟩ := read offset
  refine ⟨[⟨kind, offset, stop⟩], bound, stop, ?_, ?_, rfl⟩
  · exact Nat.le_trans shorter (Nat.le_of_succ_le_succ le)
  · simp [readAll, begins, read, fine]

end Lexes

theorem lexes_blanks (n : Nat) (rest : List Char) :
    Lexes (List.replicate n ' ' ++ rest) rest [] := by
  induction n with
  | zero => exact .refl rest
  | succ n ih => exact (Lexes.space rfl _).layout ih

theorem lexes_lineBreak (level : Nat) (rest : List Char) :
    Lexes ((lineBreak level).toList ++ rest) rest [] := by
  have text : (lineBreak level).toList = '\n' :: List.replicate (2 * level) ' ' := by
    simp [lineBreak]
  rw [text]
  exact (Lexes.space rfl _).layout (lexes_blanks _ rest)

theorem lexes_openArray (rest : List Char) : Lexes ('[' :: rest) rest [.openArray] :=
  .one (fun _ => ⟨_, rfl⟩) rfl rfl (Nat.le_refl _)

theorem lexes_closeArray (rest : List Char) : Lexes (']' :: rest) rest [.closeArray] :=
  .one (fun _ => ⟨_, rfl⟩) rfl rfl (Nat.le_refl _)

theorem lexes_openObject (rest : List Char) : Lexes ('\x7b' :: rest) rest [.openObject] :=
  .one (fun _ => ⟨_, rfl⟩) rfl rfl (Nat.le_refl _)

theorem lexes_closeObject (rest : List Char) : Lexes ('\x7d' :: rest) rest [.closeObject] :=
  .one (fun _ => ⟨_, rfl⟩) rfl rfl (Nat.le_refl _)

theorem lexes_comma (rest : List Char) : Lexes (',' :: rest) rest [.comma] :=
  .one (fun _ => ⟨_, rfl⟩) rfl rfl (Nat.le_refl _)

theorem lexes_colon (rest : List Char) : Lexes (':' :: rest) rest [.colon] :=
  .one (fun _ => ⟨_, rfl⟩) rfl rfl (Nat.le_refl _)

theorem lexes_null (rest : List Char) : Lexes ("null".toList ++ rest) rest [.null] :=
  .one (fun _ => ⟨_, rfl⟩) rfl rfl (by simp; omega)

theorem lexes_true (rest : List Char) : Lexes ("true".toList ++ rest) rest [.bool true] :=
  .one (fun _ => ⟨_, rfl⟩) rfl rfl (by simp; omega)

theorem lexes_false (rest : List Char) : Lexes ("false".toList ++ rest) rest [.bool false] :=
  .one (fun _ => ⟨_, rfl⟩) rfl rfl (by simp; omega)

theorem readString_simple {escape plain : Char} (known : simpleEscape escape = some plain)
    (other : escape ≠ 'u') (chars : List Char) (offset : Nat) (rest : List Char) :
    readString none none chars offset ('\\' :: escape :: rest) =
      readString none none (plain :: chars) (offset + 2) rest := by
  rw [readString]
  · simp [known]
  · simpa using other

theorem readString_plain {c : Char} (quote : c ≠ '"') (escape : c ≠ '\\')
    (printed : ¬ c.toNat < 0x20) (chars : List Char) (offset : Nat) (rest : List Char) :
    readString none none chars offset (c :: rest) =
      readString none none (c :: chars) (offset + c.utf8Size) rest := by
  rw [readString]
  · simp [printed]
  · exact quote
  all_goals simp [escape]

theorem unicodeEscape_eq {c : Char} (control : c.toNat < 0x20) :
    ∃ high low, unicodeEscape c = ['\\', 'u', '0', '0', high, low] ∧
      hexUnit '0' '0' high low = some c.toNat := by
  have all : ∀ n < 0x20, unicodeEscape (Char.ofNat n) =
        ['\\', 'u', '0', '0', Nat.digitChar (n / 16), Nat.digitChar (n % 16)] ∧
      hexUnit '0' '0' (Nat.digitChar (n / 16)) (Nat.digitChar (n % 16)) = some n := by
    decide
  obtain ⟨escape, unit⟩ := all c.toNat control
  rw [Char.ofNat_toNat] at escape
  exact ⟨_, _, escape, unit⟩

theorem readString_control {c : Char} (control : c.toNat < 0x20) (chars : List Char)
    (offset : Nat) (rest : List Char) :
    readString none none chars offset (unicodeEscape c ++ rest) =
      readString none none (c :: chars) (offset + 6) rest := by
  obtain ⟨high, low, escape, unit⟩ := unicodeEscape_eq control
  have trailing : isTrailing c.toNat = false := by
    simp only [isTrailing, Bool.and_eq_false_iff, decide_eq_false_iff_not]
    omega
  have leading : isLeading c.toNat = false := by
    simp only [isLeading, Bool.and_eq_false_iff, decide_eq_false_iff_not]
    omega
  rw [escape]
  simp [readString, unit, trailing, leading]

theorem readString_escape (c : Char) (chars : List Char) (offset : Nat) (rest : List Char) :
    ∃ next, readString none none chars offset (escapeChar c ++ rest) =
      readString none none (c :: chars) next rest := by
  unfold escapeChar
  split
  · exact ⟨_, readString_simple rfl (by decide) chars offset rest⟩
  · exact ⟨_, readString_simple rfl (by decide) chars offset rest⟩
  · exact ⟨_, readString_simple rfl (by decide) chars offset rest⟩
  · exact ⟨_, readString_simple rfl (by decide) chars offset rest⟩
  · exact ⟨_, readString_simple rfl (by decide) chars offset rest⟩
  · exact ⟨_, readString_simple rfl (by decide) chars offset rest⟩
  · exact ⟨_, readString_simple rfl (by decide) chars offset rest⟩
  · split
    · next control => exact ⟨_, readString_control control chars offset rest⟩
    · next printed => exact ⟨_, readString_plain ‹_› ‹_› printed chars offset rest⟩

theorem readString_escaped (s chars : List Char) (offset : Nat) (rest : List Char) :
    ∃ stop, readString none none chars offset (s.flatMap escapeChar ++ '"' :: rest) =
      ⟨.string (.ok (String.ofList (chars.reverse ++ s))), rest, stop⟩ := by
  induction s generalizing chars offset with
  | nil => exact ⟨offset + 1, by simp [readString]⟩
  | cons c s ih =>
    obtain ⟨next, read⟩ := readString_escape c chars offset (s.flatMap escapeChar ++ '"' :: rest)
    obtain ⟨stop, read'⟩ := ih (c :: chars) next
    refine ⟨stop, ?_⟩
    rw [List.flatMap_cons, List.append_assoc, read, read']
    simp

theorem lexes_string (s : String) (rest : List Char) :
    Lexes ((stringText s).toList ++ rest) rest [.string (.ok s)] := by
  have text : (stringText s).toList ++ rest =
      '"' :: (s.toList.flatMap escapeChar ++ '"' :: rest) := by
    simp [stringText]
  rw [text]
  refine .one (fun offset => ?_) rfl rfl (by simp; omega)
  obtain ⟨stop, read⟩ := readString_escaped s.toList [] (offset + 1) rest
  exact ⟨stop, by simpa [readOne] using read⟩

end VisualNovel.Json.Token
