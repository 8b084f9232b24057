import VisualNovel.Proofs.Json.Coherent

/-!
Numbers that are read back. Integers that fit 64 bits are, and what is not finite becomes null. Of
other numbers it has to be known for their own texts; it then holds wherever they are written.
-/

namespace VisualNovel.Json

variable {α : Type}

theorem Decoder.decode_eq_ok {d : Decoder α} {text : String} {a : α} :
    d.decode text = .ok a ↔
      d.inspect greatestDepth (Document.ofText text).root = .ok () ∧
        (Document.ofText text).extra = none ∧
          d.value (Document.ofText text).root.meaning = .ok a := by
  unfold Decoder.decode
  dsimp only
  cases d.inspect greatestDepth (Document.ofText text).root with
  | error e => simp [bind, Except.bind, Except.mapError]
  | ok u =>
    cases (Document.ofText text).extra with
    | some start => simp [bind, Except.bind, Except.mapError]
    | none => simp [bind, Except.bind, mapError_eq_ok]

namespace Number

theorem reread_of_prints {n m : Number} (h : Prints n.text [.number (.ok m)]) :
    n.reread = .number m := by
  have meaning := (ofText_of_prints (j := .number m) h).1.2
  rw [reread, meaning]

theorem legible_of_prints {n m : Number} (h : Prints n.text [.number (.ok m)]) : n.Legible := by
  rw [Legible, reread_of_prints h]
  exact h

theorem text_of_double {x : Float} (h : x.isFinite = false) : (Number.double x).text = "null" := by
  simp [text, h]

theorem text_of_single {x : Float32} (h : x.isFinite = false) :
    (Number.single x).text = "null" := by
  simp [text, h]

theorem reread_of_null {n : Number} (h : n.text = "null") : n.reread = .null := by
  have prints : Prints n.text [.null] := by
    rw [h]
    exact fun tail _ => Token.lexes_null tail
  have meaning := (ofText_of_prints (j := .null) prints).1.2
  rw [reread, meaning]

theorem legible_of_null {n : Number} (h : n.text = "null") : n.Legible := by
  rw [Legible, reread_of_null h, h]
  exact fun tail _ => Token.lexes_null tail

theorem prints_integer {i : Int} (least : -(twoTo 63 : Int) ≤ i) (greatest : i < twoTo 64) :
    Prints (Number.integer i).text [.number (.ok (.integer i))] :=
  fun _ ends => Token.lexes_integer least greatest ends

theorem ofTokens_number {stop bound first last : Nat} {ts rest : List Token}
    {v : Except Error Number} (h : Node.ofTokens stop bound ts = (.number v first last, rest)) :
    ∃ token, ts = token :: rest ∧ token.kind = .number v := by
  cases bound with
  | zero => cases h
  | succ bound =>
    cases ts with
    | nil => cases h
    | cons token ts =>
      rw [Node.ofTokens] at h
      split at h
      · cases h
      · cases h
      · next kind =>
        cases h
        exact ⟨token, rfl, kind⟩
      all_goals cases h

theorem prints_of_root {n m : Number} {first last : Nat}
    (root : (Document.ofText n.text).root = .number (.ok m) first last)
    (alone : (Document.ofText n.text).extra = none) : Prints n.text [.number (.ok m)] := by
  simp only [Document.ofText, Option.map_eq_none_iff, List.head?_eq_none_iff] at root alone
  obtain ⟨token, tokens, kind⟩ := ofTokens_number (Prod.ext root alone)
  exact fun tail ends => Token.lexes_of_readAll (Nat.le_refl _) tokens (by simp [kind]) ends

/-- The text of the number alone is read back as the number, if it is finite. -/
def ReadBack : Number → Prop
  | .integer _ => True
  | .double x => x.isFinite = true →
    Decoder.any.decode (Number.double x).text = .ok (.number (.double x))
  | .single x => x.isFinite = true → Decoder.single.decode (Number.single x).text = .ok x

instance : DecidablePred ReadBack
  | .integer _ => .isTrue trivial
  | .double x =>
    have : Decidable (Decoder.any.decode (Number.double x).text = .ok (.number (.double x))) :=
      match Decoder.any.decode (Number.double x).text with
      | .ok (.number (.double y)) => decidable_of_iff (y = x) (by simp)
      | .ok (.number (.integer _)) | .ok (.number (.single _)) | .ok .null | .ok (.bool _)
      | .ok (.string _) | .ok (.array _) | .ok (.object _) | .error _ => .isFalse (by simp)
    inferInstanceAs (Decidable (_ → _))
  | .single x =>
    have : Decidable (Decoder.single.decode (Number.single x).text = .ok x) :=
      match Decoder.single.decode (Number.single x).text with
      | .ok y => decidable_of_iff (y = x) (by simp)
      | .error _ => .isFalse (by simp)
    inferInstanceAs (Decidable (_ → _))

theorem canonical_eq_number {j : Json} {n : Number} (h : j.canonical = .number n) :
    j = .number n := by
  cases j with
  | null | bool | string | number => exact h
  | array | object => simp [canonical] at h

theorem prints_double {x : Float} (finite : x.isFinite = true)
    (h : (Number.double x).ReadBack) : Prints (Number.double x).text [.number (.ok (.double x))] := by
  obtain ⟨-, alone, value⟩ := Decoder.decode_eq_ok.1 (h finite)
  have meaning := canonical_eq_number (Except.ok.inj value)
  generalize root : (Document.ofText (Number.double x).text).root = node at meaning
  cases node with
  | number v first last =>
    cases v with
    | error e => cases meaning
    | ok m =>
      cases meaning
      exact prints_of_root root alone
  | string v => cases v <;> cases meaning
  | _ => cases meaning

theorem prints_single {x : Float32} (finite : x.isFinite = true)
    (h : (Number.single x).ReadBack) :
    ∃ m, Prints (Number.single x).text [.number (.ok m)] ∧
      Decoder.single.value (.number m) = .ok x := by
  obtain ⟨-, alone, value⟩ := Decoder.decode_eq_ok.1 (h finite)
  generalize root : (Document.ofText (Number.single x).text).root = node at value
  cases node with
  | number v first last =>
    cases v with
    | error e => cases value
    | ok m => exact ⟨m, prints_of_root root alone, value⟩
  | string v => cases v <;> cases value
  | _ => cases value

/-- An integer that fits 64 bits, or a finite number; in single precision it may be infinite. -/
def Fits : Number → Prop
  | .integer i => -(twoTo 63 : Int) ≤ i ∧ i < twoTo 64
  | .double x => x.isFinite = true
  | .single _ => True

instance : DecidablePred Fits
  | .integer i => inferInstanceAs (Decidable (-(twoTo 63 : Int) ≤ i ∧ i < twoTo 64))
  | .double x => inferInstanceAs (Decidable (x.isFinite = true))
  | .single _ => .isTrue trivial

def Finite : Number → Prop
  | .integer _ => True
  | .double x => x.isFinite = true
  | .single x => x.isFinite = true

instance : DecidablePred Finite
  | .integer _ => .isTrue trivial
  | .double x => inferInstanceAs (Decidable (x.isFinite = true))
  | .single x => inferInstanceAs (Decidable (x.isFinite = true))

theorem legible {n : Number} (fits : n.Fits) (h : n.ReadBack) : n.Legible := by
  cases n with
  | integer i => exact legible_of_prints (prints_integer fits.1 fits.2)
  | double x =>
    cases finite : x.isFinite with
    | true => exact legible_of_prints (prints_double finite h)
    | false => exact legible_of_null (text_of_double finite)
  | single x =>
    cases finite : x.isFinite with
    | true =>
      obtain ⟨m, prints, -⟩ := prints_single finite h
      exact legible_of_prints prints
    | false => exact legible_of_null (text_of_single finite)

end Number

/-- A value is decoded from its text as it is read back. -/
theorem Decoder.Coherent.decode_pretty {d : Decoder α} (coherent : d.Coherent) {j : Json} {a : α}
    (fits : ∀ n ∈ j.numbers, n.Fits) (back : ∀ n ∈ j.numbers, n.ReadBack)
    (shallow : j.depth ≤ greatestDepth) (value : d.value j.reread = .ok a) :
    d.decode j.pretty = .ok a := by
  obtain ⟨shows, alone⟩ := ofText_pretty j fun n mem => Number.legible (fits n mem) (back n mem)
  exact coherent.decode shows alone (depth_reread_le j shallow) value

namespace Decoder

theorem natural_reread {bound n : Nat} {expected : String} (fits : n < bound)
    (word : bound ≤ twoTo 64) :
    (natural bound expected).value (Json.number (.integer n)).reread = .ok n := by
  have small : (n : Int) < twoTo 64 := Int.ofNat_lt.2 (Nat.lt_of_lt_of_le fits word)
  have back : (Number.integer n).reread = .number (.integer n) :=
    Number.reread_of_prints (Number.prints_integer (by omega) small)
  have inside : 0 ≤ (n : Int) ∧ (n : Int) < bound := ⟨by omega, by omega⟩
  rw [reread, back]
  simp [natural, scalar, shape, Number.shape, fits]

theorem double_reread {x : Float} (finite : x.isFinite = true) (h : (Number.double x).ReadBack) :
    double.value (Json.number (.double x)).reread = .ok x := by
  rw [reread, Number.reread_of_prints (Number.prints_double finite h)]
  rfl

theorem single_reread {x : Float32} (finite : x.isFinite = true)
    (h : (Number.single x).ReadBack) :
    single.value (Json.number (.single x)).reread = .ok x := by
  obtain ⟨m, prints, value⟩ := Number.prints_single finite h
  rw [reread, Number.reread_of_prints prints, value]

theorem reread_single_infinite {x : Float32} (infinite : x.isFinite = false) :
    (Json.number (.single x)).reread = .null :=
  Number.reread_of_null (Number.text_of_single infinite)

end Decoder

end VisualNovel.Json
