import QuorumRate.Proofs.Decimal.Overflow
import QuorumRate.Proofs.Quote.Numeral

/-! Which values are amounts. A value has to denote a decimal, and the decimal has to be finite and
either zero or of a size between `10^-28` and `10^29`, on either side of zero. The amount is that
decimal to its last digit, and every other value is refused for one reason. -/
namespace QuorumRate.Amount

inductive Denotes : Json → Decimal → Prop where
  | whole (n : Int) : Denotes (.int n) (.finite (n < 0) n.natAbs 0)
  | decimal (d : Decimal) : Denotes (.decimal d) d
  | text {t d} (built : Decimal.ofText? t = some d) : Denotes (.string t) d

inductive NoNumber : Json → Prop where
  | null : NoNumber .null
  | bool (b) : NoNumber (.bool b)
  | real (x) : NoNumber (.real x)
  | array (items) : NoNumber (.array items)
  | object (members) : NoNumber (.object members)

def Illegible (v : Json) : Prop := ∃ t, v = .string t ∧ Decimal.ofText? t = none

def Sized (x : ℚ) : Prop := x = 0 ∨ 10 ^ (-28 : Int) ≤ |x| ∧ |x| < 10 ^ (29 : Int)

structure Held (d : Decimal) : Prop where
  finite : d.isFinite = true
  sized : Sized d.value

theorem denotesIff {v d} : Denotes v d ↔ decimalOf v = .ok d := by
  constructor
  · intro denotes
    cases denotes with
    | whole n => rfl
    | decimal => rfl
    | text built => simp [decimalOf, built]
  · intro read
    cases v with
    | int n =>
      cases read
      exact .whole n
    | decimal d =>
      cases read
      exact .decimal d
    | string t =>
      cases built : Decimal.ofText? t with
      | none => simp [decimalOf, built] at read
      | some own =>
        simp only [decimalOf, built, Except.ok.injEq] at read
        exact .text (read ▸ built)
    | _ => cases read

theorem denotesCases (v : Json) : (∃ d, Denotes v d) ∨ NoNumber v ∨ Illegible v := by
  cases v with
  | null => exact .inr (.inl .null)
  | bool b => exact .inr (.inl (.bool b))
  | real x => exact .inr (.inl (.real x))
  | array items => exact .inr (.inl (.array items))
  | object members => exact .inr (.inl (.object members))
  | int n => exact .inl ⟨_, .whole n⟩
  | decimal d => exact .inl ⟨d, .decimal d⟩
  | string t =>
    cases built : Decimal.ofText? t with
    | none => exact .inr (.inr ⟨t, rfl, built⟩)
    | some d => exact .inl ⟨d, .text built⟩

theorem inRangeIff {n : Bool} {c : Nat} {e : Int} :
    inRange c e = true ↔ Sized (Decimal.value (.finite n c e)) := by
  unfold Sized
  rw [Decimal.absValue]
  by_cases zero : c = 0
  · subst zero
    simp [inRange]
  · have size := Decimal.magnitudePos zero e
    have nonzero : Decimal.value (.finite n c e) ≠ 0 :=
      abs_pos.mp (by rw [Decimal.absValue]; exact size)
    rw [Decimal.magnitudeGeIff zero, Decimal.magnitudeLtIff zero, or_iff_right nonzero]
    have most : maxLead = 28 := rfl
    simp only [inRange, zero, decide_false, Bool.false_or, decide_eq_true_eq]
    omega

theorem heldIff {d : Decimal} :
    Held d ↔ ∃ n c e, d = .finite n c e ∧ inRange c e = true := by
  constructor
  · rintro ⟨finite, sized⟩
    cases d with
    | finite n c e => exact ⟨n, c, e, rfl, inRangeIff.mpr sized⟩
    | infinity n => cases finite
    | nan n signaling payload => cases finite
  · rintro ⟨n, c, e, rfl, inside⟩
    exact ⟨rfl, inRangeIff.mp inside⟩

theorem ofJsonHeld {v d} : ofJson v = .ok d ↔ Denotes v d ∧ Held d := by
  rw [ofJsonOk, denotesIff, heldIff]

theorem refusedInfinite {v d} (denotes : Denotes v d) (infinite : d.isFinite = false) :
    ofJson v = .error (.notFinite v) := by
  unfold ofJson
  rw [denotesIff.mp denotes]
  cases d with
  | finite n c e => cases infinite
  | _ => rfl

theorem refusedSize {v d} (denotes : Denotes v d) (finite : d.isFinite = true)
    (large : ¬ Sized d.value) : ofJson v = .error (.outOfRange v) := by
  unfold ofJson
  rw [denotesIff.mp denotes]
  cases d with
  | finite n c e => exact if_neg fun inside => large (inRangeIff.mp inside)
  | infinity n => cases finite
  | nan n signaling payload => cases finite

theorem refusedSilent {v : Json} {fault : Fault} (refused : decimalOf v = .error fault) :
    ofJson v = .error fault := by
  unfold ofJson
  rw [refused]
  rfl

theorem NoNumber.refused {v} (none : NoNumber v) : decimalOf v = .error (.notNumber v) := by
  cases none <;> rfl

theorem Illegible.refused {v} (illegible : Illegible v) : decimalOf v = .error (.unreadable v) := by
  obtain ⟨t, rfl, none⟩ := illegible
  simp [decimalOf, none]

inductive Verdict (v : Json) : Except Fault Decimal → Prop where
  | amount {d} (denotes : Denotes v d) (held : Held d) : Verdict v (.ok d)
  | notNumber (none : NoNumber v) : Verdict v (.error (.notNumber v))
  | unreadable (illegible : Illegible v) : Verdict v (.error (.unreadable v))
  | notFinite {d} (denotes : Denotes v d) (infinite : d.isFinite = false) :
    Verdict v (.error (.notFinite v))
  | outOfRange {d} (denotes : Denotes v d) (finite : d.isFinite = true)
    (unsized : ¬ Sized d.value) : Verdict v (.error (.outOfRange v))

theorem verdictExists (v : Json) : ∃ result, Verdict v result := by
  rcases denotesCases v with ⟨d, denotes⟩ | none | illegible
  · cases finite : d.isFinite with
    | false => exact ⟨_, .notFinite denotes finite⟩
    | true =>
      by_cases sized : Sized d.value
      · exact ⟨_, .amount denotes ⟨finite, sized⟩⟩
      · exact ⟨_, .outOfRange denotes finite sized⟩
  · exact ⟨_, .notNumber none⟩
  · exact ⟨_, .unreadable illegible⟩

theorem Verdict.result {v : Json} {result} (verdict : Verdict v result) : ofJson v = result := by
  cases verdict with
  | amount denotes held => exact ofJsonHeld.mpr ⟨denotes, held⟩
  | notNumber none => exact refusedSilent none.refused
  | unreadable illegible => exact refusedSilent illegible.refused
  | notFinite denotes infinite => exact refusedInfinite denotes infinite
  | outOfRange denotes finite unsized => exact refusedSize denotes finite unsized

theorem verdictIff {v : Json} {result} : ofJson v = result ↔ Verdict v result := by
  constructor
  · rintro rfl
    obtain ⟨result, verdict⟩ := verdictExists v
    exact verdict.result ▸ verdict
  · exact Verdict.result

structure Exact (v : Json) : Prop where
  accepts : ∀ d, ofJson v = .ok d ↔ Denotes v d ∧ Held d
  refuses : (∀ d, ¬ (Denotes v d ∧ Held d)) → ∃ fault, ofJson v = .error fault ∧
    Venue.Fault.label (.content (.amount fault)) = "FetcherDecodeError"
  reason : ∀ result, ofJson v = result ↔ Verdict v result
  digits : ∀ n : Numeral, v = .string n.text → (Decimal.ofText? n.text).isSome = true →
    Sized n.decimal.value → ofJson v = .ok n.decimal
  again : ∀ d, ofJson v = .ok d → ofJson (.decimal d) = .ok d

theorem ofJsonExact (v : Json) : Exact v where
  accepts d := ofJsonHeld
  refuses none := by
    cases result : ofJson v with
    | ok d => exact absurd (ofJsonHeld.mp result) (none d)
    | error fault => exact ⟨fault, rfl, rfl⟩
  reason result := verdictIff
  digits n text built sized := by
    rw [ofJsonHeld, denotesIff, text]
    exact ⟨Numeral.amountQuoted built, rfl, sized⟩
  again d ok := ofJsonHeld.mpr ⟨.decimal d, (ofJsonHeld.mp ok).2⟩

example : (ofJson (.string (.ofString " -1.0E-28 "))).toOption = some (.finite true 10 (-29)) ∧
    (ofJson (.int (10 ^ 29))).toOption = none ∧
    (ofJson (.int (1 - 10 ^ 29))).toOption = some (.finite true (10 ^ 29 - 1) 0) := by
  decide +kernel

end QuorumRate.Amount
