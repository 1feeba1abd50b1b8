import Mathlib.Order.WithBot
import QuorumRate.Proofs.Decimal.Overflow

/-! Infinities and NaNs in the arithmetic and in the order of decimals. A NaN passes through every
operation, a signaling one through none, and only infinities of opposite sign have no sum. -/
namespace QuorumRate.Decimal

def isSignaling : Decimal → Bool
  | .nan _ signaling _ => signaling
  | _ => false

def Opposed (a b : Decimal) : Prop := ∃ n, a = .infinity n ∧ b = .infinity !n

theorem signalingNaN {a : Decimal} (signaling : a.isSignaling = true) : a.isNaN = true := by
  cases a <;> first | rfl | contradiction

theorem finiteNaN {a : Decimal} (finite : a.isFinite = true) : a.isNaN = false := by
  cases a <;> first | rfl | contradiction

theorem finiteOpposed {a b : Decimal} (finite : a.isFinite = true ∨ b.isFinite = true) :
    ¬ Opposed a b := by
  rintro ⟨n, rfl, rfl⟩
  rcases finite with finite | finite <;> contradiction

theorem addSignaling {a b : Decimal} (signaling : a.isSignaling = true ∨ b.isSignaling = true) :
    add a b = .error .invalidOperation := by
  have none : passNaN a b = some (.error .invalidOperation) := by
    rcases signaling with own | own
    · cases a <;> simp only [isSignaling, Bool.false_eq_true] at own
      rw [own]
      rfl
    · cases b <;> simp only [isSignaling, Bool.false_eq_true] at own
      rw [own]
      rcases a with _ | _ | ⟨_, _ | _, _⟩ <;> rfl
  unfold add
  rw [none]

theorem quietNaN {a : Decimal} (quiet : ¬ a.isSignaling = true) (nan : a.isNaN = true) :
    ∃ n p, a = .nan n false p := by
  rcases a with _ | _ | ⟨n, _ | _, p⟩ <;> try contradiction
  exact ⟨n, p, rfl⟩

theorem addQuiet {a b : Decimal} (quiet : ¬ (a.isSignaling = true ∨ b.isSignaling = true))
    (nan : a.isNaN = true ∨ b.isNaN = true) : ∃ n p, add a b = .ok (.nan n false p) := by
  obtain ⟨left, right⟩ := not_or.mp quiet
  rcases nan with nan | nan
  · obtain ⟨n, p, rfl⟩ := quietNaN left nan
    rcases b with _ | _ | ⟨_, _ | _, _⟩ <;> first | exact ⟨_, _, rfl⟩ | exact absurd rfl right
  · obtain ⟨n, p, rfl⟩ := quietNaN right nan
    rcases a with _ | _ | ⟨_, _ | _, _⟩ <;> first | exact ⟨_, _, rfl⟩ | exact absurd rfl left

theorem addInfinite {a b : Decimal} (left : a.isNaN = false) (right : b.isNaN = false)
    (infinite : ¬ (a.isFinite = true ∧ b.isFinite = true)) :
    Opposed a b ∧ add a b = .error .invalidOperation ∨
      ¬ Opposed a b ∧ ∃ n, add a b = .ok (.infinity n) := by
  cases a <;> cases b <;> try contradiction
  case infinity.infinity n n' =>
    by_cases same : n = n'
    · refine .inr ⟨?_, n, if_pos same⟩
      rintro ⟨_, own, other⟩
      cases own
      cases other
      simp at same
    · refine .inl ⟨⟨n, rfl, ?_⟩, if_neg same⟩
      rw [Bool.eq_not_of_ne (Ne.symm same)]
  case finite.infinity n => exact .inr ⟨finiteOpposed (.inl rfl), n, rfl⟩
  case infinity.finite n _ _ _ => exact .inr ⟨finiteOpposed (.inr rfl), n, rfl⟩
  case finite.finite => exact absurd ⟨rfl, rfl⟩ infinite

def place : Decimal → WithBot (WithTop ℚ)
  | .infinity false => (⊤ : WithTop ℚ)
  | .finite n c e => (value (.finite n c e) : WithTop ℚ)
  | _ => ⊥

theorem lessPlace {a b : Decimal} (left : a.isNaN = false) (right : b.isNaN = false) :
    less a b = .ok (decide (a.place < b.place)) := by
  rcases a with ⟨n, c, e⟩ | (_ | _) | ⟨n, s, p⟩ <;>
    rcases b with ⟨n', c', e'⟩ | (_ | _) | ⟨n', s', p'⟩ <;> try contradiction
  case finite.finite =>
    rw [lessFinite rfl rfl]
    simp only [place, WithBot.coe_lt_coe, WithTop.coe_lt_coe]
  case finite.infinity.false =>
    have below : place (.finite n c e) < place (.infinity false) :=
      WithBot.coe_lt_coe.mpr (WithTop.coe_lt_top _)
    rw [decide_eq_true below]
    rfl
  all_goals
    simp [less, compare?, place] <;> rfl

end QuorumRate.Decimal
