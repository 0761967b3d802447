import BackOfEnvelope.Binary64

/-!
# Operands of finite results

An infinite operand, or one that is not a number, makes most results such a number
too.  So the operands of a finite sum, difference or product are finite, and so are
the dividend of a finite quotient and the operand of a finite opposite, magnitude or
root.  Of the divisor of a finite quotient nothing is known: it may be infinite.
-/

namespace BackOfEnvelope

namespace Binary64

open Float.Model (UnpackedFloat)

theorem isFinite_of_pack (unpacked : UnpackedFloat)
    (finite : (Float.Model.pack unpacked).isFinite) : unpacked.isFinite := by
  cases unpacked with
  | infinity sign => cases sign <;> exact absurd finite (by decide)
  | notANumber => exact absurd finite (by decide)
  | zero sign => rfl
  | finite sign mantissa exponent positive => rfl

variable {a b : Float}

theorem isFinite_of_add (finite : (a + b).isFinite) : a.isFinite ∧ b.isFinite := by
  have sum := isFinite_of_pack (.add _ a.toModel.unpack b.toModel.unpack) finite
  change a.toModel.unpack.isFinite ∧ b.toModel.unpack.isFinite
  generalize a.toModel.unpack = x at sum ⊢
  generalize b.toModel.unpack = y at sum ⊢
  cases x with
  | notANumber => cases sum
  | infinity sign =>
      cases y with
      | infinity other => cases sign <;> cases other <;> cases sum
      | notANumber | zero _ | finite _ _ _ _ => cases sum
  | zero _ | finite _ _ _ _ =>
      cases y with
      | notANumber | infinity _ => cases sum
      | zero _ | finite _ _ _ _ => exact ⟨rfl, rfl⟩

theorem isFinite_of_sub (finite : (a - b).isFinite) : a.isFinite ∧ b.isFinite := by
  have difference := isFinite_of_pack (.sub _ a.toModel.unpack b.toModel.unpack) finite
  change a.toModel.unpack.isFinite ∧ b.toModel.unpack.isFinite
  generalize a.toModel.unpack = x at difference ⊢
  generalize b.toModel.unpack = y at difference ⊢
  cases x with
  | notANumber => cases difference
  | infinity sign =>
      cases y with
      | infinity other => cases sign <;> cases other <;> cases difference
      | notANumber | zero _ | finite _ _ _ _ => cases difference
  | zero _ | finite _ _ _ _ =>
      cases y with
      | notANumber | infinity _ => cases difference
      | zero _ | finite _ _ _ _ => exact ⟨rfl, rfl⟩

theorem isFinite_of_mul (finite : (a * b).isFinite) : a.isFinite ∧ b.isFinite := by
  have product := isFinite_of_pack (.mul _ a.toModel.unpack b.toModel.unpack) finite
  change a.toModel.unpack.isFinite ∧ b.toModel.unpack.isFinite
  generalize a.toModel.unpack = x at product ⊢
  generalize b.toModel.unpack = y at product ⊢
  cases x with
  | notANumber => cases product
  | infinity _ => cases y <;> cases product
  | zero _ | finite _ _ _ _ =>
      cases y with
      | notANumber | infinity _ => cases product
      | zero _ | finite _ _ _ _ => exact ⟨rfl, rfl⟩

theorem isFinite_of_div (finite : (a / b).isFinite) : a.isFinite := by
  have quotient := isFinite_of_pack (.div _ a.toModel.unpack b.toModel.unpack) finite
  change a.toModel.unpack.isFinite
  generalize a.toModel.unpack = x at quotient ⊢
  generalize b.toModel.unpack = y at quotient
  cases x with
  | notANumber => cases quotient
  | infinity _ => cases y <;> cases quotient
  | zero _ | finite _ _ _ _ => rfl

theorem isFinite_of_neg (finite : (-a).isFinite) : a.isFinite := by
  have opposite := isFinite_of_pack (.neg a.toModel.unpack) finite
  change a.toModel.unpack.isFinite
  generalize a.toModel.unpack = x at opposite ⊢
  cases x with
  | notANumber | infinity _ => cases opposite
  | zero _ | finite _ _ _ _ => rfl

theorem isFinite_of_abs (finite : a.abs.isFinite) : a.isFinite := by
  have magnitude := isFinite_of_pack (.abs a.toModel.unpack) finite
  change a.toModel.unpack.isFinite
  generalize a.toModel.unpack = x at magnitude ⊢
  cases x with
  | notANumber | infinity _ => cases magnitude
  | zero _ | finite _ _ _ _ => rfl

theorem isFinite_of_sqrt (finite : a.sqrt.isFinite) : a.isFinite := by
  have root := isFinite_of_pack (.sqrt _ a.toModel.unpack) finite
  change a.toModel.unpack.isFinite
  generalize a.toModel.unpack = x at root ⊢
  cases x with
  | notANumber => cases root
  | infinity sign => cases sign <;> cases root
  | zero _ | finite _ _ _ _ => rfl

end Binary64

end BackOfEnvelope
