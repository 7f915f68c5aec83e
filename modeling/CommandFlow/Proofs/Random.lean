import CommandFlow.Random

/-!
# Bounds of random numbers

* `Generator.drawBelow_lt`, `Generator.below_lt` : a number below a bound is below it;
* `Generator.between_mem` : a number between two integers lies between them.
-/

namespace CommandFlow.Generator

theorem drawBelow_lt {bound : Nat} (h : 0 < bound) (attempts : Nat) (g : Generator) :
    (drawBelow bound attempts g).1 < bound := by
  induction attempts generalizing g with
  | zero => exact h
  | succ attempts ih =>
    unfold drawBelow
    dsimp only
    split
    · assumption
    · exact ih _

theorem below_lt {bound : Nat} (h : 0 < bound) (g : Generator) : (below bound g).1 < bound :=
  drawBelow_lt h attempts g

/-- A number between two integers of any size lies between them. -/
theorem between_mem {least most : Int} (h : least ≤ most) (g : Generator) :
    least ≤ (between least most g).1 ∧ (between least most g).1 ≤ most := by
  have hpos : 0 < (most - least + 1).toNat := by omega
  have hlt := below_lt hpos g
  have hvalue : (between least most g).1 = least + (below (most - least + 1).toNat g).1 := rfl
  rw [hvalue]
  omega

end CommandFlow.Generator
