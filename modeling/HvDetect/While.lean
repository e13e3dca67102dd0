/-
  Loops of the code that may not terminate: `while (cond) body;`.

  `whileLoop cond body s` returns the first state of the run from `s` whose
  condition fails, and does not return (`Dom` is false) if there is none.
  `mem_whileLoop_iff` and `whileLoop_dom_iff` say so; `whileLoop_of_true` and
  `whileLoop_of_false` unfold one turn, `whileLoop_inv` carries an
  invariant of the body to the state returned, and `whileLoop_dom_of_measure`
  makes it return when the turns lower a measure.
-/
import Mathlib.Data.Part
import Mathlib.Data.Nat.Find
import Mathlib.Logic.Function.Iterate

namespace HvDetect

variable {α : Type}

/-- `while (cond(s)) s = body(s);` -/
def whileLoop (cond : α → Bool) (body : α → α) (s : α) : Part α :=
  ⟨∃ k, cond (body^[k] s) = false, fun h => body^[Nat.find h] s⟩

theorem whileLoop_dom_iff {cond : α → Bool} {body : α → α} {s : α} :
    (whileLoop cond body s).Dom ↔ ∃ k, cond (body^[k] s) = false := Iff.rfl

/-- The loop returns the first state of the run whose condition fails. -/
theorem mem_whileLoop_iff {cond : α → Bool} {body : α → α} {s r : α} :
    r ∈ whileLoop cond body s ↔
      ∃ k, r = body^[k] s ∧ cond r = false ∧ ∀ j < k, cond (body^[j] s) = true := by
  constructor
  · rintro ⟨h, rfl⟩
    exact ⟨Nat.find h, rfl, Nat.find_spec h, fun j hj => by simpa using Nat.find_min h hj⟩
  · rintro ⟨k, rfl, hk, hmin⟩
    have h : ∃ k, cond (body^[k] s) = false := ⟨k, hk⟩
    refine ⟨h, ?_⟩
    have hle : Nat.find h ≤ k := Nat.find_min' h hk
    rcases hle.lt_or_eq with hlt | heq
    · exact absurd (Nat.find_spec h) (by simp [hmin _ hlt])
    · exact congrArg (body^[·] s) heq

theorem whileLoop_of_false {cond : α → Bool} {body : α → α} {s : α} (h : cond s = false) :
    whileLoop cond body s = Part.some s :=
  Part.eq_some_iff.2 (mem_whileLoop_iff.2 ⟨0, rfl, h, fun _ hj => absurd hj (Nat.not_lt_zero _)⟩)

theorem whileLoop_of_true {cond : α → Bool} {body : α → α} {s : α} (h : cond s = true) :
    whileLoop cond body s = whileLoop cond body (body s) := by
  ext r
  simp only [mem_whileLoop_iff]
  constructor
  · rintro ⟨k, rfl, hk, hmin⟩
    cases k with
    | zero => simp [h] at hk
    | succ k => exact ⟨k, rfl, hk, fun j hj => hmin (j + 1) (by omega)⟩
  · rintro ⟨k, rfl, hk, hmin⟩
    refine ⟨k + 1, rfl, hk, fun j hj => ?_⟩
    cases j with
    | zero => exact h
    | succ j => exact hmin j (by omega)

/-- What every turn of the body keeps holds of the state the loop returns. -/
theorem whileLoop_inv {cond : α → Bool} {body : α → α} {s r : α} (P : α → Prop)
    (hbody : ∀ s, P s → P (body s)) (hs : P s) (hr : r ∈ whileLoop cond body s) : P r := by
  obtain ⟨k, rfl, -, -⟩ := mem_whileLoop_iff.1 hr
  exact Function.Iterate.rec P hbody hs k

/-- A loop returns from every state of an invariant whose turns, while the condition holds,
    keep it and lower a measure. -/
theorem whileLoop_dom_of_measure {cond : α → Bool} {body : α → α} (P : α → Prop) (μ : α → Nat)
    (hbody : ∀ s, P s → cond s = true → P (body s) ∧ μ (body s) < μ s) :
    ∀ s, P s → (whileLoop cond body s).Dom := by
  suffices h : ∀ n s, μ s = n → P s → (whileLoop cond body s).Dom from fun s => h _ s rfl
  intro n
  induction n using Nat.strong_induction_on with
  | _ n ih =>
    intro s hμ hs
    cases hc : cond s with
    | false => exact ⟨0, hc⟩
    | true =>
      obtain ⟨hP, hlt⟩ := hbody s hs hc
      obtain ⟨k, hk⟩ := ih _ (hμ ▸ hlt) (body s) rfl hP
      exact ⟨k + 1, by rwa [Function.iterate_succ_apply]⟩

/-- A loop whose condition holds at every state of the run never returns. -/
theorem whileLoop_not_dom {cond : α → Bool} {body : α → α} {s : α}
    (h : ∀ k, cond (body^[k] s) = true) : ¬ (whileLoop cond body s).Dom := by
  rintro ⟨k, hk⟩
  simp [h k] at hk

end HvDetect
