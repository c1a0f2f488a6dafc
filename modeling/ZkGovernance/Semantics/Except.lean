import Mathlib

/-!
# Success of `Except` computations

A call of a contract or a run of a program that may abort is modelled in
`Except`; what a successful run establishes is read off its `do` block
step by step. These rules turn `(x >>= f) = .ok b` into the success of each
step, so that `simp only` with them inverts a whole `do` block into the
conjunction of its guards and the shape of its result.

A guest that panics is modelled in `Option`; a fold over a list aborts when
one element's step aborts whatever has been accumulated
(`List.foldlM_eq_none_of_mem`), and a fold that adds up what it reads with
wrapping addition returns the sum of the reads modulo the word size
(`List.foldlM_add_eq_some_iff`).
-/

namespace Except

universe u v

variable {ε α β : Type u}

/-- A sequenced computation succeeds exactly when each step succeeds in turn. -/
@[simp] theorem bind_eq_ok {x : Except ε α} {f : α → Except ε β} {b : β} :
    (x >>= f) = .ok b ↔ ∃ a, x = .ok a ∧ f a = .ok b := by
  cases x <;> simp [bind, Except.bind]

/-- A step that succeeds passes its value on. -/
@[simp] theorem ok_bind {a : α} {f : α → Except ε β} : (Except.ok a >>= f) = f a :=
  rfl

/-- `pure` succeeds with exactly its value. -/
@[simp] theorem pure_eq_ok {a b : α} : (pure a : Except ε α) = .ok b ↔ a = b := by
  simp [pure, Except.pure]

/-- A thrown error is the error result. -/
@[simp] theorem throw_eq_error {e : ε} : (throw e : Except ε α) = .error e :=
  rfl

/-- An error skips the rest of a sequence. -/
@[simp] theorem error_bind {e : ε} {f : α → Except ε β} : (Except.error e >>= f) = .error e :=
  rfl

/-- A thrown error is never a success. -/
theorem throw_ne_ok {e : ε} {a : α} : (throw e : Except ε α) ≠ .ok a := by
  simp

/-- A computation fails exactly when it does not succeed. -/
theorem exists_error_iff_not_exists_ok {x : Except ε α} :
    (∃ error, x = .error error) ↔ ¬ ∃ value, x = .ok value := by
  cases x <;> simp

/-- A call that returns no value is reported as returned exactly when it succeeds. -/
@[simp] theorem toBool_eq_true_iff {x : Except ε Unit} : x.toBool = true ↔ x = .ok () := by
  cases x <;> simp [Except.toBool]

/-- The shape `do` gives to `let x ← if p then pure a else if q then throw e else pure b`
followed by more steps, the rest copied into each branch: it succeeds exactly when it does not
throw and the rest succeeds on the value chosen. -/
theorem ite_ite_bind_eq_ok {p q : Prop} [Decidable p] [Decidable q] {a b : α} {error : ε}
    {next : α → Except ε β} {result : β} :
    (if p then pure a >>= next else if q then throw error >>= next else pure b >>= next) =
        .ok result ↔
      ¬ (¬ p ∧ q) ∧ next (if p then a else b) = .ok result := by
  by_cases first : p
  · simp [first]
  · by_cases second : q
    · simp [first, second]
    · simp [first, second]

/-- A mapped computation succeeds exactly when the computation does, with the mapped value. -/
@[simp] theorem map_eq_ok {x : Except ε α} {f : α → β} {b : β} :
    (f <$> x) = .ok b ↔ ∃ a, x = .ok a ∧ f a = b := by
  cases x <;> simp [Functor.map, Except.map]

end Except

namespace List

universe w

/-- A fold in `Option` aborts when the step of one of the list's elements aborts on every
accumulator. -/
theorem foldlM_eq_none_of_mem {α β : Type w} {f : β → α → Option β} {list : List α} {element : α}
    (member : element ∈ list) (aborts : ∀ accumulated, f accumulated element = none)
    (init : β) : list.foldlM f init = none := by
  induction list generalizing init with
  | nil => simp at member
  | cons head tail inductionHypothesis =>
      rw [List.foldlM_cons]
      rcases List.mem_cons.mp member with rfl | inTail
      · rw [aborts]
        rfl
      · -- the head's step either aborts already or hands the tail a new accumulator
        cases f init head with
        | none => rfl
        | some accumulated => exact inductionHypothesis inTail accumulated

/-- A fold in `Option` that adds up what it reads, wrapping at `2 ^ width`, succeeds exactly
when every read does, and then returns the sum of the reads modulo `2 ^ width`. -/
theorem foldlM_add_eq_some_iff {α : Type w} {width : Nat} {read : α → Option (BitVec width)}
    {list : List α} {init total : BitVec width} :
    list.foldlM (fun total element => do
        let value ← read element
        pure (total + value)) init = some total ↔
      (∀ element ∈ list, (read element).isSome) ∧
        total.toNat = (init.toNat +
          (list.map fun element => ((read element).map BitVec.toNat).getD 0).sum) % 2 ^ width := by
  induction list generalizing init with
  | nil =>
      have nothingRead : ∀ element ∈ ([] : List α), (read element).isSome := fun _ absent =>
        absurd absent List.not_mem_nil
      rw [List.foldlM_nil, Option.pure_def, Option.some.injEq, List.map_nil, List.sum_nil,
        Nat.add_zero, BitVec.toNat_mod_cancel]
      constructor
      · rintro rfl
        exact ⟨nothingRead, rfl⟩
      · rintro ⟨-, same⟩
        exact (BitVec.eq_of_toNat_eq same).symm
  | cons head tail inductionHypothesis =>
      rw [List.foldlM_cons]
      cases reading : read head with
      | none => simp [reading]
      | some value =>
          -- the head's value is added in, and the tail's fold starts from the wrapped sum
          show List.foldlM _ (init + value) tail = some total ↔ _
          rw [inductionHypothesis, BitVec.toNat_add, Nat.mod_add_mod]
          simp only [List.mem_cons, forall_eq_or_imp, reading, Option.isSome_some, true_and,
            List.map_cons, Option.map_some, Option.getD_some, List.sum_cons, Nat.add_assoc]

end List
