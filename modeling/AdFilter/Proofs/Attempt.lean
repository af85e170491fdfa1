/-! Computations that may fail: where the result of one comes from, and when there is one. -/

namespace AdFilter

/-- A computation that yields something goes on from what its first part yields. -/
theorem exists_of_bind_eq_ok {E A B : Type} {first : Except E A} {next : A → Except E B}
    {result : B} (yields : first >>= next = .ok result) :
    ∃ value, first = .ok value ∧ next value = .ok result := by
  -- An error of the first step would be the error of both.
  cases first with
  | error error => cases yields
  | ok value => exact ⟨value, rfl, yields⟩

/-- A computation whose result passes a test has a result. -/
theorem exists_of_any_toOption {E A : Type} {computed : Except E A} {test : A → Bool}
    (passes : computed.toOption.any test = true) :
    ∃ value, computed = .ok value ∧ test value = true := by
  -- What ended in an error passes no test.
  cases computed with
  | error error => cases passes
  | ok value => exact ⟨value, rfl, passes⟩

/-- A computation that gives something has a result. -/
theorem exists_of_isSome_toOption {E A : Type} {computed : Except E A}
    (given : computed.toOption.isSome = true) : ∃ value, computed = .ok value := by
  cases computed with
  | error error => cases given
  | ok value => exact ⟨value, rfl⟩

/-- An attempt gives a value under a condition, and in no case another one. -/
structure Attains {A : Type} (sure : Prop) (attempt : Option A) (value : A) : Prop where
  given : sure → attempt.isSome
  right : ∀ found, attempt = some found → found = value

namespace Attains

variable {A B : Type} {sure : Prop} {attempt : Option A} {value : A}

/-- Under the condition the attempt is the value. -/
theorem eq_some (attains : Attains sure attempt value) (holds : sure) : attempt = some value := by
  -- There is an answer, and it can be no other one.
  obtain ⟨found, same⟩ := Option.isSome_iff_exists.mp (attains.given holds)
  rw [same, attains.right found same]

/-- What is there without any attempt is given. -/
theorem some (value : A) : Attains sure (.some value) value where
  given _ := rfl
  right _ same := (Option.some.inj same).symm

/-- A stricter condition is one under which the value is given as well. -/
theorem mono {stricter : Prop} (attains : Attains sure attempt value) (weakens : stricter → sure) :
    Attains stricter attempt value where
  given holds := attains.given (weakens holds)
  right := attains.right

/-- What goes on with the value of an attempt gives what it gives for that value. -/
theorem bind {next : A → Option B} {result : B} (first : Attains sure attempt value)
    (second : Attains sure (next value) result) : Attains sure (attempt >>= next) result where
  given holds := by
    rw [first.eq_some holds]
    exact second.given holds
  right found same := by
    obtain ⟨middle, reached, ends⟩ := Option.bind_eq_some_iff.mp same
    -- Whatever the first attempt has given, it is the value.
    rw [first.right middle reached] at ends
    exact second.right found ends

/-- A change of the value is a change of what is given. -/
theorem map (change : A → B) (attains : Attains sure attempt value) :
    Attains sure (attempt.map change) (change value) where
  given holds := by
    rw [Option.isSome_map]
    exact attains.given holds
  right found same := by
    -- What is given after the change was given before it.
    obtain ⟨middle, reached, rfl⟩ := Option.map_eq_some_iff.mp same
    rw [attains.right middle reached]

/-- A search that ends at the first hit gives what a test of all does. -/
theorem anyM {test : A → Option Bool} {holds : A → Bool} {values : List A}
    (each : ∀ value ∈ values, Attains sure (test value) (holds value)) :
    Attains sure (values.anyM test) (values.any holds) := by
  induction values with
  | nil => exact .some false
  | cons value values ih =>
    simp only [List.forall_mem_cons] at each
    refine each.1.bind ?_
    -- Behind a hit nothing is tested any more.
    cases hit : holds value with
    | true => simpa [hit] using Attains.some true
    | false => simpa [hit] using ih each.2

/-- A filter whose test may fail gives what passes the test. -/
theorem filterM {test : A → Option Bool} {holds : A → Bool} {values : List A}
    (each : ∀ value ∈ values, Attains sure (test value) (holds value)) :
    Attains sure (values.filterM test) (values.filter holds) := by
  -- The filter gathers in reverse, behind what it has gathered so far.
  have gathered (before : List A) : Attains sure (values.filterAuxM test before)
      ((values.filter holds).reverse ++ before) := by
    induction values generalizing before with
    | nil => exact .some before
    | cons value values ih =>
      simp only [List.forall_mem_cons] at each
      refine each.1.bind ?_
      cases kept : holds value with
      | true => simpa [kept] using ih each.2 (value :: before)
      | false => simpa [kept] using ih each.2 before
  have whole : ((values.filter holds).reverse ++ []).reverse = values.filter holds := by simp
  rw [← whole]
  exact (gathered []).bind (.some _)

end Attains

/-- A filter whose test may fail yields, if anything, the values that have passed the test. -/
theorem eq_filter_of_filterM_eq_some {A : Type} {test : A → Option Bool} {values found : List A}
    (given : values.filterM test = some found) :
    found = values.filter fun value => test value == some true := by
  -- A test that gives an answer gives that of the condition, so the filters agree without any condition.
  have attains : Attains False (values.filterM test)
      (values.filter fun value => test value == some true) := by
    refine .filterM fun value _ => ⟨False.elim, fun passes same => ?_⟩
    rw [same]
    cases passes <;> rfl
  exact attains.right found given

end AdFilter
