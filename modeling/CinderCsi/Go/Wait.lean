import Mathlib.Order.Basic

/-!
# `wait.ExponentialBackoff`

k8s' `wait.ExponentialBackoff(backoff, condition)` calls `condition` up to `backoff.Steps` times,
sleeping longer between each two calls, and stops at the first call that answers `true` (and
returns `nil`) or an error (and returns it); when no call does, it returns `ErrWaitTimeout`. The
sleeps are left out: a call is numbered by its tick, and the closure's captured variables are a
state that each call reads and writes.

The driver's closures answer from what they observe at their tick alone, whatever their state.
For such a condition `backoff_cases` says what the loop does: either the first tick whose answer is
not `false` comes within the budget, and the loop returns what that tick answered, in the state
after it; or no tick within the budget answers, and the loop times out after all of them.
`backoffFrom_congr` says the loop only ever looks at the ticks within its budget.
-/

namespace CinderCsi.Go

/-- The error of `wait.ExponentialBackoff`: `ErrWaitTimeout`, or the condition's own. -/
inductive WaitError (ε : Type) where
  /-- `wait.ErrWaitTimeout`. -/
  | errWaitTimeout
  /-- The error the condition returned. -/
  | condition (err : ε)
deriving DecidableEq, Repr

section Backoff

variable {ε σ : Type} (condition : Nat → σ → Except ε Bool × σ)

/-- The loop from tick `i` with `n` calls left. -/
def backoffFrom : Nat → Nat → σ → Except (WaitError ε) Unit × σ
  | _, 0, s => (.error .errWaitTimeout, s)
  | i, n + 1, s =>
    match condition i s with
    | (.error err, s') => (.error (.condition err), s')
    | (.ok true, s') => (.ok (), s')
    | (.ok false, s') => backoffFrom (i + 1) n s'

/-- `wait.ExponentialBackoff` with `steps` calls, from tick 0 and the closure's state `s`. -/
def exponentialBackoff (steps : Nat) (s : σ) : Except (WaitError ε) Unit × σ :=
  backoffFrom condition 0 steps s

/-- The closure's state after `k` calls from tick `i`. -/
def statesFrom : Nat → Nat → σ → σ
  | _, 0, s => s
  | i, k + 1, s => statesFrom (i + 1) k (condition i s).2

/-- What the loop returns for the answer of the tick that stopped it. -/
def WaitError.ofAnswer : Except ε Bool → Except (WaitError ε) Unit
  | .error err => .error (.condition err)
  | .ok true => .ok ()
  | .ok false => .error .errWaitTimeout

/-- The state after `n + 1` calls is the last call's. -/
theorem statesFrom_succ : ∀ (i n : Nat) (s : σ),
    statesFrom condition i (n + 1) s = (condition (i + n) (statesFrom condition i n s)).2
  | _, 0, _ => rfl
  | i, n + 1, s => by
    rw [statesFrom, statesFrom_succ (i + 1) n, statesFrom, Nat.add_right_comm, Nat.add_assoc]

variable {condition}

/-- Two ticks that are each the first where a property holds are the same tick. -/
theorem first_tick_unique {P : Nat → Prop} {k k' : Nat} (hk : P k) (hpre : ∀ j < k, ¬ P j)
    (hk' : P k') (hpre' : ∀ j < k', ¬ P j) : k = k' := by
  rcases Nat.lt_trichotomy k k' with h | h | h
  · exact absurd hk (hpre' k h)
  · exact h
  · exact absurd hk' (hpre k' h)

/-- The loop only looks at the ticks within its budget. -/
theorem backoffFrom_congr {condition' : Nat → σ → Except ε Bool × σ} :
    ∀ (i n : Nat), (∀ j < n, condition (i + j) = condition' (i + j)) →
      backoffFrom condition i n = backoffFrom condition' i n
  | _, 0, _ => rfl
  | i, n + 1, h => by
    funext s
    have h0 : condition i = condition' i := h 0 (Nat.succ_pos n)
    have ih : backoffFrom condition (i + 1) n = backoffFrom condition' (i + 1) n :=
      backoffFrom_congr (i + 1) n fun j hj => by
        rw [show i + 1 + j = i + (j + 1) by omega]
        exact h (j + 1) (by omega)
    simp only [backoffFrom, h0, ih]

/-- For a condition that answers from its tick alone, the loop either stops at the first tick
that does not answer `false`, within the budget, with that tick's answer; or times out after all
of them. -/
theorem backoff_cases {answer : Nat → Except ε Bool}
    (hanswer : ∀ k s, (condition k s).1 = answer k) :
    ∀ (n i : Nat) (s : σ),
      (∃ k < n, (∀ j < k, answer (i + j) = .ok false) ∧ answer (i + k) ≠ .ok false ∧
        backoffFrom condition i n s = (WaitError.ofAnswer (answer (i + k)),
          statesFrom condition i (k + 1) s)) ∨
      ((∀ j < n, answer (i + j) = .ok false) ∧
        backoffFrom condition i n s = (.error .errWaitTimeout, statesFrom condition i n s))
  | 0, _, _ => .inr ⟨fun _ h => absurd h (Nat.not_lt_zero _), rfl⟩
  | n + 1, i, s => by
    have hc : condition i s = (answer i, (condition i s).2) := by rw [← hanswer i s]
    by_cases hp : answer i = .ok false
    · -- the tick is pending: the loop goes on from tick `i + 1`
      have hstep : backoffFrom condition i (n + 1) s =
          backoffFrom condition (i + 1) n (condition i s).2 := by
        rw [backoffFrom, hc, hp]
      have hshift : ∀ j, i + (j + 1) = i + 1 + j := fun j => by omega
      have hpend : ∀ k, (∀ j < k, answer (i + 1 + j) = .ok false) →
          ∀ j < k + 1, answer (i + j) = .ok false
        | _, _, 0, _ => hp
        | _, h, j + 1, hj => by rw [hshift j]; exact h j (by omega)
      rcases backoff_cases hanswer n (i + 1) (condition i s).2 with
        ⟨k, hk, hpre, hdec, heq⟩ | ⟨hpre, heq⟩
      · exact .inl ⟨k + 1, by omega, hpend k hpre, by rwa [hshift k],
          by rw [hstep, heq, hshift k]; rfl⟩
      · exact .inr ⟨hpend n hpre, by rw [hstep, heq, statesFrom]⟩
    · -- the tick decides: the loop stops with its answer
      refine .inl ⟨0, Nat.succ_pos n, fun _ h => absurd h (Nat.not_lt_zero _), hp, ?_⟩
      simp only [Nat.add_zero]
      rw [backoffFrom, hc]
      revert hp
      rcases answer i with _ | _ | _ <;> intro hp
      · rfl
      · exact absurd rfl hp
      · rfl

/-- For a condition that answers whether `p` holds of its tick, the loop either succeeds at the
first tick where `p` holds, within the budget, in the state after it; or times out after all of
them. -/
theorem backoff_bool_cases {p : Nat → Prop} [DecidablePred p]
    (hanswer : ∀ k s, (condition k s).1 = .ok (decide (p k))) (n : Nat) (s : σ) :
    (∃ k < n, (∀ j < k, ¬ p j) ∧ p k ∧
      exponentialBackoff condition n s = (.ok (), statesFrom condition 0 (k + 1) s)) ∨
    ((∀ k < n, ¬ p k) ∧
      exponentialBackoff condition n s = (.error .errWaitTimeout, statesFrom condition 0 n s)) := by
  rcases backoff_cases hanswer n 0 s with ⟨k, hk, hpend, hdec, heq⟩ | ⟨hpend, heq⟩
  · have hp : p k := by simpa using hdec
    refine .inl ⟨k, hk, fun j hj => by simpa using hpend j hj, hp, ?_⟩
    rw [exponentialBackoff, heq]
    simp [hp, WaitError.ofAnswer]
  · exact .inr ⟨fun j hj => by simpa using hpend j hj, heq⟩

end Backoff

end CinderCsi.Go
