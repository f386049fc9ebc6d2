import Mathlib.Data.List.Basic

/- Readers that are fed a stream piece by piece. A cutter takes the next item off
the front of what is buffered and is never made to change its mind by what comes
later; an acceptor folds the items into a state and now and then yields an output.
Nothing here knows what the items are. -/
namespace Incremental

universe u v w x y

variable {α : Type u} {π : Type v} {ε : Type w} {σ : Type x} {δ : Type y}

/-- Cutting items off a buffer: an item cut, or a refusal, stays the same however
the buffer goes on. -/
structure Cutter (α : Type u) (π : Type v) (ε : Type w) where
  cut : List α → Except ε (Option (π × List α))
  shorter : ∀ {buffer item rest}, cut buffer = .ok (some (item, rest)) →
    rest.length < buffer.length
  settled : ∀ {buffer item rest} (more : List α), cut buffer = .ok (some (item, rest)) →
    cut (buffer ++ more) = .ok (some (item, rest ++ more))
  refused : ∀ {buffer error} (more : List α), cut buffer = .error error →
    cut (buffer ++ more) = .error error

/-- What working through a buffer comes to: the outputs in order, the state and the
items left over, and the error that ended it, if one did. -/
structure Drained (α : Type u) (σ : Type x) (δ : Type y) (ε : Type w) where
  outputs : List δ
  state : σ
  left : List α
  failure : Option ε

/-- The same, with outputs that came earlier. -/
def Drained.after (earlier : List δ) (drained : Drained α σ δ ε) : Drained α σ δ ε :=
  { drained with outputs := earlier ++ drained.outputs }

@[simp] theorem Drained.after_nil (drained : Drained α σ δ ε) : drained.after [] = drained := rfl

theorem Drained.after_after (first second : List δ) (drained : Drained α σ δ ε) :
    (drained.after second).after first = drained.after (first ++ second) := by
  simp only [Drained.after, List.append_assoc]

/-- Cut and accept for as long as the buffer allows. -/
def drain (cutter : Cutter α π ε) (accept : σ → π → Except ε (σ × Option δ)) (state : σ)
    (buffer : List α) : Drained α σ δ ε :=
  match _taken : cutter.cut buffer with
  | .error error => { outputs := [], state := state, left := buffer, failure := some error }
  | .ok none => { outputs := [], state := state, left := buffer, failure := none }
  | .ok (some (item, rest)) =>
    match accept state item with
    | .error error => { outputs := [], state := state, left := rest, failure := some error }
    | .ok (next, output) => (drain cutter accept next rest).after output.toList
termination_by buffer.length
decreasing_by exact cutter.shorter _taken

section Rules

variable (cutter : Cutter α π ε) (accept : σ → π → Except ε (σ × Option δ))

theorem drain_refused {state : σ} {buffer : List α} {error : ε}
    (cut : cutter.cut buffer = .error error) : drain cutter accept state buffer =
      { outputs := [], state := state, left := buffer, failure := some error } := by
  rw [drain]
  split <;> simp_all

theorem drain_waiting {state : σ} {buffer : List α} (cut : cutter.cut buffer = .ok none) :
    drain cutter accept state buffer =
      { outputs := [], state := state, left := buffer, failure := none } := by
  rw [drain]
  split <;> simp_all

theorem drain_rejected {state : σ} {buffer rest : List α} {item : π} {error : ε}
    (cut : cutter.cut buffer = .ok (some (item, rest))) (rejected : accept state item = .error error) :
    drain cutter accept state buffer =
      { outputs := [], state := state, left := rest, failure := some error } := by
  rw [drain]
  split <;> simp_all

theorem drain_accepted {state next : σ} {buffer rest : List α} {item : π} {output : Option δ}
    (cut : cutter.cut buffer = .ok (some (item, rest)))
    (accepted : accept state item = .ok (next, output)) :
    drain cutter accept state buffer = (drain cutter accept next rest).after output.toList := by
  rw [drain]
  split <;> simp_all

/-- The ways a buffer can be worked through, as an induction rule. -/
theorem drain_induction {holds : σ → List α → Prop}
    (refused : ∀ state buffer error, cutter.cut buffer = .error error → holds state buffer)
    (waiting : ∀ state buffer, cutter.cut buffer = .ok none → holds state buffer)
    (rejected : ∀ state buffer item rest error, cutter.cut buffer = .ok (some (item, rest)) →
      accept state item = .error error → holds state buffer)
    (accepted : ∀ state buffer item rest next output, cutter.cut buffer = .ok (some (item, rest)) →
      accept state item = .ok (next, output) → holds next rest → holds state buffer)
    (state : σ) (buffer : List α) : holds state buffer := by
  induction size : buffer.length using Nat.strongRecOn generalizing state buffer with
  | _ size ih =>
    cases cut : cutter.cut buffer with
    | error error => exact refused state buffer error cut
    | ok found =>
      cases found with
      | none => exact waiting state buffer cut
      | some pair =>
        cases pair with
        | mk item rest =>
          cases result : accept state item with
          | error error => exact rejected state buffer item rest error cut result
          | ok pair =>
            have shorter := cutter.shorter cut
            exact accepted state buffer item rest pair.1 pair.2 cut result
              (ih rest.length (by omega) pair.1 rest rfl)

/-- A stream that failed has failed, whatever follows. -/
theorem drain_append_failed (state : σ) (buffer more : List α) (error : ε)
    (failed : (drain cutter accept state buffer).failure = some error) :
    (drain cutter accept state (buffer ++ more)).failure = some error ∧
      (drain cutter accept state (buffer ++ more)).outputs =
        (drain cutter accept state buffer).outputs := by
  induction state, buffer using drain_induction cutter accept with
  | refused state buffer reason cut =>
    rw [drain_refused cutter accept cut] at failed ⊢
    rw [drain_refused cutter accept (cutter.refused more cut)]
    exact ⟨failed, rfl⟩
  | waiting state buffer cut =>
    rw [drain_waiting cutter accept cut] at failed
    cases failed
  | rejected state buffer item rest reason cut result =>
    rw [drain_rejected cutter accept cut result] at failed ⊢
    rw [drain_rejected cutter accept (cutter.settled more cut) result]
    exact ⟨failed, rfl⟩
  | accepted state buffer item rest next output cut result ih =>
    rw [drain_accepted cutter accept cut result] at failed ⊢
    rw [drain_accepted cutter accept (cutter.settled more cut) result]
    have later := ih failed
    exact ⟨later.1, congrArg (output.toList ++ ·) later.2⟩

/-- Working through a stream in two pieces is working through it in one. -/
theorem drain_append (state : σ) (buffer more : List α)
    (fine : (drain cutter accept state buffer).failure = none) :
    drain cutter accept state (buffer ++ more) =
      (drain cutter accept (drain cutter accept state buffer).state
        ((drain cutter accept state buffer).left ++ more)).after
        (drain cutter accept state buffer).outputs := by
  induction state, buffer using drain_induction cutter accept with
  | refused state buffer error cut =>
    rw [drain_refused cutter accept cut] at fine
    cases fine
  | waiting state buffer cut =>
    rw [drain_waiting cutter accept cut, Drained.after_nil]
  | rejected state buffer item rest error cut result =>
    rw [drain_rejected cutter accept cut result] at fine
    cases fine
  | accepted state buffer item rest next output cut result ih =>
    rw [drain_accepted cutter accept cut result] at fine ⊢
    rw [drain_accepted cutter accept (cutter.settled more cut) result, ih fine,
      Drained.after_after]
    rfl

/-- What is left after a stream that did not fail is waiting for more. -/
theorem drain_left_waiting (state : σ) (buffer : List α)
    (fine : (drain cutter accept state buffer).failure = none) :
    cutter.cut (drain cutter accept state buffer).left = .ok none := by
  induction state, buffer using drain_induction cutter accept with
  | refused state buffer error cut =>
    rw [drain_refused cutter accept cut] at fine
    cases fine
  | waiting state buffer cut =>
    rw [drain_waiting cutter accept cut]
    exact cut
  | rejected state buffer item rest error cut result =>
    rw [drain_rejected cutter accept cut result] at fine
    cases fine
  | accepted state buffer item rest next output cut result ih =>
    rw [drain_accepted cutter accept cut result] at fine ⊢
    exact ih fine

end Rules

end Incremental
