import Mathlib.Algebra.Order.Field.Basic
import Mathlib.Tactic.Linarith
import Mathlib.Tactic.Positivity.Basic

universe u

/- Token buckets: what can be spent in a window of time, whatever the refills. -/
namespace TokenBucket

variable {K : Type u} [Field K] [LinearOrder K] [IsStrictOrderedRing K]

/-- A bucket fills with `rate` up to `capacity`. A spender may overdraw it by `slack`. -/
structure Plan (K : Type u) where
  rate : K
  capacity : K
  slack : K

/-- The tokens at the last refill. -/
structure Bucket (K : Type u) where
  since : Option K
  tokens : K

/-- A refill. A clock that went backwards fills the bucket. -/
def Bucket.refill (plan : Plan K) (bucket : Bucket K) (now : K) : Bucket K :=
  ⟨some now, match bucket.since with
    | none => plan.capacity
    | some since =>
      if now < since then plan.capacity
      else min plan.capacity (bucket.tokens + (now - since) * plan.rate)⟩

def Bucket.spend (bucket : Bucket K) (count : Nat) : Bucket K :=
  { bucket with tokens := bucket.tokens - count }

/-- Every spending is covered by the tokens and the slack. -/
def Covered (plan : Plan K) : Bucket K → List (K × Nat) → Prop
  | _, [] => True
  | bucket, (now, count) :: rest =>
    (count : K) ≤ (bucket.refill plan now).tokens + plan.slack ∧
      Covered plan ((bucket.refill plan now).spend count) rest

/-- What is spent up to a time. -/
def spentUntil (finish : K) (spends : List (K × Nat)) : Nat :=
  ((spends.filter fun spend => spend.1 ≤ finish).map Prod.snd).sum

/-- What is spent in a closed window. -/
def spentIn (start finish : K) (spends : List (K × Nat)) : Nat :=
  spentUntil finish (spends.filter fun spend => start ≤ spend.1)

variable {plan : Plan K}

omit [IsStrictOrderedRing K] in
theorem tokens_refill_le (bucket : Bucket K) (now : K) :
    (bucket.refill plan now).tokens ≤ plan.capacity := by
  unfold Bucket.refill
  cases bucket.since with
  | none => simp
  | some since => by_cases back : now < since <;> simp [back]

omit [IsStrictOrderedRing K] in
theorem tokens_refill_le_of_since {bucket : Bucket K} {since now : K}
    (last : bucket.since = some since) (order : since ≤ now) :
    (bucket.refill plan now).tokens ≤ bucket.tokens + (now - since) * plan.rate := by
  simp [Bucket.refill, last, not_lt.2 order]

/-- A refill leaves a bucket no deeper in debt. -/
theorem le_tokens_refill (plan : Plan K) (fills : 0 ≤ plan.rate) (bucket : Bucket K) {debt : K}
    (room : debt ≤ plan.capacity) (owed : debt ≤ bucket.tokens) (now : K) :
    debt ≤ (bucket.refill plan now).tokens := by
  unfold Bucket.refill
  cases bucket.since with
  | none => exact room
  | some since =>
    by_cases back : now < since
    · simpa [back] using room
    · have passed := mul_nonneg (sub_nonneg.2 (not_lt.1 back)) fills
      simp only [back, if_false]
      exact le_min room (by linarith)

omit [Field K] [IsStrictOrderedRing K] in
theorem spentUntil_cons {now finish : K} (inside : now ≤ finish) (count : Nat)
    (rest : List (K × Nat)) :
    spentUntil finish ((now, count) :: rest) = count + spentUntil finish rest := by
  simp [spentUntil, inside]

omit [Field K] [IsStrictOrderedRing K] in
theorem spentUntil_past {finish : K} {spends : List (K × Nat)}
    (past : ∀ spend ∈ spends, finish < spend.1) : spentUntil finish spends = 0 := by
  have none : spends.filter (fun spend => spend.1 ≤ finish) = [] := by
    rw [List.filter_eq_nil_iff]
    intro spend member
    simpa using past spend member
  simp [spentUntil, none]

omit [Field K] [IsStrictOrderedRing K] in
theorem spentIn_cons (start finish : K) (spend : K × Nat) (rest : List (K × Nat)) :
    spentIn start finish (spend :: rest) =
      spentIn start finish [spend] + spentIn start finish rest := by
  by_cases before : spend.1 ≤ finish <;> by_cases after : start ≤ spend.1 <;>
    simp [spentIn, spentUntil, before, after]

/-- From a time on, the tokens at that time and the refills since cover what is spent. -/
theorem spentUntil_le (fills : 0 ≤ plan.rate) {spends : List (K × Nat)}
    {bucket : Bucket K} {since : K} (finish : K) (last : bucket.since = some since)
    (owed : -plan.slack ≤ bucket.tokens) (covered : Covered plan bucket spends)
    (sorted : (spends.map Prod.fst).Pairwise (· ≤ ·)) (later : ∀ spend ∈ spends, since ≤ spend.1)
    (within : since ≤ finish) :
    (spentUntil finish spends : K) ≤
      bucket.tokens + (finish - since) * plan.rate + plan.slack := by
  induction spends generalizing bucket since with
  | nil =>
    have passed := mul_nonneg (sub_nonneg.2 within) fills
    simp only [spentUntil, List.filter_nil, List.map_nil, List.sum_nil, Nat.cast_zero]
    linarith
  | cons spend rest ih =>
    obtain ⟨now, count⟩ := spend
    simp only [List.map_cons, List.pairwise_cons, List.mem_map, forall_exists_index, and_imp,
      forall_apply_eq_imp_iff₂] at sorted
    have order : since ≤ now := later (now, count) (by simp)
    by_cases inside : now ≤ finish
    · have filled : (bucket.refill plan now).tokens ≤ bucket.tokens + (now - since) * plan.rate :=
        tokens_refill_le_of_since last order
      have afterwards : -plan.slack ≤ ((bucket.refill plan now).spend count).tokens := by
        simp only [Bucket.spend]
        linarith [covered.1]
      have refilled : ((bucket.refill plan now).spend count).since = some now := rfl
      have remaining := ih refilled afterwards covered.2 sorted.2 sorted.1 inside
      simp only [Bucket.spend] at remaining
      rw [spentUntil_cons inside, Nat.cast_add]
      linarith [sub_mul finish since plan.rate, sub_mul finish now plan.rate,
        sub_mul now since plan.rate]
    · have past : ∀ spend ∈ (now, count) :: rest, finish < spend.1 := by
        rw [not_le] at inside
        simpa [inside] using fun time amount member => inside.trans_le (sorted.1 (time, amount) member)
      have passed := mul_nonneg (sub_nonneg.2 within) fills
      rw [spentUntil_past past, Nat.cast_zero]
      linarith

/-- A window of any length gives at most the capacity, the refills of its length and the
slack. -/
theorem spentIn_le (fills : 0 ≤ plan.rate) (room : 0 ≤ plan.capacity + plan.slack)
    {spends : List (K × Nat)} {bucket : Bucket K} (covered : Covered plan bucket spends)
    (sorted : (spends.map Prod.fst).Pairwise (· ≤ ·)) {start finish : K} (order : start ≤ finish) :
    (spentIn start finish spends : K) ≤
      plan.capacity + (finish - start) * plan.rate + plan.slack := by
  have passed := mul_nonneg (sub_nonneg.2 order) fills
  induction spends generalizing bucket with
  | nil =>
    simp only [spentIn, spentUntil, List.filter_nil, List.map_nil, List.sum_nil, Nat.cast_zero]
    linarith
  | cons spend rest ih =>
    obtain ⟨now, count⟩ := spend
    simp only [List.map_cons, List.pairwise_cons, List.mem_map, forall_exists_index, and_imp,
      forall_apply_eq_imp_iff₂] at sorted
    by_cases early : now < start
    · have skipped : spentIn start finish ((now, count) :: rest) = spentIn start finish rest := by
        simp [spentIn, not_le.2 early]
      rw [skipped]
      exact ih covered.2 sorted.2
    · rw [not_lt] at early
      have all : ∀ spend ∈ (now, count) :: rest, start ≤ spend.1 := by
        simpa [early] using fun time amount member => early.trans (sorted.1 (time, amount) member)
      have whole : spentIn start finish ((now, count) :: rest) =
          spentUntil finish ((now, count) :: rest) := by
        rw [spentIn, List.filter_eq_self.2 (by simpa using all)]
      rw [whole]
      by_cases inside : now ≤ finish
      · have filled : (bucket.refill plan now).tokens ≤ plan.capacity := tokens_refill_le bucket now
        have afterwards : -plan.slack ≤ ((bucket.refill plan now).spend count).tokens := by
          simp only [Bucket.spend]
          linarith [covered.1]
        have refilled : ((bucket.refill plan now).spend count).since = some now := rfl
        have remaining := spentUntil_le fills finish refilled afterwards covered.2 sorted.2
          sorted.1 inside
        simp only [Bucket.spend] at remaining
        have shorter := mul_le_mul_of_nonneg_right (sub_le_sub_left early finish) fills
        rw [spentUntil_cons inside, Nat.cast_add]
        linarith
      · have past : ∀ spend ∈ (now, count) :: rest, finish < spend.1 := by
          rw [not_le] at inside
          simpa [inside] using fun time amount member =>
            inside.trans_le (sorted.1 (time, amount) member)
        rw [spentUntil_past past, Nat.cast_zero]
        linarith

end TokenBucket
