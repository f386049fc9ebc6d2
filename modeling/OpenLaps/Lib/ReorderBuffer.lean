import Mathlib.Data.List.Sort
import Mathlib.Order.Lattice
import OpenLaps.Lib.Commuting

universe u v w x y

/- A buffer that hands out its items by their time, and items of one time as they came. How
little of the order of arrival is left in what it hands out. -/
namespace ReorderBuffer

/-- An item and its number in the order of arrival. -/
structure Entry (α : Type v) where
  sequence : Nat
  item : α

variable {T : Type u} {α : Type v} {κ : Type w} {σ : Type x} {ε : Type y} [LinearOrder T] (time : α → T)

def Before (first second : Entry α) : Prop :=
  time first.item < time second.item ∨
    time first.item = time second.item ∧ first.sequence ≤ second.sequence

instance (first second : Entry α) : Decidable (Before time first second) :=
  inferInstanceAs (Decidable (_ ∨ _))

instance : Std.Total (Before (α := α) time) where
  total first second := by
    rcases lt_trichotomy (time first.item) (time second.item) with before | same | after
    · exact .inl (.inl before)
    · rcases Nat.le_total first.sequence second.sequence with older | newer
      · exact .inl (.inr ⟨same, older⟩)
      · exact .inr (.inr ⟨same.symm, newer⟩)
    · exact .inr (.inl after)

instance : IsTrans (Entry α) (Before time) where
  trans first second third before after := by
    rcases before with earlier | ⟨same, older⟩
    · rcases after with later | ⟨same, -⟩
      · exact .inl (earlier.trans later)
      · exact .inl (earlier.trans_eq same)
    · rcases after with later | ⟨same', older'⟩
      · exact .inl (same.trans_lt later)
      · exact .inr ⟨same.trans same', older.trans older'⟩

theorem Before.time_le {first second : Entry α} (before : Before time first second) :
    time first.item ≤ time second.item := before.elim le_of_lt fun same => same.1.le

/-- The waiting entries, first to go first, and the number of the newest arrival. -/
structure Buffer where
  entries : List (Entry α)
  sequence : Nat
  sorted : entries.Pairwise (Before time)
  numbered : ∀ entry ∈ entries, entry.sequence ≤ sequence
  distinct : (entries.map Entry.sequence).Nodup

variable {time}

namespace Buffer

def empty : Buffer time := ⟨[], 0, .nil, by simp, .nil⟩

def items (buffer : Buffer time) : List α := buffer.entries.map Entry.item

def push (buffer : Buffer time) (item : α) : Buffer time where
  entries := buffer.entries.orderedInsert (Before time) ⟨buffer.sequence + 1, item⟩
  sequence := buffer.sequence + 1
  sorted := buffer.sorted.orderedInsert _ _
  numbered := by
    intro entry member
    rcases (List.mem_orderedInsert _).1 member with fresh | old
    · rw [fresh]
    · exact (buffer.numbered entry old).trans (Nat.le_succ _)
  distinct := by
    rw [((List.perm_orderedInsert (Before time) _ _).map Entry.sequence).nodup_iff,
      List.map_cons, List.nodup_cons]
    refine ⟨fun member => ?_, buffer.distinct⟩
    obtain ⟨entry, old, same⟩ := List.mem_map.1 member
    have bound := buffer.numbered entry old
    have fresh : entry.sequence = buffer.sequence + 1 := same
    omega

/-- What is handed out until a time. -/
def due (buffer : Buffer time) (limit : T) : List α :=
  (buffer.entries.takeWhile fun entry => time entry.item ≤ limit).map Entry.item

/-- What waits on. -/
def later (buffer : Buffer time) (limit : T) : Buffer time where
  entries := buffer.entries.dropWhile fun entry => time entry.item ≤ limit
  sequence := buffer.sequence
  sorted := buffer.sorted.sublist (List.dropWhile_sublist _)
  numbered := fun entry member => buffer.numbered entry ((List.dropWhile_sublist _).subset member)
  distinct := buffer.distinct.sublist ((List.dropWhile_sublist _).map _)

/-- The buffer without the entry of a number. -/
def without (buffer : Buffer time) (number : Nat) : Buffer time where
  entries := buffer.entries.filter fun entry => entry.sequence ≠ number
  sequence := buffer.sequence
  sorted := buffer.sorted.sublist List.filter_sublist
  numbered := fun entry member => buffer.numbered entry (List.filter_sublist.subset member)
  distinct := buffer.distinct.sublist (List.filter_sublist.map _)

/-- The buffer without the item that is next. -/
def pop (buffer : Buffer time) : Buffer time where
  entries := buffer.entries.tail
  sequence := buffer.sequence
  sorted := buffer.sorted.sublist (List.tail_sublist _)
  numbered := fun entry member => buffer.numbered entry ((List.tail_sublist _).subset member)
  distinct := buffer.distinct.sublist ((List.tail_sublist _).map _)

/-- Entries are handed out one by one until a step fails: the buffer, the state and the
failure. -/
def handOutLoop (step : σ → α → σ × Option ε) :
    List (Entry α) → Buffer time → σ → Buffer time × σ × Option ε
  | [], buffer, state => (buffer, state, none)
  | entry :: rest, buffer, state =>
    match step state entry.item with
    | (state, some failure) => (buffer.pop, state, some failure)
    | (state, none) => handOutLoop step rest buffer.pop state

/-- What is due is handed out, as far as no step fails. -/
def handOut (step : σ → α → σ × Option ε) (limit : T) (buffer : Buffer time) (state : σ) :
    Buffer time × σ × Option ε :=
  handOutLoop step (buffer.entries.takeWhile fun entry => time entry.item ≤ limit) buffer state

theorem ext_entries {first second : Buffer time} (entries : first.entries = second.entries)
    (sequence : first.sequence = second.sequence) : first = second := by
  cases first
  cases second
  simp_all

end Buffer

section Sorted

variable {entries : List (Entry α)}

/-- An entry goes to its place among those that pass a test. -/
theorem filter_orderedInsert (sorted : entries.Pairwise (Before time)) (test : Entry α → Bool)
    (entry : Entry α) :
    (entries.orderedInsert (Before time) entry).filter test =
      if test entry then (entries.filter test).orderedInsert (Before time) entry
      else entries.filter test := by
  induction entries with
  | nil => cases kept : test entry <;> simp [kept]
  | cons first rest ih =>
    rw [List.pairwise_cons] at sorted
    by_cases before : Before time entry first
    · have all : ∀ other ∈ (first :: rest).filter test, Before time entry other := by
        intro other member
        rcases List.mem_cons.1 (List.mem_filter.1 member).1 with here | inside
        · rw [here]
          exact before
        · exact IsTrans.trans _ _ _ before (sorted.1 other inside)
      rw [List.orderedInsert_cons_of_le _ _ before, List.filter_cons]
      cases kept : test entry with
      | false => simp
      | true =>
        cases tail : (first :: rest).filter test with
        | nil => simp
        | cons head others =>
          have head_after := all head (by simp [tail])
          simp [head_after]
    · rw [List.orderedInsert_of_not_le _ _ before, List.filter_cons, List.filter_cons, ih sorted.2]
      cases kept : test entry <;> cases held : test first <;> simp [before]

/-- The newest entry of its time goes last among entries of that time. -/
theorem orderedInsert_last {entry : Entry α}
    (older : ∀ other ∈ entries, time other.item = time entry.item ∧ other.sequence < entry.sequence) :
    entries.orderedInsert (Before time) entry = entries ++ [entry] := by
  induction entries with
  | nil => rfl
  | cons first rest ih =>
    have after : ¬Before time entry first := by
      obtain ⟨same, number⟩ := older first (by simp)
      intro before
      rcases before with earlier | ⟨-, newer⟩
      · exact absurd earlier (by rw [same]; exact lt_irrefl _)
      · omega
    rw [List.orderedInsert_of_not_le _ _ after, ih fun other member => older other (by simp [member])]
    rfl

theorem takeWhile_eq_filter (sorted : entries.Pairwise (Before time)) (limit : T) :
    entries.takeWhile (fun entry => time entry.item ≤ limit) =
      entries.filter fun entry => time entry.item ≤ limit := by
  induction entries with
  | nil => rfl
  | cons first rest ih =>
    rw [List.pairwise_cons] at sorted
    by_cases early : time first.item ≤ limit
    · simp [early, ih sorted.2]
    · have late : ∀ entry ∈ rest, ¬time entry.item ≤ limit := by
        intro entry member within
        exact early ((Before.time_le time (sorted.1 entry member)).trans within)
      simp only [early, decide_false, List.takeWhile_cons, List.filter_cons, Bool.false_eq_true,
        if_false]
      exact (List.filter_eq_nil_iff.2 (by simpa using late)).symm

theorem dropWhile_eq_filter (sorted : entries.Pairwise (Before time)) (limit : T) :
    entries.dropWhile (fun entry => time entry.item ≤ limit) =
      entries.filter fun entry => ¬time entry.item ≤ limit := by
  induction entries with
  | nil => rfl
  | cons first rest ih =>
    rw [List.pairwise_cons] at sorted
    by_cases early : time first.item ≤ limit
    · simp only [early, decide_true, List.dropWhile_cons, if_true, ih sorted.2, List.filter_cons,
        not_true, decide_false, Bool.false_eq_true, if_false]
    · have late : ∀ entry ∈ first :: rest, ¬time entry.item ≤ limit := by
        intro entry member within
        rcases List.mem_cons.1 member with here | inside
        · rw [here] at within
          exact early within
        · exact early ((Before.time_le time (sorted.1 entry inside)).trans within)
      rw [List.dropWhile_cons_of_neg (by simpa using early)]
      exact (List.filter_eq_self.2 (by simpa using late)).symm

end Sorted

/-- Items in the order of their times are known by the items of each time. -/
theorem eq_of_times {items items' : List α}
    (sorted : items.Pairwise fun first second => time first ≤ time second)
    (sorted' : items'.Pairwise fun first second => time first ≤ time second)
    (same : ∀ moment, items.filter (fun item => time item = moment) =
      items'.filter fun item => time item = moment) : items = items' := by
  induction items generalizing items' with
  | nil =>
    cases items' with
    | nil => rfl
    | cons item rest => simpa using same (time item)
  | cons item rest ih =>
    cases items' with
    | nil => simpa using same (time item)
    | cons item' rest' =>
      rw [List.pairwise_cons] at sorted sorted'
      have first : item ∈ (item' :: rest').filter fun other => time other = time item := by
        rw [← same]
        simp
      have first' : item' ∈ (item :: rest).filter fun other => time other = time item' := by
        rw [same]
        simp
      have upper : time item' ≤ time item := by
        rcases List.mem_cons.1 (List.mem_filter.1 first).1 with here | inside
        · rw [here]
        · exact sorted'.1 item inside
      have lower : time item ≤ time item' := by
        rcases List.mem_cons.1 (List.mem_filter.1 first').1 with here | inside
        · rw [here]
        · exact sorted.1 item' inside
      have level : time item = time item' := le_antisymm lower upper
      have heads := same (time item)
      simp only [level, List.filter_cons, decide_true, if_true, List.cons.injEq] at heads
      rw [heads.1]
      refine congrArg _ (ih sorted.2 sorted'.2 fun moment => ?_)
      have each := same moment
      by_cases here : time item' = moment
      · rw [← here]
        exact heads.2
      · simpa [List.filter_cons, level, here] using each

section Buckets

variable [DecidableEq κ] (time) (key : α → κ)

/-- The items of one key and one time, as they came. -/
def bucket (wanted : κ) (moment : T) (items : List α) : List α :=
  items.filter fun item => key item = wanted ∧ time item = moment

variable {time key} {wanted : κ} {moment limit : T} {buffer buffer' : Buffer time}

theorem bucket_append (first second : List α) :
    bucket time key wanted moment (first ++ second) =
      bucket time key wanted moment first ++ bucket time key wanted moment second :=
  List.filter_append _ _

theorem bucket_map (entries : List (Entry α)) :
    bucket time key wanted moment (entries.map Entry.item) =
      (entries.filter fun entry => key entry.item = wanted ∧ time entry.item = moment).map
        Entry.item := by
  rw [bucket, List.filter_map]
  rfl

/-- An arrival goes last among those of its key and time. -/
theorem bucket_push (buffer : Buffer time) (item : α) :
    bucket time key wanted moment (buffer.push item).items =
      bucket time key wanted moment (buffer.items ++ [item]) := by
  rw [bucket_append, Buffer.items, Buffer.items, bucket_map, bucket_map, Buffer.push,
    filter_orderedInsert buffer.sorted]
  by_cases own : key item = wanted ∧ time item = moment
  · have older : ∀ other ∈ buffer.entries.filter
          (fun entry => key entry.item = wanted ∧ time entry.item = moment),
        time other.item = time item ∧ other.sequence < buffer.sequence + 1 := by
      intro other member
      obtain ⟨inside, same⟩ := List.mem_filter.1 member
      have bound := buffer.numbered other inside
      simp only [decide_eq_true_eq] at same
      exact ⟨same.2.trans own.2.symm, by omega⟩
    rw [if_pos (by simpa using own), orderedInsert_last older, List.map_append]
    simp [bucket, own]
  · rw [if_neg (by simpa using own)]
    simp [bucket, own]

theorem bucket_due (buffer : Buffer time) :
    bucket time key wanted moment (buffer.due limit) =
      if moment ≤ limit then bucket time key wanted moment buffer.items else [] := by
  rw [Buffer.due, takeWhile_eq_filter buffer.sorted, bucket_map, List.filter_filter, Buffer.items,
    bucket_map]
  split
  · rename_i early
    congr 1
    apply List.filter_congr
    intro entry _
    by_cases own : key entry.item = wanted ∧ time entry.item = moment
    · simp [own, early]
    · simp [own]
  · rename_i late
    rw [List.map_eq_nil_iff, List.filter_eq_nil_iff]
    intro entry _
    by_cases own : key entry.item = wanted ∧ time entry.item = moment
    · simpa [own] using late
    · simp [own]

theorem bucket_later (buffer : Buffer time) :
    bucket time key wanted moment (buffer.later limit).items =
      if moment ≤ limit then [] else bucket time key wanted moment buffer.items := by
  simp only [Buffer.items, Buffer.later]
  rw [dropWhile_eq_filter buffer.sorted, bucket_map, bucket_map, List.filter_filter]
  split
  · rename_i early
    rw [List.map_eq_nil_iff, List.filter_eq_nil_iff]
    intro entry _
    by_cases own : key entry.item = wanted ∧ time entry.item = moment
    · simpa [own] using early
    · simp [own]
  · rename_i late
    congr 1
    apply List.filter_congr
    intro entry _
    by_cases own : key entry.item = wanted ∧ time entry.item = moment
    · simpa [own] using late
    · simp [own]

theorem due_sorted (buffer : Buffer time) (limit : T) :
    (buffer.due limit).Pairwise fun first second => time first ≤ time second := by
  rw [Buffer.due, List.pairwise_map]
  apply (buffer.sorted.sublist (List.takeWhile_sublist _)).imp
  intro first second before
  exact before.time_le

/-- Buffers with the same items of each key and time hand out the same items of each key. -/
theorem due_keyed
    (same : ∀ wanted moment, moment ≤ limit → bucket time key wanted moment buffer.items =
      bucket time key wanted moment buffer'.items) (wanted : κ) :
    (buffer.due limit).filter (fun item => key item = wanted) =
      (buffer'.due limit).filter fun item => key item = wanted := by
  apply eq_of_times ((due_sorted buffer limit).sublist List.filter_sublist)
    ((due_sorted buffer' limit).sublist List.filter_sublist)
  intro moment
  have split : ∀ items : List α, (items.filter fun item => key item = wanted).filter
      (fun item => time item = moment) = bucket time key wanted moment items := by
    intro items
    rw [List.filter_filter, bucket]
    apply List.filter_congr
    intro item _
    simp [and_comm]
  rw [split, split, bucket_due, bucket_due]
  by_cases early : moment ≤ limit
  · simp only [early, if_true, same wanted moment early]
  · simp only [early, if_false]

/-- Steps on different keys that commute up to a relation they keep: up to it, nothing else
of the order of arrival is left. -/
theorem foldl_due_related (related : Setoid σ) {step : σ → α → σ}
    (kept : ∀ state state' item, related state state' → related (step state item) (step state' item))
    (commute : ∀ first second, key first ≠ key second → ∀ state,
      related (step (step state first) second) (step (step state second) first))
    (same : ∀ wanted moment, moment ≤ limit → bucket time key wanted moment buffer.items =
      bucket time key wanted moment buffer'.items) {state state' : σ} (start : related state state') :
    related ((buffer.due limit).foldl step state) ((buffer'.due limit).foldl step state') :=
  Commuting.foldl_related_of_keys related key kept commute (due_keyed same) start

/-- It is enough to compare the items of the keys and times that occur. -/
theorem bucket_eq_of_mem {items items' : List α}
    (same : ∀ item ∈ items ++ items', key item = wanted → time item = moment →
      bucket time key wanted moment items = bucket time key wanted moment items') :
    bucket time key wanted moment items = bucket time key wanted moment items' := by
  by_cases occurs : ∃ item ∈ items ++ items', key item = wanted ∧ time item = moment
  · obtain ⟨item, member, own, at'⟩ := occurs
    exact same item member own at'
  · have none : ∀ others ⊆ items ++ items', bucket time key wanted moment others = [] := by
      intro others within
      rw [bucket, List.filter_eq_nil_iff]
      intro item member own
      exact occurs ⟨item, within member, of_decide_eq_true own⟩
    rw [none items (List.subset_append_left _ _), none items' (List.subset_append_right _ _)]

end Buckets

section Runs

variable [DecidableEq κ] (key : α → κ)

/-- Two buffers and all that each has taken: of every key and time, the same number is handed
out. -/
def Alike (taken taken' : List α) (buffer buffer' : Buffer time) : Prop :=
  ∀ wanted moment, ∃ gone,
    gone ≤ (bucket time key wanted moment taken).length ∧
      gone ≤ (bucket time key wanted moment taken').length ∧
      bucket time key wanted moment buffer.items = (bucket time key wanted moment taken).drop gone ∧
      bucket time key wanted moment buffer'.items = (bucket time key wanted moment taken').drop gone

variable {key} {taken taken' : List α} {buffer buffer' : Buffer time} {limit : T}

theorem Alike.empty : Alike key ([] : List α) [] (.empty : Buffer time) .empty := by
  intro wanted moment
  exact ⟨0, by simp, by simp, rfl, rfl⟩

theorem Alike.symm (alike : Alike key taken taken' buffer buffer') :
    Alike key taken' taken buffer' buffer := by
  intro wanted moment
  obtain ⟨gone, bound, bound', left, right⟩ := alike wanted moment
  exact ⟨gone, bound', bound, right, left⟩

theorem Alike.push (alike : Alike key taken taken' buffer buffer') (item : α) :
    Alike key (taken ++ [item]) taken' (buffer.push item) buffer' := by
  intro wanted moment
  obtain ⟨gone, bound, bound', left, right⟩ := alike wanted moment
  refine ⟨gone, ?_, bound', ?_, right⟩
  · rw [bucket_append, List.length_append]
    omega
  · rw [bucket_push, bucket_append, bucket_append, List.drop_append_of_le_length bound, left]

/-- What is left to hand out until a time is the same, if the same was taken. -/
theorem Alike.bucket_eq (alike : Alike key taken taken' buffer buffer') {wanted : κ} {moment : T}
    (same : bucket time key wanted moment taken = bucket time key wanted moment taken') :
    bucket time key wanted moment buffer.items = bucket time key wanted moment buffer'.items := by
  obtain ⟨gone, -, -, left, right⟩ := alike wanted moment
  rw [left, right, same]

theorem Alike.later (alike : Alike key taken taken' buffer buffer')
    (same : ∀ wanted moment, moment ≤ limit → bucket time key wanted moment taken =
      bucket time key wanted moment taken') :
    Alike key taken taken' (buffer.later limit) (buffer'.later limit) := by
  intro wanted moment
  by_cases early : moment ≤ limit
  · refine ⟨(bucket time key wanted moment taken).length, le_rfl, ?_, ?_, ?_⟩
    · rw [same wanted moment early]
    · rw [bucket_later, if_pos early, List.drop_length]
    · rw [bucket_later, if_pos early, same wanted moment early, List.drop_length]
  · obtain ⟨gone, bound, bound', left, right⟩ := alike wanted moment
    refine ⟨gone, bound, bound', ?_, ?_⟩
    · rw [bucket_later, if_neg early, left]
    · rw [bucket_later, if_neg early, right]

end Runs

section Filling

variable {buffer : Buffer time}

theorem sequence_foldl_push (items : List α) (buffer : Buffer time) :
    (items.foldl Buffer.push buffer).sequence = buffer.sequence + items.length := by
  induction items generalizing buffer with
  | nil => rfl
  | cons item rest ih =>
    rw [List.foldl_cons, ih, List.length_cons]
    show buffer.sequence + 1 + rest.length = _
    omega

theorem length_foldl_push (items : List α) (buffer : Buffer time) :
    (items.foldl Buffer.push buffer).entries.length = buffer.entries.length + items.length := by
  induction items generalizing buffer with
  | nil => rfl
  | cons item rest ih =>
    rw [List.foldl_cons, ih, List.length_cons, Buffer.push, List.orderedInsert_length]
    omega

theorem items_foldl_push {items : List α} {item : α}
    (member : item ∈ (items.foldl Buffer.push buffer).items) : item ∈ buffer.items ∨ item ∈ items := by
  induction items generalizing buffer with
  | nil => exact .inl member
  | cons first rest ih =>
    rcases ih member with before | later
    · obtain ⟨entry, inside, same⟩ := List.mem_map.mp before
      rcases (List.mem_orderedInsert _).mp inside with fresh | old
      · rw [← same, fresh]
        exact .inr List.mem_cons_self
      · exact .inl (List.mem_map.mpr ⟨entry, old, same⟩)
    · exact .inr (List.mem_cons_of_mem first later)

/-- An entry with an old number was there before. -/
theorem mem_foldl_push {items : List α} {entry : Entry α}
    (member : entry ∈ (items.foldl Buffer.push buffer).entries)
    (old : entry.sequence ≤ buffer.sequence) : entry ∈ buffer.entries := by
  induction items generalizing buffer with
  | nil => exact member
  | cons item rest ih =>
    have before := ih member (Nat.le_succ_of_le old)
    rcases (List.mem_orderedInsert _).mp before with fresh | here
    · rw [fresh] at old
      exact absurd old (Nat.not_succ_le_self _)
    · exact here

end Filling

theorem push_without (buffer : Buffer time) (number : Nat) (item : α) (old : number ≤ buffer.sequence) :
    (buffer.push item).without number = (buffer.without number).push item := by
  apply Buffer.ext_entries
  · simp only [Buffer.without, Buffer.push]
    rw [filter_orderedInsert buffer.sorted]
    have fresh : buffer.sequence + 1 ≠ number := by omega
    simp [fresh]
  · rfl

section HandingOut

variable {buffer : Buffer time} {entries rest : List (Entry α)} {state : σ}

theorem handOutLoop_of_ok (step : σ → α → σ × Option ε) (state : σ)
    (split : buffer.entries = entries ++ rest)
    (fine : ∀ entry ∈ entries, ∀ state, (step state entry.item).2 = none) :
    (Buffer.handOutLoop step entries buffer state).1.entries = rest ∧
      (Buffer.handOutLoop step entries buffer state).1.sequence = buffer.sequence ∧
      (Buffer.handOutLoop step entries buffer state).2 =
        ((entries.map Entry.item).foldl (fun state item => (step state item).1) state, none) := by
  induction entries generalizing buffer state with
  | nil => exact ⟨split, rfl, rfl⟩
  | cons entry others ih =>
    have ok := fine entry List.mem_cons_self state
    have popped : buffer.pop.entries = others ++ rest := by
      show buffer.entries.tail = _
      rw [split]
      rfl
    have next := ih (step state entry.item).1 popped fun other member =>
      fine other (List.mem_cons_of_mem entry member)
    rw [Buffer.handOutLoop, List.map_cons, List.foldl_cons]
    generalize step state entry.item = done at ok next ⊢
    obtain ⟨after, failure⟩ := done
    dsimp only at ok next ⊢
    subst ok
    exact next

/-- Where no step fails, all that is due is handed out. -/
theorem handOut_of_ok (step : σ → α → σ × Option ε) (limit : T) (state : σ)
    (fine : ∀ item ∈ buffer.due limit, ∀ state, (step state item).2 = none) :
    buffer.handOut step limit state =
      (buffer.later limit, (buffer.due limit).foldl (fun state item => (step state item).1) state,
        none) := by
  obtain ⟨waiting, sequence, done⟩ := handOutLoop_of_ok step state
    (List.takeWhile_append_dropWhile (p := fun entry => decide (time entry.item ≤ limit))
      (l := buffer.entries)).symm
    fun entry member state => fine entry.item (List.mem_map_of_mem member) state
  exact Prod.ext (Buffer.ext_entries waiting sequence) done

/-- A failure leaves only what waited before. -/
theorem handOut_waiting (step : σ → α → σ × Option ε) (limit : T) (buffer : Buffer time) (state : σ) :
    (buffer.handOut step limit state).1.entries.Sublist buffer.entries ∧
      (buffer.handOut step limit state).1.sequence = buffer.sequence := by
  unfold Buffer.handOut
  generalize buffer.entries.takeWhile (fun entry => time entry.item ≤ limit) = entries
  induction entries generalizing buffer state with
  | nil => exact ⟨List.Sublist.refl _, rfl⟩
  | cons entry rest ih =>
    unfold Buffer.handOutLoop
    split
    · exact ⟨List.tail_sublist _, rfl⟩
    · obtain ⟨fewer, sequence⟩ := ih buffer.pop _
      exact ⟨fewer.trans (List.tail_sublist _), sequence⟩

/-- What every step keeps is kept, however far the steps come. -/
theorem handOut_kept (buffer : Buffer time) (step : σ → α → σ × Option ε) (state : σ) (good : σ → Prop)
    (limit : T) (start : good state)
    (kept : ∀ item ∈ buffer.due limit, ∀ state, good state → good (step state item).1) :
    good (buffer.handOut step limit state).2.1 := by
  unfold Buffer.handOut
  unfold Buffer.due at kept
  generalize buffer.entries.takeWhile (fun entry => time entry.item ≤ limit) = entries at kept
  induction entries generalizing buffer state with
  | nil => exact start
  | cons entry rest ih =>
    have next := kept entry.item List.mem_cons_self state start
    unfold Buffer.handOutLoop
    split
    · rename_i failed
      rw [failed] at next
      exact next
    · rename_i taken
      rw [taken] at next
      exact ih buffer.pop _ next fun item member => kept item (List.mem_cons_of_mem _ member)

/-- An entry whose step does nothing may as well be missing. -/
theorem handOut_without (buffer : Buffer time) (step : σ → α → σ × Option ε) (state : σ) (number : Nat)
    (limit : T) (inert : σ → Prop)
    (kept : ∀ state item, inert state → inert (step state item).1)
    (still : ∀ entry ∈ buffer.entries, entry.sequence = number →
      ∀ state, inert state → step state entry.item = (state, none)) (start : inert state) :
    (buffer.without number).handOut step limit state =
      ((buffer.handOut step limit state).1.without number, (buffer.handOut step limit state).2) := by
  have due : (buffer.without number).entries.takeWhile (fun entry => time entry.item ≤ limit) =
      (buffer.entries.takeWhile fun entry => time entry.item ≤ limit).filter
        fun entry => entry.sequence ≠ number := by
    rw [takeWhile_eq_filter (buffer.without number).sorted, takeWhile_eq_filter buffer.sorted,
      List.filter_filter]
    exact (List.filter_filter ..).trans (List.filter_congr fun entry _ => Bool.and_comm _ _)
  unfold Buffer.handOut
  rw [due]
  clear due
  have split := (List.takeWhile_append_dropWhile
    (p := fun entry : Entry α => decide (time entry.item ≤ limit)) (l := buffer.entries)).symm
  generalize buffer.entries.takeWhile (fun entry => time entry.item ≤ limit) = entries at split
  generalize buffer.entries.dropWhile (fun entry => time entry.item ≤ limit) = rest at split
  induction entries generalizing buffer state with
  | nil => rfl
  | cons entry others ih =>
    have popped : buffer.pop.entries = others ++ rest := by
      show buffer.entries.tail = _
      rw [split]
      rfl
    have still' : ∀ other ∈ buffer.pop.entries, other.sequence = number →
        ∀ state, inert state → step state other.item = (state, none) :=
      fun other member => still other ((List.tail_sublist _).subset member)
    by_cases here : entry.sequence = number
    · have idle := still entry (by rw [split]; exact List.mem_cons_self) here state start
      have gone : buffer.without number = buffer.pop.without number := by
        apply Buffer.ext_entries
        · show buffer.entries.filter _ = buffer.entries.tail.filter _
          rw [split]
          simp [here]
        · rfl
      rw [List.filter_cons_of_neg (by simpa using here), gone, Buffer.handOutLoop, idle]
      exact ih buffer.pop state still' start popped
    · have same : (buffer.without number).pop = buffer.pop.without number := by
        apply Buffer.ext_entries
        · show (buffer.entries.filter _).tail = buffer.entries.tail.filter _
          rw [split]
          simp [here]
        · rfl
      have next := kept state entry.item start
      rw [List.filter_cons_of_pos (by simpa using here), Buffer.handOutLoop, Buffer.handOutLoop, same]
      generalize step state entry.item = done at next
      obtain ⟨after, failure⟩ := done
      cases failure with
      | some failure => rfl
      | none => exact ih buffer.pop after still' next popped

end HandingOut

end ReorderBuffer
