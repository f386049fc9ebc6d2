import OpenLaps.Lib.Interpolation
import OpenLaps.Timing.Reference
import Mathlib.Data.List.Infix
import Mathlib.Data.List.TakeWhile

/- What the lap recorder collects and how the reference lap reads it: the recorded
distances are a grid apart, and `time_at` is the curve through the recorded knots. -/
namespace OpenLaps.Timing

open Interpolation

/-- The recorded pairs of distance and elapsed time. -/
def pairs (recorder : LapRecorder) : List (ℚ × ℚ) := recorder.dist.zip recorder.time

/-- The recorder after a sequence of `add` calls. -/
def LapRecorder.addAll (recorder : LapRecorder) (calls : List (ℚ × ℚ)) : LapRecorder :=
  calls.foldl (fun recorder call => recorder.add call.1 call.2) recorder

/-- A sample is appended, a grid or more beyond the last distance, or skipped. -/
theorem add_cases (recorder : LapRecorder) (distance elapsed : ℚ) :
    recorder.add distance elapsed = recorder ∨
      recorder.add distance elapsed = recorder.append distance elapsed ∧
        ∀ last, recorder.dist.getLast? = some last →
          last < distance ∧ recorder.gridM ≤ distance - last := by
  unfold LapRecorder.add
  cases found : recorder.dist.getLast? with
  | none => exact Or.inr ⟨rfl, fun last known => absurd known (by simp)⟩
  | some last =>
      dsimp only
      split
      · exact Or.inl rfl
      · rename_i further
        split
        · exact Or.inl rfl
        · rename_i apart
          refine Or.inr ⟨rfl, ?_⟩
          intro other known
          cases known
          exact ⟨not_le.mp further, not_lt.mp apart⟩

theorem add_gridM (recorder : LapRecorder) (distance elapsed : ℚ) :
    (recorder.add distance elapsed).gridM = recorder.gridM := by
  rcases add_cases recorder distance elapsed with same | ⟨added, _⟩
  · rw [same]
  · rw [added]
    rfl

/-- The recorder's lists have one length and its distances grow. -/
structure Increasing (dist time : List ℚ) : Prop where
  paired : dist.length = time.length
  grows : dist.Pairwise (· < ·)

theorem increasing_nil : Increasing [] [] := ⟨rfl, List.Pairwise.nil⟩

/-- An order between neighbours that composes holds of a list with one more entry. -/
theorem pairwise_concat {R : ℚ → ℚ → Prop} (compose : ∀ a b c, R a b → R b c → R a c)
    {entries : List ℚ} (sorted : entries.Pairwise R) {next : ℚ}
    (beyond : ∀ last, entries.getLast? = some last → R last next) :
    (entries ++ [next]).Pairwise R := by
  rw [List.pairwise_append]
  refine ⟨sorted, List.pairwise_singleton _ _, ?_⟩
  intro entry member latest same
  rw [List.mem_singleton.mp same]
  rcases List.eq_nil_or_concat' entries with none | ⟨front, last, whole⟩
  · rw [none] at member
    exact absurd member List.not_mem_nil
  · have step := beyond last (by rw [whole, List.getLast?_concat])
    rw [whole] at member sorted
    rcases List.mem_append.mp member with old | end_
    · exact compose _ _ _ ((List.pairwise_append.mp sorted).2.2 entry old last (by simp)) step
    · rw [List.mem_singleton.mp end_]
      exact step

theorem add_increasing {recorder : LapRecorder} (increasing : Increasing recorder.dist recorder.time)
    (distance elapsed : ℚ) : Increasing (recorder.add distance elapsed).dist
      (recorder.add distance elapsed).time := by
  rcases add_cases recorder distance elapsed with same | ⟨added, further⟩
  · rw [same]
    exact increasing
  · rw [added]
    constructor
    · simp only [LapRecorder.append_dist, LapRecorder.append_time, List.length_append,
        List.length_singleton, increasing.paired]
    · refine pairwise_concat ?_ increasing.grows fun last known => (further last known).1
      exact fun _ _ _ => lt_trans

theorem add_ne_nil (recorder : LapRecorder) (distance elapsed : ℚ) :
    (recorder.add distance elapsed).dist ≠ [] := by
  unfold LapRecorder.add
  cases found : recorder.dist.getLast? with
  | none => simp
  | some last =>
      have present : recorder.dist ≠ [] := by
        intro none
        rw [none] at found
        cases found
      dsimp only
      split
      · exact present
      · split
        · exact present
        · simp

theorem pairs_add {recorder : LapRecorder} (paired : recorder.dist.length = recorder.time.length)
    {trace : List (ℚ × ℚ)} (recorded : (pairs recorder).Sublist trace) (distance elapsed : ℚ) :
    (pairs (recorder.add distance elapsed)).Sublist (trace ++ [(distance, elapsed)]) := by
  rcases add_cases recorder distance elapsed with same | ⟨added, _⟩
  · rw [same]
    exact recorded.trans (List.sublist_append_left _ _)
  · rw [added, pairs, LapRecorder.append_dist, LapRecorder.append_time, List.zip_append paired]
    exact recorded.append (List.Sublist.refl _)

/-- What a recorder that counted from nothing holds after some calls. -/
structure Recorded (gridM : ℚ) (calls : List (ℚ × ℚ)) (recorder : LapRecorder) : Prop where
  grid : recorder.gridM = gridM
  paired : recorder.dist.length = recorder.time.length
  spaced : recorder.dist.Pairwise fun earlier later => earlier < later ∧ gridM ≤ later - earlier
  taken : (pairs recorder).Sublist calls

theorem recorded_add {gridM : ℚ} {calls : List (ℚ × ℚ)}
    {recorder : LapRecorder} (recorded : Recorded gridM calls recorder) (distance elapsed : ℚ) :
    Recorded gridM (calls ++ [(distance, elapsed)]) (recorder.add distance elapsed) := by
  refine ⟨(add_gridM recorder distance elapsed).trans recorded.grid, ?_, ?_,
    pairs_add recorded.paired recorded.taken distance elapsed⟩
  · rcases add_cases recorder distance elapsed with same | ⟨added, _⟩
    · rw [same, recorded.paired]
    · simp [added, recorded.paired]
  · rcases add_cases recorder distance elapsed with same | ⟨added, further⟩
    · rw [same]
      exact recorded.spaced
    · rw [added]
      refine pairwise_concat ?_ recorded.spaced ?_
      · rintro a b c ⟨first, gap⟩ ⟨second, next⟩
        exact ⟨lt_trans first second, by linarith⟩
      · intro last known
        rw [← recorded.grid]
        exact further last known

theorem recorded_addAll (recorder : LapRecorder) (calls : List (ℚ × ℚ)) :
    Recorded recorder.gridM calls (recorder.reset.addAll calls) := by
  induction calls using List.reverseRecOn with
  | nil => exact ⟨rfl, rfl, List.Pairwise.nil, List.Sublist.refl _⟩
  | append_singleton calls call ih =>
      rw [LapRecorder.addAll, List.foldl_append]
      exact recorded_add ih call.1 call.2

section Lookup

variable {d t : List ℚ}

theorem subscript_nat (items : List ℚ) (index : Nat) :
    subscript items index = items[index]? := by
  simp [subscript]

theorem subscript_zero (items : List ℚ) : subscript items 0 = items.head? := by
  simp [subscript, List.head?_eq_getElem?]

theorem subscript_last (items : List ℚ) : subscript items (-1) = items.getLast? := by
  rw [List.getLast?_eq_getElem?]
  cases items with
  | nil => rfl
  | cons first rest =>
      have place : (((first :: rest).length : Int) + -1).toNat = (first :: rest).length - 1 := by
        omega
      have inside : (0 : Int) ≤ (first :: rest).length + -1 := by
        simp only [List.length_cons]
        omega
      rw [subscript, if_neg (by omega), if_pos inside, place]

/-- Strictly between the first and the last distance the index has a knot on each side. -/
theorem bisectRight_bounds {first last x : ℚ} (head : d.head? = some first)
    (tail : d.getLast? = some last) (after : first < x) (before : x < last) :
    0 < bisectRight d x ∧ bisectRight d x < d.length := by
  constructor
  · obtain ⟨rest, rfl⟩ := List.head?_eq_some_iff.mp head
    simp [bisectRight, le_of_lt after]
  · rw [bisectRight]
    have prefixed := List.takeWhile_prefix (l := d) fun entry => decide (entry ≤ x)
    refine lt_of_le_of_ne prefixed.length_le ?_
    intro whole
    have all := List.takeWhile_eq_self_iff.mp (prefixed.eq_of_length whole) last
      (List.mem_of_getLast? tail)
    exact absurd (of_decide_eq_true all) (not_le.mpr before)

/-- Between two knots every subscript of the interpolation finds its entry. -/
theorem subscripts_inside {i : Nat} (positive : 0 < i) (within : i < d.length) :
    subscript d i = some (d.getD i 0) ∧ subscript d ((i : Int) - 1) = some (d.getD (i - 1) 0) := by
  have place : (i : Int) - 1 = ((i - 1 : Nat) : Int) := by omega
  rw [place, subscript_nat, subscript_nat]
  simp [List.getD_eq_getElem?_getD, within, lt_of_le_of_lt (Nat.sub_le i 1) within]

/-- On a curve whose distances grow no subscript is out of range and nothing is divided
by zero. -/
theorem timeAt?_eq (increasing : Increasing d t) (lapTime x : ℚ) :
    ReferenceLap.timeAt? ⟨d, t, lapTime⟩ x = some (ReferenceLap.timeAt ⟨d, t, lapTime⟩ x) := by
  unfold ReferenceLap.timeAt? ReferenceLap.timeAt
  dsimp only
  cases head : d.head? with
  | none =>
      rw [List.head?_eq_none_iff.mp head]
      rfl
  | some first =>
      have present : d ≠ [] := by
        rintro rfl
        cases head
      have filled : t ≠ [] := by
        rintro rfl
        exact present (List.eq_nil_of_length_eq_zero increasing.paired)
      have tail := List.getLast?_eq_some_getLast present
      have start := List.head?_eq_some_head filled
      have finish := List.getLast?_eq_some_getLast filled
      rw [if_neg present, subscript_zero, subscript_last, subscript_zero, subscript_last, tail,
        head, start, finish]
      simp only [Option.bind_eq_bind, Option.bind_some]
      by_cases before : x ≤ first
      · rw [if_pos before, if_pos before, List.headD_eq_head?_getD, start]
        rfl
      · rw [if_neg before, if_neg before]
        by_cases beyond : d.getLast present ≤ x
        · rw [if_pos beyond, if_pos beyond, List.getLastD_eq_getLast?, finish]
          rfl
        · rw [if_neg beyond, if_neg beyond]
          obtain ⟨positive, within⟩ :=
            bisectRight_bounds head tail (not_le.mp before) (not_le.mp beyond)
          obtain ⟨next, previous⟩ := subscripts_inside positive within
          obtain ⟨later, earlier⟩ := subscripts_inside positive (increasing.paired ▸ within)
          rw [next, previous, later, earlier]
          simp only [Option.bind_some, Option.pure_def]
          split
          · rename_i span
            rw [divide, if_neg (ne_of_gt span)]
            rfl
          · rfl

theorem bisectRight_cons {first x : ℚ} (rest : List ℚ) (reached : first ≤ x) :
    bisectRight (first :: rest) x = bisectRight rest x + 1 := by
  simp [bisectRight, reached]

theorem bisectRight_before {first x : ℚ} (rest : List ℚ) (before : x < first) :
    bisectRight (first :: rest) x = 0 := by
  simp [bisectRight, before]

/-- Before the first distance and on it the first time is read. -/
theorem timeAt_before {first start lapTime x : ℚ} (rest later : List ℚ) (before : x ≤ first) :
    ReferenceLap.timeAt ⟨first :: rest, start :: later, lapTime⟩ x = start := by
  unfold ReferenceLap.timeAt
  rw [List.getLast?_eq_some_getLast (List.cons_ne_nil first rest)]
  exact if_pos before

theorem neighbours_apart (grows : d.Pairwise (· < ·)) {i : Nat} (positive : 0 < i)
    (within : i < d.length) : d.getD (i - 1) 0 < d.getD i 0 := by
  have earlier : i - 1 < d.length := lt_of_le_of_lt (Nat.sub_le i 1) within
  have apart := List.pairwise_iff_getElem.mp grows (i - 1) i earlier within (by omega)
  simpa [List.getD_eq_getElem?_getD, earlier, within] using apart

/-- Strictly inside the line through the two knots around the distance is read. -/
theorem timeAt_inside (increasing : Increasing d t) {first last x : ℚ} (head : d.head? = some first)
    (tail : d.getLast? = some last) (after : first < x) (before : x < last) (lapTime : ℚ) :
    ReferenceLap.timeAt ⟨d, t, lapTime⟩ x =
      between (d.getD (bisectRight d x - 1) 0) (t.getD (bisectRight d x - 1) 0)
        (d.getD (bisectRight d x) 0) (t.getD (bisectRight d x) 0) x := by
  obtain ⟨positive, within⟩ := bisectRight_bounds head tail after before
  have span := sub_pos.mpr (neighbours_apart increasing.grows positive within)
  unfold ReferenceLap.timeAt
  rw [head, tail]
  simp only [if_neg (not_le.mpr after), if_neg (not_le.mpr before), if_pos span]
  rfl

/-- From the last distance on the last time is read. -/
theorem timeAt_beyond {first last lapTime x : ℚ} (head : d.head? = some first)
    (tail : d.getLast? = some last) (after : first < x) (beyond : last ≤ x) :
    ReferenceLap.timeAt ⟨d, t, lapTime⟩ x = t.getLastD 0 := by
  unfold ReferenceLap.timeAt
  rw [head, tail]
  simp only [if_neg (not_le.mpr after), if_pos beyond]

/-- The first knot no longer counts from the second one on. -/
theorem timeAt_later {first second start next x : ℚ} {rest later : List ℚ}
    (increasing : Increasing (first :: second :: rest) (start :: next :: later))
    (reached : second ≤ x) (lapTime : ℚ) :
    ReferenceLap.timeAt ⟨first :: second :: rest, start :: next :: later, lapTime⟩ x =
      ReferenceLap.timeAt ⟨second :: rest, next :: later, lapTime⟩ x := by
  have grows := List.pairwise_cons.mp increasing.grows
  have apart : first < second := grows.1 second List.mem_cons_self
  have shorter : Increasing (second :: rest) (next :: later) :=
    ⟨Nat.succ_injective increasing.paired, grows.2⟩
  have after := lt_of_lt_of_le apart reached
  have tail := List.getLast?_eq_some_getLast (List.cons_ne_nil second rest)
  have whole : (first :: second :: rest).getLast? =
      some ((second :: rest).getLast (List.cons_ne_nil second rest)) := by
    rw [List.getLast?_cons_cons, tail]
  rcases eq_or_lt_of_le reached with rfl | further
  · -- On the second knot itself both readings are its time.
    rw [timeAt_before rest later (le_refl _)]
    rcases rest with _ | ⟨third, rest⟩
    · rw [timeAt_beyond rfl whole after (le_refl _)]
      have none : later = [] := List.eq_nil_of_length_eq_zero (Nat.succ_injective shorter.paired).symm
      rw [none]
      rfl
    · have inside : second < (second :: third :: rest).getLast (List.cons_ne_nil _ _) := by
        rw [List.getLast_cons (List.cons_ne_nil third rest)]
        exact (List.pairwise_cons.mp grows.2).1 _ (List.getLast_mem _)
      have place : bisectRight (first :: second :: third :: rest) second = 2 := by
        rw [bisectRight_cons _ (le_of_lt apart), bisectRight_cons _ (le_refl _),
          bisectRight_before rest ((List.pairwise_cons.mp grows.2).1 third List.mem_cons_self)]
      rw [timeAt_inside increasing rfl whole after inside, place]
      exact between_start ..
  · rcases lt_or_ge x ((second :: rest).getLast (List.cons_ne_nil second rest)) with inside | beyond
    · have positive := (bisectRight_bounds (d := second :: rest) rfl tail further inside).1
      rw [timeAt_inside increasing rfl whole after inside, timeAt_inside shorter rfl tail further inside,
        bisectRight_cons _ (le_of_lt after)]
      obtain ⟨i, place⟩ := Nat.exists_eq_succ_of_ne_zero (ne_of_gt positive)
      rw [place]
      rfl
    · rw [timeAt_beyond rfl whole after beyond, timeAt_beyond rfl tail further beyond]
      rfl

/-- `time_at` reads the curve through the recorded knots. -/
theorem timeAt_eq_curve (increasing : Increasing d t) (lapTime x : ℚ) :
    ReferenceLap.timeAt ⟨d, t, lapTime⟩ x = curve (d.zip t) x := by
  induction d generalizing t with
  | nil => rfl
  | cons first rest ih =>
      obtain ⟨start, later, rfl⟩ := List.exists_cons_of_length_eq_add_one increasing.paired.symm
      rcases le_or_gt x first with before | after
      · rw [timeAt_before rest later before, List.zip_cons_cons, curve_before _ _ before]
      · rcases rest with _ | ⟨second, rest⟩
        · have none : later = [] :=
            List.eq_nil_of_length_eq_zero (Nat.succ_injective increasing.paired).symm
          rw [none, timeAt_beyond rfl rfl after (le_of_lt after)]
          rfl
        · obtain ⟨next, later, rfl⟩ :=
            List.exists_cons_of_length_eq_add_one (Nat.succ_injective increasing.paired).symm
          have grows := List.pairwise_cons.mp increasing.grows
          have apart : first < second := grows.1 second List.mem_cons_self
          rcases lt_or_ge x second with inside | reached
          · have tail := List.getLast?_eq_some_getLast (List.cons_ne_nil second rest)
            have far : second ≤ (second :: rest).getLast (List.cons_ne_nil second rest) := by
              rcases List.mem_cons.mp (List.getLast_mem (List.cons_ne_nil second rest)) with
                same | later
              · exact le_of_eq same.symm
              · exact le_of_lt ((List.pairwise_cons.mp grows.2).1 _ later)
            have whole : (first :: second :: rest).getLast? =
                some ((second :: rest).getLast (List.cons_ne_nil second rest)) := by
              rw [List.getLast?_cons_cons, tail]
            rw [timeAt_inside increasing rfl whole after (lt_of_lt_of_le inside far),
              bisectRight_cons _ (le_of_lt after), bisectRight_before rest inside]
            exact (curve_inside (first, start) (second, next) _ after inside).symm
          · rw [timeAt_later increasing reached, ih ⟨Nat.succ_injective increasing.paired, grows.2⟩]
            exact (curve_later _ apart reached).symm

end Lookup

/-- The knots of a recorded curve rise, when the elapsed times of the calls do not fall. -/
theorem Recorded.rising {gridM : ℚ} {calls : List (ℚ × ℚ)} {recorder : LapRecorder}
    (recorded : Recorded gridM calls recorder)
    (steady : calls.Pairwise fun earlier later => earlier.2 ≤ later.2) :
    Rising (pairs recorder) := by
  have apart : (pairs recorder).Pairwise fun earlier later => earlier.1 < later.1 := by
    have first : (pairs recorder).map Prod.fst = recorder.dist :=
      List.map_fst_zip (le_of_eq recorded.paired)
    have spaced := recorded.spaced
    rw [← first, List.pairwise_map] at spaced
    exact spaced.imp fun both => both.1
  exact apart.and (steady.sublist recorded.taken)

/-- For any `add` calls since a reset, with elapsed times that do not fall, the recorded
distances grow by the grid at least, and `time_at` of the completed curve never raises,
does not fall, passes through the recorded samples and stays between their first and
last time. -/
theorem reference_curve (recorder : LapRecorder) (calls : List (ℚ × ℚ)) (lapTime : ℚ)
    (steady : calls.Pairwise fun earlier later => earlier.2 ≤ later.2) :
    (recorder.reset.addAll calls).dist.Pairwise
        (fun earlier later => earlier < later ∧ recorder.gridM ≤ later - earlier) ∧
      ∀ reference, (recorder.reset.addAll calls).complete lapTime = some reference →
        reference.distances.length = reference.times.length ∧
        (∀ x, reference.timeAt? x = some (reference.timeAt x)) ∧
        Monotone reference.timeAt ∧
        (∀ (i : Nat) distance elapsed, reference.distances[i]? = some distance →
          reference.times[i]? = some elapsed → reference.timeAt distance = elapsed) ∧
        ∃ first last, reference.times.head? = some first ∧ reference.times.getLast? = some last ∧
          ∀ x, first ≤ reference.timeAt x ∧ reference.timeAt x ≤ last := by
  have recorded := recorded_addAll recorder calls
  refine ⟨recorded.spaced, ?_⟩
  intro reference completed
  unfold LapRecorder.complete at completed
  split at completed
  · cases completed
  · rename_i long
    cases completed
    have increasing : Increasing (recorder.reset.addAll calls).dist
        (recorder.reset.addAll calls).time :=
      ⟨recorded.paired, recorded.spaced.imp fun both => both.1⟩
    have read := timeAt_eq_curve increasing lapTime
    have rising := recorded.rising steady
    refine ⟨recorded.paired, timeAt?_eq increasing lapTime, ?_, ?_, ?_⟩
    · intro x y le
      rw [read, read]
      exact curve_monotone _ rising le
    · intro i distance elapsed there then_
      have member : (distance, elapsed) ∈ pairs (recorder.reset.addAll calls) :=
        List.mem_of_getElem? (List.getElem?_zip_eq_some.mpr ⟨there, then_⟩)
      rw [read]
      exact curve_knot _ rising member
    · have times : (pairs (recorder.reset.addAll calls)).map Prod.snd =
          (recorder.reset.addAll calls).time := List.map_snd_zip (le_of_eq recorded.paired.symm)
      have filled : pairs (recorder.reset.addAll calls) ≠ [] := by
        intro none
        have length := congrArg List.length times
        rw [none, ← recorded.paired] at length
        exact long (by rw [← length]; decide)
      obtain ⟨knot, rest, whole⟩ := List.exists_cons_of_ne_nil filled
      have last := List.getLast?_eq_some_getLast (List.cons_ne_nil knot rest)
      refine ⟨knot.2, ((knot :: rest).getLast (List.cons_ne_nil knot rest)).2, ?_, ?_, ?_⟩
      · rw [← times, whole]
        rfl
      · rw [← times, whole, List.getLast?_map, last]
        rfl
      · intro x
        have between : ReferenceLap.timeAt ⟨(recorder.reset.addAll calls).dist,
            (recorder.reset.addAll calls).time, lapTime⟩ x = curve (knot :: rest) x := by
          rw [read, ← whole]
          rfl
        rw [whole] at rising
        rw [between]
        exact ⟨le_curve knot rest rising x, curve_le knot rest rising x⟩

/-- Ten samples seven metres apart, one a second. -/
def tenSamples : List (ℚ × ℚ) := (List.range 10).map fun i : Nat => ((7 * i : ℚ), (i : ℚ))

theorem reference_curve_ten :
    ∃ reference, (({} : LapRecorder).reset.addAll tenSamples).complete 30 = some reference ∧
      Monotone reference.timeAt := by
  obtain ⟨reference, completed⟩ : ∃ reference,
      (({} : LapRecorder).reset.addAll tenSamples).complete 30 = some reference :=
    Option.isSome_iff_exists.mp (by decide +kernel)
  have law := reference_curve {} tenSamples 30 (by decide +kernel)
  exact ⟨reference, completed, (law.2 reference completed).2.2.1⟩

end OpenLaps.Timing
