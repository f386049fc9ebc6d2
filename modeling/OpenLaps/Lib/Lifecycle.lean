import Mathlib.Data.List.Induction
import Mathlib.Data.List.Nodup
import Mathlib.Order.Basic

universe u v w

/- Life cycles of keyed reports: one thing is open at a time, and each turn reports at most
one opening, change or closing. What the list of all reports then looks like. -/
namespace Lifecycle

variable {F : Type u} {ι : Type v} {κ : Type w} [Preorder κ]

/-- How reports are read. -/
structure Reading (F : Type u) (ι : Type v) (κ : Type w) where
  key : F → ι
  peak : F → κ
  closed : F → Prop

/-- A turn: what was open, what is reported, what is open afterwards. A new thing takes one of
the turn's ids. -/
inductive Step (reading : Reading F ι κ) (ids : List ι) : Option F → Option F → Option F → Prop
  | quiet (current : Option F) : Step reading ids current none current
  | opens (first : F) : reading.key first ∈ ids → ¬reading.closed first →
      Step reading ids none (some first) (some first)
  | goesOn (current next : F) : reading.key next = reading.key current →
      reading.peak current ≤ reading.peak next → ¬reading.closed next →
      Step reading ids (some current) (some next) (some next)
  | closes (current last : F) : reading.key last = reading.key current →
      reading.peak current ≤ reading.peak last → reading.closed last →
      Step reading ids (some current) (some last) none

/-- Nothing changes without a report. -/
theorem Step.eq_of_quiet {reading : Reading F ι κ} {ids : List ι} {current next : Option F}
    (step : Step reading ids current none next) : next = current := by
  cases step
  rfl

/-- The turns of a run that starts with nothing open. -/
inductive Course (reading : Reading F ι κ) : List (List ι × Option F) → Option F → Prop
  | start : Course reading [] none
  | turn {turns current ids report next} : Course reading turns current →
      Step reading ids current report next → Course reading (turns ++ [(ids, report)]) next

def reports (turns : List (List ι × Option F)) : List F := turns.filterMap Prod.snd

/-- What a reader of the reports sees. -/
structure Orderly (reading : Reading F ι κ) (reports : List F) : Prop where
  closesOnce : reports.Pairwise fun first later =>
    reading.closed first → reading.key later ≠ reading.key first
  opensFirst : ∀ before last after, reports = before ++ last :: after → reading.closed last →
    ∃ first ∈ before, reading.key first = reading.key last ∧ ¬reading.closed first
  oneAtATime : ∀ before first mid later after, reports = before ++ first :: (mid ++ later :: after) →
    ¬reading.closed first → reading.key later ≠ reading.key first →
    ∃ last ∈ mid, reading.key last = reading.key first ∧ reading.closed last
  peaks : reports.Pairwise fun first later =>
    reading.key first = reading.key later → reading.peak first ≤ reading.peak later

/-- How the reports stand to what is open. -/
structure Tracks (reading : Reading F ι κ) (reports : List F) (current : Option F) : Prop where
  orderly : Orderly reading reports
  /-- An open thing was reported, and has not been reported closed. -/
  reported : ∀ active, current = some active →
    ∃ first ∈ reports, reading.key first = reading.key active ∧ ¬reading.closed first
  unclosed : ∀ active, current = some active → ∀ report ∈ reports,
    reading.key report = reading.key active →
      ¬reading.closed report ∧ reading.peak report ≤ reading.peak active
  /-- A thing reported open is still open or has been reported closed. -/
  settled : ∀ before first after, reports = before ++ first :: after → ¬reading.closed first →
    (∃ active, current = some active ∧ reading.key active = reading.key first) ∨
      ∃ last ∈ after, reading.key last = reading.key first ∧ reading.closed last

variable {reading : Reading F ι κ} {reported : List F} {last : F}

/-- Splitting a longer list at an item: the item is the new one, or stands in the list. -/
theorem split_snoc {α : Type u} {items before after : List α} {item new : α}
    (split : items ++ [new] = before ++ item :: after) :
    (before = items ∧ item = new ∧ after = []) ∨
      ∃ rest, after = rest ++ [new] ∧ items = before ++ item :: rest := by
  cases after using List.reverseRecOn with
  | nil =>
    obtain ⟨same, final⟩ := List.append_inj' split rfl
    simp only [List.cons.injEq, and_true] at final
    exact .inl ⟨same.symm, final.symm, rfl⟩
  | append_singleton rest final _ =>
    rw [← List.cons_append, ← List.append_assoc] at split
    obtain ⟨same, final⟩ := List.append_inj' split rfl
    simp only [List.cons.injEq, and_true] at final
    exact .inr ⟨rest, by rw [final], same⟩

/-- One more report. -/
theorem Orderly.snoc (orderly : Orderly reading reported)
    (unclosed : ∀ report ∈ reported, reading.closed report →
      reading.key last ≠ reading.key report)
    (opened : reading.closed last →
      ∃ first ∈ reported, reading.key first = reading.key last ∧ ¬reading.closed first)
    (settled : ∀ before first after, reported = before ++ first :: after →
      ¬reading.closed first → reading.key last ≠ reading.key first →
        ∃ done ∈ after, reading.key done = reading.key first ∧ reading.closed done)
    (peaks : ∀ report ∈ reported, reading.key report = reading.key last →
      reading.peak report ≤ reading.peak last) :
    Orderly reading (reported ++ [last]) where
  closesOnce := by
    rw [List.pairwise_append]
    refine ⟨orderly.closesOnce, List.pairwise_singleton _ _, ?_⟩
    intro report member final same
    rw [List.mem_singleton] at same
    rw [same]
    exact unclosed report member
  opensFirst := by
    intro before final after split closed
    obtain ⟨rfl, rfl, _⟩ | ⟨rest, _, inside⟩ := split_snoc split
    · exact opened closed
    · exact orderly.opensFirst before final rest inside closed
  oneAtATime := by
    intro before first mid later after split active other
    rw [← List.cons_append, ← List.append_assoc] at split
    obtain ⟨rfl, rfl, _⟩ | ⟨rest, _, inside⟩ := split_snoc split
    · exact settled before first mid rfl active other
    · rw [List.append_assoc, List.cons_append] at inside
      exact orderly.oneAtATime before first mid later rest inside active other
  peaks := by
    rw [List.pairwise_append]
    refine ⟨orderly.peaks, List.pairwise_singleton _ _, ?_⟩
    intro report member final same
    rw [List.mem_singleton] at same
    rw [same]
    exact peaks report member

theorem Tracks.opens {first : F} (tracks : Tracks reading reported none)
    (fresh : ∀ report ∈ reported, reading.key report ≠ reading.key first)
    (active : ¬reading.closed first) : Tracks reading (reported ++ [first]) (some first) where
  orderly := by
    apply tracks.orderly.snoc
    · intro report member _ same
      exact fresh report member same.symm
    · intro closed
      exact absurd closed active
    · intro before report after split opened _
      have done := tracks.settled before report after split opened
      simpa using done
    · intro report member same
      exact absurd same (fresh report member)
  reported := by
    intro current same
    rw [Option.some.injEq] at same
    exact ⟨first, by simp, by rw [same], active⟩
  unclosed := by
    intro current same report member key
    rw [Option.some.injEq] at same
    subst same
    rw [List.mem_append, List.mem_singleton] at member
    cases member with
    | inl before => exact absurd key (fresh report before)
    | inr last =>
      rw [last]
      exact ⟨active, le_refl _⟩
  settled := by
    intro before report after split opened
    obtain ⟨_, rfl, _⟩ | ⟨rest, rfl, inside⟩ := split_snoc split
    · exact .inl ⟨report, rfl, rfl⟩
    · obtain ⟨_, none, _⟩ | ⟨done, member, facts⟩ :=
        tracks.settled before report rest inside opened
      · simp at none
      · exact .inr ⟨done, by simp [member], facts⟩

/-- A report of what is open fits behind the reports so far. -/
theorem Tracks.snoc_open {current report : F} (tracks : Tracks reading reported (some current))
    (same : reading.key report = reading.key current)
    (higher : reading.peak current ≤ reading.peak report) :
    Orderly reading (reported ++ [report]) := by
  apply tracks.orderly.snoc
  · intro before member closed key
    exact (tracks.unclosed current rfl before member (by rw [← key, same])).1 closed
  · intro _
    obtain ⟨first, member, key, active⟩ := tracks.reported current rfl
    exact ⟨first, member, by rw [key, same], active⟩
  · intro before first after split active other
    obtain ⟨open_, known, key⟩ | done := tracks.settled before first after split active
    · rw [Option.some.injEq] at known
      exact absurd (by rw [same, known, key]) other
    · exact done
  · intro before member key
    exact ((tracks.unclosed current rfl before member (by rw [key, same])).2).trans higher

theorem Tracks.goesOn {current next : F} (tracks : Tracks reading reported (some current))
    (same : reading.key next = reading.key current)
    (higher : reading.peak current ≤ reading.peak next) (active : ¬reading.closed next) :
    Tracks reading (reported ++ [next]) (some next) where
  orderly := tracks.snoc_open same higher
  reported := by
    intro open_ known
    rw [Option.some.injEq] at known
    exact ⟨next, by simp, by rw [known], active⟩
  unclosed := by
    intro open_ known report member key
    rw [Option.some.injEq] at known
    subst known
    rw [List.mem_append, List.mem_singleton] at member
    cases member with
    | inl before =>
      have earlier := tracks.unclosed current rfl report before (by rw [key, same])
      exact ⟨earlier.1, earlier.2.trans higher⟩
    | inr last =>
      rw [last]
      exact ⟨active, le_refl _⟩
  settled := by
    intro before report after split opened
    obtain ⟨_, rfl, _⟩ | ⟨rest, rfl, inside⟩ := split_snoc split
    · exact .inl ⟨report, rfl, rfl⟩
    · obtain ⟨open_, known, key⟩ | ⟨done, member, facts⟩ :=
        tracks.settled before report rest inside opened
      · rw [Option.some.injEq] at known
        exact .inl ⟨next, rfl, by rw [same, known, key]⟩
      · exact .inr ⟨done, by simp [member], facts⟩

theorem Tracks.closes {current last : F} (tracks : Tracks reading reported (some current))
    (same : reading.key last = reading.key current)
    (higher : reading.peak current ≤ reading.peak last) (closed : reading.closed last) :
    Tracks reading (reported ++ [last]) none where
  orderly := tracks.snoc_open same higher
  reported := by simp
  unclosed := by simp
  settled := by
    intro before report after split opened
    obtain ⟨_, rfl, _⟩ | ⟨rest, rfl, inside⟩ := split_snoc split
    · exact absurd closed opened
    · obtain ⟨open_, known, key⟩ | ⟨done, member, facts⟩ :=
        tracks.settled before report rest inside opened
      · rw [Option.some.injEq] at known
        exact .inr ⟨last, by simp, by rw [same, known, key], closed⟩
      · exact .inr ⟨done, by simp [member], facts⟩

theorem reports_snoc (turns : List (List ι × Option F)) (ids : List ι) (report : Option F) :
    reports (turns ++ [(ids, report)]) = reports turns ++ report.toList := by
  cases report <;> simp [reports]

/-- The ids of a run of turns. -/
def issued (turns : List (List ι × Option F)) : List ι := turns.flatMap Prod.fst

theorem Course.tracks {turns : List (List ι × Option F)} {current : Option F}
    (course : Course reading turns current) (distinct : (issued turns).Nodup) :
    Tracks reading (reports turns) current ∧
      (∀ report ∈ reports turns, reading.key report ∈ issued turns) ∧
      ∀ active, current = some active → reading.key active ∈ issued turns := by
  induction course with
  | start =>
    refine ⟨⟨⟨by simp [reports], by simp [reports], by simp [reports], by simp [reports]⟩,
      by simp, by simp, by simp [reports]⟩, by simp [reports], by simp⟩
  | @turn turns current ids report next course step ih =>
    have grown : issued (turns ++ [(ids, report)]) = issued turns ++ ids := by simp [issued]
    rw [grown, List.nodup_append] at distinct
    obtain ⟨tracks, keys, known⟩ := ih distinct.1
    rw [reports_snoc, grown]
    cases step with
    | quiet =>
      refine ⟨by simpa using tracks, ?_, ?_⟩
      · intro report member
        exact List.mem_append_left _ (keys report (by simpa using member))
      · intro active same
        exact List.mem_append_left _ (known active same)
    | opens first new active =>
      have fresh : ∀ report ∈ reports turns, reading.key report ≠ reading.key first :=
        fun report member => distinct.2.2 _ (keys report member) _ new
      refine ⟨tracks.opens fresh active, ?_, ?_⟩
      · intro report member
        rw [Option.toList_some, List.mem_append, List.mem_singleton] at member
        cases member with
        | inl before => exact List.mem_append_left _ (keys report before)
        | inr last =>
          rw [last]
          exact List.mem_append_right _ new
      · intro active same
        rw [Option.some.injEq] at same
        rw [← same]
        exact List.mem_append_right _ new
    | goesOn current next same higher active =>
      have old := known current rfl
      refine ⟨tracks.goesOn same higher active, ?_, ?_⟩
      · intro report member
        rw [Option.toList_some, List.mem_append, List.mem_singleton] at member
        cases member with
        | inl before => exact List.mem_append_left _ (keys report before)
        | inr last =>
          rw [last, same]
          exact List.mem_append_left _ old
      · intro active known
        rw [Option.some.injEq] at known
        rw [← known, same]
        exact List.mem_append_left _ old
    | closes current last same higher closed =>
      have old := known current rfl
      refine ⟨tracks.closes same higher closed, ?_, by simp⟩
      intro report member
      rw [Option.toList_some, List.mem_append, List.mem_singleton] at member
      cases member with
      | inl before => exact List.mem_append_left _ (keys report before)
      | inr final =>
        rw [final, same]
        exact List.mem_append_left _ old

end Lifecycle
