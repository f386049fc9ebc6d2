import Mathlib.Data.List.Basic
import Mathlib.Data.List.Pairwise

/- Cutting a stamped sequence into windows: each window opens at the first item
not yet covered and takes every following item stamped less than a fixed length
after it. -/
namespace Windows

universe u

variable {α : Type u}

/-- A window holds at least the item that opened it. -/
structure Window (α : Type u) where
  first : α
  rest : List α

def Window.items (window : Window α) : List α := window.first :: window.rest

def Window.push (window : Window α) (item : α) : Window α :=
  { window with rest := window.rest ++ [item] }

theorem Window.push_items (window : Window α) (item : α) :
    (window.push item).items = window.items ++ [item] := rfl

/-- The stamp a window is anchored on. -/
def Window.anchor (stamp : α → Int) (window : Window α) : Int := stamp window.first

def fill (stamp : α → Int) (length : Int) (window : Window α) : List α → List (Window α)
  | [] => [window]
  | item :: later =>
    if stamp item - window.anchor stamp < length then
      fill stamp length (window.push item) later
    else
      window :: fill stamp length ⟨item, []⟩ later

def split (stamp : α → Int) (length : Int) : List α → List (Window α)
  | [] => []
  | first :: later => fill stamp length ⟨first, []⟩ later

theorem fill_items (stamp : α → Int) (length : Int) (window : Window α) (later : List α) :
    (fill stamp length window later).flatMap Window.items = window.items ++ later := by
  induction later generalizing window with
  | nil => simp [fill]
  | cons item later ih =>
    rw [fill]
    split
    · rw [ih, Window.push_items, List.append_assoc, List.singleton_append]
    · rw [List.flatMap_cons, ih]
      rfl

/-- Every item lies in exactly one window, and the order is kept. -/
theorem split_items (stamp : α → Int) (length : Int) (items : List α) :
    (split stamp length items).flatMap Window.items = items := by
  cases items with
  | nil => rfl
  | cons first later => exact fill_items stamp length ⟨first, []⟩ later

/-- The items of a window are stamped within its length after the anchor. -/
def Window.Within (stamp : α → Int) (length : Int) (window : Window α) : Prop :=
  ∀ item ∈ window.items, window.anchor stamp ≤ stamp item ∧
    stamp item < window.anchor stamp + length

theorem Window.Within.push {stamp : α → Int} {length : Int} {window : Window α}
    (within : window.Within stamp length) {item : α} (after : window.anchor stamp ≤ stamp item)
    (close : stamp item - window.anchor stamp < length) :
    (window.push item).Within stamp length := by
  intro other member
  change window.anchor stamp ≤ stamp other ∧ stamp other < window.anchor stamp + length
  rw [Window.push_items, List.mem_append, List.mem_singleton] at member
  rcases member with earlier | last
  · exact within other earlier
  · subst last
    omega

theorem within_singleton (stamp : α → Int) (length : Int) (positive : 0 < length) (item : α) :
    (⟨item, []⟩ : Window α).Within stamp length := by
  intro other member
  change other ∈ [item] at member
  rw [List.mem_singleton] at member
  subst member
  change stamp other ≤ stamp other ∧ stamp other < stamp other + length
  omega

theorem fill_within (stamp : α → Int) (length : Int) (positive : 0 < length) (window : Window α)
    (later : List α) (within : window.Within stamp length)
    (sorted : (window.items ++ later).Pairwise fun earlier late => stamp earlier ≤ stamp late) :
    ∀ found ∈ fill stamp length window later, found.Within stamp length := by
  induction later generalizing window with
  | nil =>
    intro found member
    rw [fill, List.mem_singleton] at member
    rw [member]
    exact within
  | cons item later ih =>
    have after : window.anchor stamp ≤ stamp item := by
      have ordered := (List.pairwise_append.mp sorted).2.2
      exact ordered window.first List.mem_cons_self item List.mem_cons_self
    rw [fill]
    split
    · rename_i close
      apply ih _ (within.push after close)
      rw [Window.push_items, List.append_assoc]
      exact sorted
    · intro found member
      rcases List.mem_cons.mp member with here | below
      · rw [here]
        exact within
      · exact ih ⟨item, []⟩ (within_singleton stamp length positive item)
          (List.pairwise_append.mp sorted).2.1 found below

theorem split_within (stamp : α → Int) (length : Int) (positive : 0 < length) (items : List α)
    (sorted : items.Pairwise fun earlier late => stamp earlier ≤ stamp late) :
    ∀ window ∈ split stamp length items, window.Within stamp length := by
  cases items with
  | nil => exact fun window member => absurd member List.not_mem_nil
  | cons first later =>
    exact fill_within stamp length positive ⟨first, []⟩ later
      (within_singleton stamp length positive first) sorted

theorem fill_apart (stamp : α → Int) (length : Int) (window : Window α) (later : List α)
    (sorted : later.Pairwise fun earlier late => stamp earlier ≤ stamp late)
    (after : ∀ item ∈ later, window.anchor stamp ≤ stamp item) :
    (∀ found ∈ fill stamp length window later, window.anchor stamp ≤ found.anchor stamp) ∧
      (fill stamp length window later).Pairwise fun earlier late =>
        earlier.anchor stamp + length ≤ late.anchor stamp := by
  induction later generalizing window with
  | nil => simp [fill]
  | cons item later ih =>
    have ordered := List.pairwise_cons.mp sorted
    rw [fill]
    split
    · exact ih (window.push item) ordered.2
        fun other member => after other (List.mem_cons_of_mem item member)
    · rename_i far
      have here := after item List.mem_cons_self
      have next := ih ⟨item, []⟩ ordered.2 ordered.1
      have gap : ∀ found ∈ fill stamp length ⟨item, []⟩ later,
          window.anchor stamp + length ≤ found.anchor stamp := by
        intro found member
        have beyond := next.1 found member
        unfold Window.anchor at beyond far ⊢
        dsimp only at beyond
        omega
      refine ⟨?_, List.pairwise_cons.mpr ⟨gap, next.2⟩⟩
      intro found member
      rcases List.mem_cons.mp member with same | below
      · subst same
        exact Int.le_refl _
      · exact Int.le_trans here (next.1 found below)

/-- Windows of a sorted sequence are anchored at least a length apart. -/
theorem split_apart (stamp : α → Int) (length : Int) (items : List α)
    (sorted : items.Pairwise fun earlier late => stamp earlier ≤ stamp late) :
    (split stamp length items).Pairwise fun earlier late =>
      earlier.anchor stamp + length ≤ late.anchor stamp := by
  cases items with
  | nil => exact List.Pairwise.nil
  | cons first later =>
    have ordered := List.pairwise_cons.mp sorted
    exact (fill_apart stamp length ⟨first, []⟩ later ordered.2 ordered.1).2

/-- The stamps that open a window: the earliest, and after each of them the earliest one its
window does not reach. -/
inductive Opens (length : Int) (stamps : List Int) : Int → Prop
  | first {opening : Int} (held : opening ∈ stamps) (least : ∀ other ∈ stamps, opening ≤ other) :
      Opens length stamps opening
  | next {before opening : Int} (opened : Opens length stamps before) (held : opening ∈ stamps)
      (beyond : before + length ≤ opening)
      (least : ∀ other ∈ stamps, before + length ≤ other → opening ≤ other) :
      Opens length stamps opening

theorem opens_of_same {length opening : Int} {first second : List Int}
    (same : ∀ value, value ∈ first ↔ value ∈ second) (opens : Opens length first opening) :
    Opens length second opening := by
  induction opens with
  | first held least =>
    exact .first ((same _).mp held) fun other member => least other ((same other).mpr member)
  | next opened held beyond least ih =>
    exact .next ih ((same _).mp held) beyond
      fun other member => least other ((same other).mpr member)

/-- Their order does not matter. -/
theorem opens_congr {length opening : Int} {first second : List Int}
    (same : ∀ value, value ∈ first ↔ value ∈ second) :
    Opens length first opening ↔ Opens length second opening :=
  ⟨opens_of_same same, opens_of_same fun value => (same value).symm⟩

theorem fill_opens {stamp : α → Int} {length : Int} (positive : 0 < length) {stamps : List Int}
    (window : Window α) (later : List α) (opened : Opens length stamps (window.anchor stamp))
    (sorted : later.Pairwise fun earlier late => stamp earlier ≤ stamp late)
    (held : ∀ item ∈ later, stamp item ∈ stamps)
    (others : ∀ other ∈ stamps, other ∈ later.map stamp ∨ other < window.anchor stamp + length) :
    ∀ found ∈ fill stamp length window later, Opens length stamps (found.anchor stamp) := by
  induction later generalizing window with
  | nil =>
    intro found member
    rw [fill, List.mem_singleton] at member
    rw [member]
    exact opened
  | cons item later ih =>
    have ordered := List.pairwise_cons.mp sorted
    have kept : ∀ other ∈ later, stamp other ∈ stamps :=
      fun other member => held other (List.mem_cons_of_mem item member)
    rw [fill]
    split
    · rename_i close
      refine ih (window.push item) opened ordered.2 kept fun other member => ?_
      rcases others other member with ahead | reached
      · rcases List.mem_cons.mp ahead with here | behind
        · right
          change other < window.anchor stamp + length
          omega
        · exact .inl behind
      · exact .inr reached
    · rename_i far
      have beyond : window.anchor stamp + length ≤ stamp item := by omega
      have least : ∀ other ∈ stamps, window.anchor stamp + length ≤ other →
          stamp item ≤ other := by
        intro other member after
        rcases others other member with ahead | reached
        · obtain ⟨found, listed, rfl⟩ := List.mem_map.mp ahead
          rcases List.mem_cons.mp listed with here | behind
          · exact Int.le_of_eq (congrArg stamp here).symm
          · exact ordered.1 found behind
        · omega
      have next := ih ⟨item, []⟩ (.next opened (held item List.mem_cons_self) beyond least)
        ordered.2 kept fun other member => by
          change _ ∨ other < stamp item + length
          rcases others other member with ahead | reached
          · rcases List.mem_cons.mp ahead with here | behind
            · right
              omega
            · exact .inl behind
          · right
            omega
      intro found member
      rcases List.mem_cons.mp member with here | below
      · rw [here]
        exact opened
      · exact next found below

theorem split_opens {stamp : α → Int} {length : Int} (positive : 0 < length) {items : List α}
    (sorted : items.Pairwise fun earlier late => stamp earlier ≤ stamp late) :
    ∀ window ∈ split stamp length items,
      Opens length (items.map stamp) (window.anchor stamp) := by
  cases items with
  | nil => exact fun window member => absurd member List.not_mem_nil
  | cons first later =>
    have ordered := List.pairwise_cons.mp sorted
    have least : ∀ other ∈ (first :: later).map stamp, stamp first ≤ other := by
      intro other member
      obtain ⟨item, listed, rfl⟩ := List.mem_map.mp member
      rcases List.mem_cons.mp listed with here | behind
      · exact Int.le_of_eq (congrArg stamp here).symm
      · exact ordered.1 item behind
    refine fill_opens positive ⟨first, []⟩ later (.first List.mem_cons_self least) ordered.2
      (fun item member => List.mem_cons_of_mem _ (List.mem_map_of_mem member)) ?_
    intro other member
    rcases List.mem_cons.mp member with here | behind
    · right
      change other < stamp first + length
      omega
    · exact .inl behind

/-- Two windows of a sorted sequence are the same, or anchored a length apart. -/
theorem split_apart_of_ne {stamp : α → Int} {length : Int} {items : List α}
    (sorted : items.Pairwise fun earlier late => stamp earlier ≤ stamp late)
    {window other : Window α} (member : window ∈ split stamp length items)
    (member' : other ∈ split stamp length items) (different : window ≠ other) :
    window.anchor stamp + length ≤ other.anchor stamp ∨
      other.anchor stamp + length ≤ window.anchor stamp := by
  let Apart := fun window other : Window α => window.anchor stamp + length ≤ other.anchor stamp ∨
    other.anchor stamp + length ≤ window.anchor stamp
  have symmetric : Std.Symm Apart := ⟨fun _ _ => Or.symm⟩
  exact List.Pairwise.forall (R := Apart) ((split_apart stamp length items sorted).imp Or.inl)
    member member' different

theorem split_of_opens {stamp : α → Int} {length : Int} (positive : 0 < length) {items : List α}
    (sorted : items.Pairwise fun earlier late => stamp earlier ≤ stamp late) {opening : Int}
    (opens : Opens length (items.map stamp) opening) :
    ∃ window ∈ split stamp length items, window.anchor stamp = opening := by
  have within := split_within stamp length positive items sorted
  have inside : ∀ item ∈ items, ∃ window ∈ split stamp length items, item ∈ window.items := by
    intro item listed
    rw [← split_items stamp length items] at listed
    exact List.mem_flatMap.mp listed
  have anchors : ∀ window ∈ split stamp length items, window.anchor stamp ∈ items.map stamp := by
    intro window member
    apply List.mem_map_of_mem
    rw [← split_items stamp length items]
    exact List.mem_flatMap.mpr ⟨window, member, List.mem_cons_self⟩
  induction opens with
  | first held least =>
    obtain ⟨item, listed, rfl⟩ := List.mem_map.mp held
    obtain ⟨window, member, reached⟩ := inside item listed
    exact ⟨window, member, Int.le_antisymm (within window member item reached).1
      (least _ (anchors window member))⟩
  | next opened held beyond least ih =>
    obtain ⟨before, member, rfl⟩ := ih
    obtain ⟨item, listed, rfl⟩ := List.mem_map.mp held
    obtain ⟨window, found, reached⟩ := inside item listed
    have bounds := within window found item reached
    refine ⟨window, found, Int.le_antisymm bounds.1 (least _ (anchors window found) ?_)⟩
    rcases split_apart_of_ne sorted member found (by rintro rfl; omega) with after | ahead
    · exact after
    · omega

/-- A window holds the items stamped less than a length after its anchor. -/
theorem split_covers {stamp : α → Int} {length : Int} (positive : 0 < length) {items : List α}
    (sorted : items.Pairwise fun earlier late => stamp earlier ≤ stamp late) :
    ∀ window ∈ split stamp length items, window.items = items.filter fun item =>
      window.anchor stamp ≤ stamp item ∧ stamp item < window.anchor stamp + length := by
  intro window member
  have within := split_within stamp length positive items sorted
  have apart := split_apart stamp length items sorted
  obtain ⟨before, after, parts⟩ := List.append_of_mem member
  have whole := split_items stamp length items
  rw [parts] at within apart whole
  have none : ∀ other ∈ before ++ after, ∀ item ∈ other.items,
      ¬(window.anchor stamp ≤ stamp item ∧ stamp item < window.anchor stamp + length) := by
    intro other listed item reached
    have bounds := within other (by
      rcases List.mem_append.mp listed with ahead | behind
      · exact List.mem_append_left _ ahead
      · exact List.mem_append_right _ (List.mem_cons_of_mem _ behind)) item reached
    rcases List.mem_append.mp listed with ahead | behind
    · have gap := (List.pairwise_append.mp apart).2.2 other ahead window List.mem_cons_self
      omega
    · have gap := (List.pairwise_cons.mp (List.pairwise_append.mp apart).2.1).1 other behind
      omega
  have all := within window (List.mem_append_right _ List.mem_cons_self)
  rw [← whole, List.flatMap_append, List.flatMap_cons, List.filter_append, List.filter_append,
    List.filter_eq_nil_iff.mpr, List.filter_eq_self.mpr, List.filter_eq_nil_iff.mpr]
  · rw [List.nil_append, List.append_nil]
  · intro item reached
    obtain ⟨other, listed, inside⟩ := List.mem_flatMap.mp reached
    simpa using none other (List.mem_append_right _ listed) item inside
  · intro item reached
    simpa using all item reached
  · intro item reached
    obtain ⟨other, listed, inside⟩ := List.mem_flatMap.mp reached
    simpa using none other (List.mem_append_left _ listed) item inside

/-- The windows of a sorted sequence, told from the stamps alone. -/
theorem mem_split {stamp : α → Int} {length : Int} (positive : 0 < length) {items : List α}
    (sorted : items.Pairwise fun earlier late => stamp earlier ≤ stamp late) {window : Window α} :
    window ∈ split stamp length items ↔
      Opens length (items.map stamp) (window.anchor stamp) ∧
        window.items = items.filter fun item =>
          window.anchor stamp ≤ stamp item ∧ stamp item < window.anchor stamp + length := by
  constructor
  · exact fun member =>
      ⟨split_opens positive sorted window member, split_covers positive sorted window member⟩
  · rintro ⟨opens, covers⟩
    obtain ⟨other, member, same⟩ := split_of_opens positive sorted opens
    have equal := split_covers positive sorted other member
    rw [same, ← covers] at equal
    obtain ⟨first, rest⟩ := window
    obtain ⟨first', rest'⟩ := other
    obtain ⟨rfl, rfl⟩ := List.cons.inj equal
    exact member

theorem fill_append (stamp : α → Int) (length : Int) (window : Window α) (early : List α)
    (next : α) (late : List α)
    (apart : ∀ item ∈ window.items ++ early, length ≤ stamp next - stamp item) :
    fill stamp length window (early ++ next :: late) =
      fill stamp length window early ++ fill stamp length ⟨next, []⟩ late := by
  induction early generalizing window with
  | nil =>
    have far : ¬ stamp next - window.anchor stamp < length :=
      Int.not_lt.mpr (apart window.first (by simp [Window.items]))
    simp only [List.nil_append, fill, if_neg far, List.singleton_append]
  | cons item early ih =>
    rw [List.cons_append, fill, fill]
    split
    · refine ih (window.push item) fun other member => apart other ?_
      rwa [Window.push_items, List.append_assoc] at member
    · rw [ih ⟨item, []⟩ fun other member => apart other ?_]
      · rfl
      · exact List.mem_append_right _ member

/-- A gap of one length is a cut between windows. -/
theorem split_append (stamp : α → Int) (length : Int) (early late : List α)
    (apart : ∀ item ∈ early, ∀ next ∈ late, length ≤ stamp next - stamp item) :
    split stamp length (early ++ late) = split stamp length early ++ split stamp length late := by
  cases early with
  | nil => rfl
  | cons first early =>
    cases late with
    | nil => simp [split]
    | cons next late =>
      exact fill_append stamp length ⟨first, []⟩ early next late
        fun item member => apart item member next List.mem_cons_self

end Windows
