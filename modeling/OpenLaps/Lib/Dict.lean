import Mathlib.Data.List.Induction
import Mathlib.Data.List.Nodup

universe u v w

/-- A dictionary that iterates in insertion order: assigning to a present key
keeps its place, a fresh key goes last. -/
structure Dict (κ : Type u) (ν : Type v) where
  entries : List (κ × ν)
  nodup : (entries.map Prod.fst).Nodup

namespace Dict

variable {κ : Type u} {ν : Type v} {α : Type w} [DecidableEq κ]

def lookup : List (κ × ν) → κ → Option ν
  | [], _ => none
  | entry :: rest, key => if entry.1 = key then some entry.2 else lookup rest key

def assign : List (κ × ν) → κ → ν → List (κ × ν)
  | [], key, value => [(key, value)]
  | entry :: rest, key, value =>
    if entry.1 = key then (key, value) :: rest else entry :: assign rest key value

theorem assign_fresh (entries : List (κ × ν)) (key : κ) (value : ν)
    (fresh : key ∉ entries.map Prod.fst) :
    assign entries key value = entries ++ [(key, value)] := by
  induction entries with
  | nil => rfl
  | cons entry rest ih =>
    rw [List.map_cons, List.mem_cons, not_or] at fresh
    have other : entry.1 ≠ key := fun same => fresh.1 same.symm
    rw [assign, if_neg other, ih fresh.2, List.cons_append]

theorem assign_present (entries : List (κ × ν)) (key : κ) (value : ν)
    (present : key ∈ entries.map Prod.fst) :
    (assign entries key value).map Prod.fst = entries.map Prod.fst := by
  induction entries with
  | nil => cases present
  | cons entry rest ih =>
    rw [assign]
    split
    · rename_i same
      rw [List.map_cons, List.map_cons, same]
    · rename_i other
      rw [List.map_cons, List.mem_cons] at present
      rw [List.map_cons, List.map_cons, ih (present.resolve_left fun same => other same.symm)]

theorem assign_nodup (entries : List (κ × ν)) (key : κ) (value : ν)
    (nodup : (entries.map Prod.fst).Nodup) : ((assign entries key value).map Prod.fst).Nodup := by
  by_cases present : key ∈ entries.map Prod.fst
  · rw [assign_present entries key value present]
    exact nodup
  · rw [assign_fresh entries key value present, List.map_append]
    apply nodup.append (List.nodup_singleton key)
    intro other member last
    rw [List.mem_singleton] at last
    exact present (last ▸ member)

theorem assign_filter (entries : List (κ × ν)) (key : κ) (value : ν) (keep : κ → Bool) :
    (assign entries key value).filter (fun entry => keep entry.1) =
      if keep key then assign (entries.filter fun entry => keep entry.1) key value
      else entries.filter fun entry => keep entry.1 := by
  induction entries with
  | nil =>
    rw [assign, List.filter_nil, List.filter_cons, List.filter_nil]
    rfl
  | cons entry rest ih =>
    rw [assign]
    by_cases same : entry.1 = key
    · cases kept : keep key <;> simp [same, kept, assign]
    · rw [if_neg same, List.filter_cons, List.filter_cons, ih]
      cases kept : keep key <;> cases other : keep entry.1 <;> simp [assign, same]

/-- Assignments to two keys commute where one of them is present. -/
theorem assign_comm {entries : List (κ × ν)} {key other : κ} (value value' : ν)
    (apart : key ≠ other) (present : key ∈ entries.map Prod.fst) :
    assign (assign entries key value) other value' =
      assign (assign entries other value') key value := by
  induction entries with
  | nil => simp at present
  | cons entry rest ih =>
    by_cases here : entry.1 = key
    · simp [assign, here, apart]
    · have later : key ∈ rest.map Prod.fst := by
        simpa [Ne.symm here] using present
      by_cases there : entry.1 = other
      · simp [assign, there, Ne.symm apart]
      · simp [assign, here, there, ih later]

theorem length_assign (entries : List (κ × ν)) (key : κ) (value : ν) :
    (assign entries key value).length ≤ entries.length + 1 := by
  by_cases present : key ∈ entries.map Prod.fst
  · have same := congrArg List.length (assign_present entries key value present)
    rw [List.length_map, List.length_map] at same
    omega
  · rw [assign_fresh entries key value present, List.length_append]
    exact Nat.le_refl _

theorem lookup_assign (entries : List (κ × ν)) (key : κ) (value : ν) (other : κ) :
    lookup (assign entries key value) other =
      if key = other then some value else lookup entries other := by
  induction entries with
  | nil => rfl
  | cons entry rest ih =>
    rw [assign]
    split
    · rename_i same
      rw [lookup, lookup, same]
      split <;> rfl
    · rename_i distinct
      rw [lookup, lookup, ih]
      by_cases here : entry.1 = other
      · rw [if_pos here, if_pos here, if_neg (fun same => distinct (here.trans same.symm))]
      · rw [if_neg here, if_neg here]

theorem lookup_eq_none (entries : List (κ × ν)) (key : κ) :
    lookup entries key = none ↔ key ∉ entries.map Prod.fst := by
  induction entries with
  | nil => simp [lookup]
  | cons entry rest ih =>
    rw [lookup, List.map_cons, List.mem_cons, not_or]
    split
    · rename_i same
      simp [same]
    · rename_i other
      rw [ih]
      constructor
      · exact fun absent => ⟨fun same => other same.symm, absent⟩
      · exact fun absent => absent.2

theorem mem_of_lookup {entries : List (κ × ν)} {key : κ} {value : ν}
    (found : lookup entries key = some value) : (key, value) ∈ entries := by
  induction entries with
  | nil => cases found
  | cons entry rest ih =>
    rw [lookup] at found
    split at found
    · rename_i same
      cases found
      rw [← same]
      exact List.mem_cons_self
    · exact List.mem_cons_of_mem entry (ih found)

theorem lookup_of_mem {entries : List (κ × ν)} (nodup : (entries.map Prod.fst).Nodup) {key : κ}
    {value : ν} (member : (key, value) ∈ entries) : lookup entries key = some value := by
  induction entries with
  | nil => cases member
  | cons entry rest ih =>
    rw [List.map_cons, List.nodup_cons] at nodup
    rw [lookup]
    rcases List.mem_cons.mp member with here | later
    · rw [← here, if_pos rfl]
    · have other : entry.1 ≠ key := by
        intro same
        apply nodup.1
        rw [same]
        exact List.mem_map_of_mem later
      rw [if_neg other]
      exact ih nodup.2 later

def empty : Dict κ ν := ⟨[], List.nodup_nil⟩

def keys (dict : Dict κ ν) : List κ := dict.entries.map Prod.fst

def get? (dict : Dict κ ν) (key : κ) : Option ν := lookup dict.entries key

def contains (dict : Dict κ ν) (key : κ) : Bool := (dict.get? key).isSome

def set (dict : Dict κ ν) (key : κ) (value : ν) : Dict κ ν :=
  ⟨assign dict.entries key value, assign_nodup dict.entries key value dict.nodup⟩

/-- The entries whose key passes a test. -/
def filter (dict : Dict κ ν) (keep : κ → Bool) : Dict κ ν :=
  ⟨dict.entries.filter fun entry => keep entry.1,
    dict.nodup.sublist (List.filter_sublist.map Prod.fst)⟩

def mapValues {ν' : Type w} (dict : Dict κ ν) (change : ν → ν') : Dict κ ν' :=
  ⟨dict.entries.map fun entry => (entry.1, change entry.2), by
    rw [List.map_map]
    exact dict.nodup⟩

/-- `mapValues` with the key in sight. -/
def mapEntries {ν' : Type w} (dict : Dict κ ν) (change : κ → ν → ν') : Dict κ ν' :=
  ⟨dict.entries.map fun entry => (entry.1, change entry.1 entry.2), by
    rw [List.map_map]
    exact dict.nodup⟩

theorem get?_set (dict : Dict κ ν) (key : κ) (value : ν) (other : κ) :
    (dict.set key value).get? other = if key = other then some value else dict.get? other :=
  lookup_assign dict.entries key value other

theorem assign_same {entries : List (κ × ν)} {key : κ} {value : ν}
    (present : lookup entries key = some value) : assign entries key value = entries := by
  induction entries with
  | nil => cases present
  | cons entry rest ih =>
    rw [lookup] at present
    rw [assign]
    split at present
    · rename_i same
      cases present
      rw [if_pos same, ← same]
    · rename_i other
      rw [if_neg other, ih present]

theorem mem_keys {dict : Dict κ ν} {key : κ} {value : ν} (found : dict.get? key = some value) :
    key ∈ dict.keys := by
  rw [keys, List.mem_map]
  exact ⟨(key, value), mem_of_lookup found, rfl⟩

/-- Assigning what is there changes nothing. -/
theorem set_same {dict : Dict κ ν} {key : κ} {value : ν} (present : dict.get? key = some value) :
    dict.set key value = dict := by
  have entries : (dict.set key value).entries = dict.entries := assign_same present
  cases dict
  rw [set, mk.injEq]
  exact entries

theorem keys_set {dict : Dict κ ν} {key : κ} (value : ν) (present : key ∈ dict.keys) :
    (dict.set key value).keys = dict.keys := assign_present dict.entries key value present

theorem set_comm (dict : Dict κ ν) {key other : κ} (value value' : ν) (apart : key ≠ other)
    (present : key ∈ dict.keys) :
    (dict.set key value).set other value' = (dict.set other value').set key value := by
  simp only [set, mk.injEq]
  exact assign_comm value value' apart present

theorem get?_mapValues {ν' : Type w} (dict : Dict κ ν) (change : ν → ν') (key : κ) :
    (dict.mapValues change).get? key = (dict.get? key).map change := by
  simp only [get?, mapValues]
  induction dict.entries with
  | nil => rfl
  | cons entry rest ih =>
    by_cases here : entry.1 = key <;> simp [lookup, here, ih]

theorem get?_mapEntries {ν' : Type w} (dict : Dict κ ν) (change : κ → ν → ν') (key : κ) :
    (dict.mapEntries change).get? key = (dict.get? key).map (change key) := by
  simp only [get?, mapEntries]
  induction dict.entries with
  | nil => rfl
  | cons entry rest ih =>
    by_cases here : entry.1 = key
    · simp [lookup, here]
    · simp [lookup, here, ih]

omit [DecidableEq κ] in
theorem keys_mapEntries {ν' : Type w} (dict : Dict κ ν) (change : κ → ν → ν') :
    (dict.mapEntries change).keys = dict.keys := by
  rw [keys, keys, mapEntries, List.map_map]
  rfl

omit [DecidableEq κ] in
theorem keys_mapValues {ν' : Type w} (dict : Dict κ ν) (change : ν → ν') :
    (dict.mapValues change).keys = dict.keys := by
  rw [keys, keys, mapValues, List.map_map]
  rfl

/-- Of what each value gives under its own key, a key finds what its value gives. -/
theorem filterMap_own {β : Type w} (dict : Dict κ ν) (give : ν → Option β) (owner : β → κ)
    (owned : ∀ key value given, dict.get? key = some value → give value = some given →
      owner given = key) (key : κ) :
    (dict.entries.filterMap fun entry => give entry.2).filter (fun given => owner given = key) =
      ((dict.get? key).bind give).toList := by
  obtain ⟨entries, nodup⟩ := dict
  have own : ∀ entry ∈ entries, ∀ given, give entry.2 = some given → owner given = entry.1 :=
    fun entry member given => owned entry.1 entry.2 given (lookup_of_mem nodup member)
  clear owned
  simp only [get?]
  induction entries with
  | nil => rfl
  | cons entry rest ih =>
    rw [List.map_cons, List.nodup_cons] at nodup
    have below := ih nodup.2 fun other member => own other (List.mem_cons_of_mem entry member)
    by_cases here : entry.1 = key
    · have absent : lookup rest key = none := by
        rw [lookup_eq_none, ← here]
        exact nodup.1
      rw [absent] at below
      cases given : give entry.2 with
      | none => simpa [lookup, here, given] using below
      | some value =>
        have mine := own entry (by simp) value given
        rw [here] at mine
        simpa [lookup, here, given, mine] using below
    · cases given : give entry.2 with
      | none => simpa [lookup, here, given] using below
      | some value =>
        have other := own entry (by simp) value given
        simpa [lookup, here, given, other] using below

theorem get?_eq_none (dict : Dict κ ν) (key : κ) : dict.get? key = none ↔ key ∉ dict.keys :=
  lookup_eq_none dict.entries key

theorem get?_eq_some (dict : Dict κ ν) (key : κ) (value : ν) :
    dict.get? key = some value ↔ (key, value) ∈ dict.entries :=
  ⟨mem_of_lookup, lookup_of_mem dict.nodup⟩

theorem contains_iff (dict : Dict κ ν) (key : κ) : dict.contains key = true ↔ key ∈ dict.keys := by
  rw [contains, Option.isSome_iff_ne_none, ne_eq, get?_eq_none, not_not]

theorem exists_of_mem_keys {dict : Dict κ ν} {key : κ} (listed : key ∈ dict.keys) :
    ∃ value, dict.get? key = some value := by
  cases found : dict.get? key with
  | none => exact absurd listed ((dict.get?_eq_none key).mp found)
  | some value => exact ⟨value, rfl⟩

theorem entries_set (dict : Dict κ ν) (key : κ) (value : ν) (fresh : key ∉ dict.keys) :
    (dict.set key value).entries = dict.entries ++ [(key, value)] :=
  assign_fresh dict.entries key value fresh

theorem lookup_filter (entries : List (κ × List α)) (nodup : (entries.map Prod.fst).Nodup)
    (key : κ) : ((entries.filter fun entry => entry.1 = key).flatMap Prod.snd) =
      (lookup entries key).getD [] := by
  induction entries with
  | nil => rfl
  | cons entry rest ih =>
    rw [List.map_cons, List.nodup_cons] at nodup
    rw [lookup]
    by_cases same : entry.1 = key
    · have none : lookup rest key = none := by
        rw [lookup_eq_none, ← same]
        exact nodup.1
      rw [if_pos same, List.filter_cons_of_pos (by simpa using same), List.flatMap_cons,
        ih nodup.2, none, Option.getD_none, List.append_nil, Option.getD_some]
    · rw [if_neg same, List.filter_cons_of_neg (by simpa using same)]
      exact ih nodup.2

/-- A comprehension over rows: the last row of a key wins. -/
def ofRows (key : α → κ) (value : α → ν) (rows : List α) : Dict κ ν :=
  rows.foldl (fun dict row => dict.set (key row) (value row)) empty

theorem ofRows_append (key : α → κ) (value : α → ν) (rows : List α) (last : α) :
    ofRows key value (rows ++ [last]) = (ofRows key value rows).set (key last) (value last) := by
  rw [ofRows, List.foldl_append]
  rfl

theorem get?_ofRows (key : α → κ) (value : α → ν) (rows : List α) (wanted : κ) :
    (ofRows key value rows).get? wanted =
      (rows.reverse.find? fun row => key row = wanted).map value := by
  induction rows using List.reverseRecOn with
  | nil => rfl
  | append_singleton rows last ih =>
    rw [ofRows_append, get?_set, List.reverse_append, List.reverse_singleton,
      List.singleton_append, List.find?_cons]
    by_cases same : key last = wanted
    · rw [if_pos same, decide_eq_true same]
      rfl
    · rw [if_neg same, decide_eq_false same, ih]

theorem ofRows_map {β : Type w} (key : β → κ) (value : β → ν) (view : α → β) (rows : List α) :
    ofRows key value (rows.map view) =
      ofRows (fun row => key (view row)) (fun row => value (view row)) rows := by
  rw [ofRows, List.foldl_map]
  rfl

theorem mem_keys_ofRows (key : α → κ) (value : α → ν) (rows : List α) (wanted : κ) :
    wanted ∈ (ofRows key value rows).keys ↔ wanted ∈ rows.map key := by
  rw [← not_iff_not, ← get?_eq_none, get?_ofRows, Option.map_eq_none_iff, List.find?_eq_none]
  simp [List.mem_map]

/-- With distinct keys every row is found under its own. -/
theorem get?_ofRows_of_mem {key : α → κ} {value : α → ν} {rows : List α}
    (nodup : (rows.map key).Nodup) {row : α} (member : row ∈ rows) :
    (ofRows key value rows).get? (key row) = some (value row) := by
  induction rows using List.reverseRecOn with
  | nil => cases member
  | append_singleton rows last ih =>
    rw [ofRows_append, get?_set]
    rw [List.map_append, List.map_singleton, List.nodup_append] at nodup
    rcases List.mem_append.mp member with old | fresh
    · have other : key last ≠ key row :=
        (nodup.2.2 (key row) (List.mem_map_of_mem old) (key last) (by simp)).symm
      rw [if_neg other]
      exact ih nodup.1 old
    · rw [List.mem_singleton.mp fresh, if_pos rfl]

theorem mem_entries_set {dict : Dict κ ν} {key : κ} {value : ν} {entry : κ × ν}
    (member : entry ∈ (dict.set key value).entries) :
    entry = (key, value) ∨ entry ∈ dict.entries := by
  have found := ((dict.set key value).get?_eq_some entry.1 entry.2).mpr member
  rw [get?_set] at found
  split at found
  · rename_i same
    cases found
    exact Or.inl (Prod.ext same.symm rfl)
  · exact Or.inr ((dict.get?_eq_some entry.1 entry.2).mp found)

omit [DecidableEq κ] in
theorem mem_entries_filter {dict : Dict κ ν} {keep : κ → Bool} {entry : κ × ν} :
    entry ∈ (dict.filter keep).entries ↔ entry ∈ dict.entries ∧ keep entry.1 = true :=
  List.mem_filter

/-- `pop` of one key. -/
def erase (dict : Dict κ ν) (key : κ) : Dict κ ν := dict.filter fun other => other ≠ key

theorem get?_erase (dict : Dict κ ν) (key other : κ) :
    (dict.erase key).get? other = if key = other then none else dict.get? other := by
  apply Option.ext
  intro value
  rw [get?_eq_some, erase, mem_entries_filter]
  by_cases same : key = other
  · simp [same]
  · have kept : other ≠ key := fun equal => same equal.symm
    simp [same, kept, get?_eq_some]

/-- `defaultdict(list)`: append to the list under a key. -/
def push (dict : Dict κ (List α)) (key : κ) (item : α) : Dict κ (List α) :=
  dict.set key ((dict.get? key).getD [] ++ [item])

/-- The lists a sequence of appends builds, keyed by first appearance. -/
def group (items : List (κ × α)) : Dict κ (List α) :=
  items.foldl (fun dict item => dict.push item.1 item.2) empty

theorem group_append (items : List (κ × α)) (last : κ × α) :
    group (items ++ [last]) = (group items).push last.1 last.2 := by
  rw [group, List.foldl_append]
  rfl

/-- The items of one key, in the order they came. -/
def under (items : List (κ × α)) (key : κ) : List α :=
  (items.filter fun item => item.1 = key).map Prod.snd

theorem under_append (first second : List (κ × α)) (key : κ) :
    under (first ++ second) key = under first key ++ under second key := by
  rw [under, List.filter_append, List.map_append]
  rfl

theorem under_eq_nil (items : List (κ × α)) (key : κ) :
    under items key = [] ↔ key ∉ items.map Prod.fst := by
  simp only [under, List.map_eq_nil_iff, List.filter_eq_nil_iff, decide_eq_true_eq, List.mem_map]
  constructor
  · rintro none ⟨item, member, same⟩
    exact none item member same
  · exact fun none item member same => none ⟨item, member, same⟩

theorem get?_group (items : List (κ × α)) (key : κ) :
    (group items).get? key =
      if key ∈ items.map Prod.fst then some (under items key) else none := by
  induction items using List.reverseRecOn with
  | nil => rfl
  | append_singleton items last ih =>
    rw [group_append, push, get?_set, under_append]
    by_cases same : last.1 = key
    · have latest : under [last] key = [last.2] := by simp [under, same]
      have present : key ∈ (items ++ [last]).map Prod.fst := by simp [← same]
      rw [if_pos same, if_pos present, same, ih, latest]
      split
      · rfl
      · rename_i absent
        rw [(under_eq_nil items key).mpr absent]
        rfl
    · have latest : under [last] key = [] := by simp [under, same]
      rw [if_neg same, ih, latest, List.append_nil, List.map_append, List.map_singleton]
      simp only [List.mem_append, List.mem_singleton, Ne.symm same, or_false]

theorem mem_keys_group (items : List (κ × α)) (key : κ) :
    key ∈ (group items).keys ↔ key ∈ items.map Prod.fst := by
  rw [← not_iff_not, ← get?_eq_none, get?_group]
  split <;> simp_all

theorem mem_entries_group {items : List (κ × α)} {entry : κ × List α}
    (member : entry ∈ (group items).entries) : entry.2 = under items entry.1 := by
  have found := ((group items).get?_eq_some entry.1 entry.2).mpr member
  rw [get?_group] at found
  split at found
  · exact (Option.some.inj found).symm
  · cases found

theorem group_filter (items : List (κ × α)) (key : κ) :
    (((group items).entries.filter fun entry => entry.1 = key).flatMap Prod.snd) =
      under items key := by
  rw [lookup_filter _ (group items).nodup]
  change ((group items).get? key).getD [] = _
  rw [get?_group]
  split
  · rfl
  · rename_i absent
    rw [(under_eq_nil items key).mpr absent]
    rfl

/-- Entries set one by one, each from what its key holds. -/
def upsert (change : Option ν → α → ν) (dict : Dict κ ν) (entries : List (κ × α)) : Dict κ ν :=
  entries.foldl (fun dict entry => dict.set entry.1 (change (dict.get? entry.1) entry.2)) dict

theorem get?_upsert (change : Option ν → α → ν) {entries : List (κ × α)} (dict : Dict κ ν)
    (nodup : (entries.map Prod.fst).Nodup) (key : κ) :
    (upsert change dict entries).get? key =
      match lookup entries key with
      | none => dict.get? key
      | some item => some (change (dict.get? key) item) := by
  induction entries generalizing dict with
  | nil => rfl
  | cons entry rest ih =>
    rw [List.map_cons, List.nodup_cons] at nodup
    rw [lookup]
    refine (ih (dict.set entry.1 (change (dict.get? entry.1) entry.2)) nodup.2).trans ?_
    rw [get?_set]
    by_cases same : entry.1 = key
    · have absent : lookup rest key = none := by
        rw [lookup_eq_none, ← same]
        exact nodup.1
      rw [absent, if_pos same, if_pos same, same]
    · rw [if_neg same, if_neg same]

theorem upsert_same {change : Option ν → α → ν} {dict : Dict κ ν} {entries : List (κ × α)}
    (held : ∀ entry ∈ entries, ∃ value, dict.get? entry.1 = some value ∧
      change (some value) entry.2 = value) : upsert change dict entries = dict := by
  induction entries with
  | nil => rfl
  | cons entry rest ih =>
    obtain ⟨⟨value, present, same⟩, later⟩ := List.forall_mem_cons.mp held
    unfold upsert
    rw [List.foldl_cons, present, same, set_same present]
    exact ih later

/-- Entries that change nothing the second time. -/
theorem upsert_twice {change : Option ν → α → ν} (dict : Dict κ ν) {entries : List (κ × α)}
    (nodup : (entries.map Prod.fst).Nodup)
    (again : ∀ old, ∀ entry ∈ entries, change (some (change old entry.2)) entry.2 = change old entry.2) :
    upsert change (upsert change dict entries) entries = upsert change dict entries := by
  apply upsert_same
  intro entry member
  refine ⟨change (dict.get? entry.1) entry.2, ?_, again _ entry member⟩
  rw [get?_upsert change dict nodup, lookup_of_mem nodup member]

end Dict
