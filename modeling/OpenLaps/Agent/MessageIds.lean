import OpenLaps.Agent.WindowRules

/- The message ids of a run: which staged stamps make two batches share one. -/
namespace OpenLaps.Pipeline

/-- The calls the pipeline thread makes. -/
inductive Call where
  | ingest (sourceClass : String) (sample : Sample)
  | flush

/-- The state after a call, and the batches it returned; a call that raises returns none. -/
def call (settings : Settings) (state : State) : Call → State × List (TickBatch SampleBatch)
  | .ingest sourceClass sample => (ingest settings state sourceClass sample, [])
  | .flush =>
      match flush settings state with
      | (next, .ok batches) => (next, batches)
      | (next, .error _) => (next, [])

/-- Every batch returned by the flush calls of a run, in order. -/
def returned (settings : Settings) : State → List Call → List (TickBatch SampleBatch)
  | _, [] => []
  | state, first :: rest =>
      (call settings state first).2 ++ returned settings (call settings state first).1 rest

/-- What was staged at each flush call of a run. -/
def flushed (settings : Settings) : State → List Call → List (List Staged)
  | _, [] => []
  | state, .ingest sourceClass sample :: rest =>
      flushed settings (ingest settings state sourceClass sample) rest
  | state, .flush :: rest => state.staged :: flushed settings (flush settings state).1 rest

/-- The source classes a window holds samples of. -/
def classes (window : Windows.Window Staged) : List String := window.items.map Prod.fst

/-- A tick of the samples staged at a flush. Their earliest stamp opens the first one, the
earliest stamp a tick or more later the next; a tick holds what is stamped before its end. -/
def TickOf (settings : Settings) (staged : List Staged) (tick : Windows.Window Staged) : Prop :=
  Windows.Opens (Batcher.tickNs settings.tickMs) (staged.map stamp) (tick.anchor stamp) ∧
    tick.items = (sortStaged staged).filter fun entry =>
      tick.anchor stamp ≤ stamp entry ∧
        stamp entry < tick.anchor stamp + Batcher.tickNs settings.tickMs

/-- The stamp and its wall clock fit 64 bits; half a millisecond before zero rounds to zero. -/
def StampFits (c : ℚ) (tMonoNs : Int) : Prop :=
  (-(1 / 2) ≤ wallClockAt c tMonoNs ∧ wallClockAt c tMonoNs < 2 ^ 64 - 1 / 2) ∧
    (0 ≤ tMonoNs ∧ tMonoNs < 2 ^ 64)

/-- Everything in the tick can be encoded. -/
def Sent (settings : Settings) (c : ℚ) (tick : Windows.Window Staged) : Prop :=
  StampFits c (tick.anchor stamp) ∧ ∀ item ∈ tick.items, Encodable settings item.2

/-- No tick has an overflow as the first value that cannot be encoded, class by class. -/
def Returns (settings : Settings) (c : ℚ) (staged : List Staged) : Prop :=
  ∀ tick, TickOf settings staged tick → StampFits c (tick.anchor stamp) →
    ∀ before entry after policy, encodeOrder tick = before ++ entry :: after →
      (∀ earlier ∈ before, Encodable settings earlier) →
      settings.catalog.policiesById.get? entry.1 = some policy →
      ¬Overflowing entry.2.value policy

/-- The wall clock is nearest to one millisecond at both stamps. -/
def OneMillisecond (c : ℚ) (first second : Int) : Prop :=
  ∃ ms, Rounding.Nearest (wallClockAt c first) ms ∧ Rounding.Nearest (wallClockAt c second) ms

/-- No tick of the one flush and tick of the other that hold samples of one source class open
in one millisecond, of those that are sent. -/
def TicksApart (settings : Settings) (c : ℚ) (earlier later : List Staged) : Prop :=
  Returns settings c earlier → Returns settings c later →
    ∀ tick other, TickOf settings earlier tick → TickOf settings later other →
      Sent settings c tick → Sent settings c other →
      (∃ sourceClass ∈ classes tick, sourceClass ∈ classes other) →
      ¬OneMillisecond c (tick.anchor stamp) (other.anchor stamp)

theorem isDigit_of_mem_repr {number : Nat} {char : Char} (member : char ∈ number.repr.toList) :
    char.isDigit = true :=
  Nat.isDigit_of_mem_toDigits (by decide) (by decide)
    (show char ∈ Nat.toDigits 10 number by simpa [Nat.repr] using member)

theorem colon_not_in_number (value : Int) : ':' ∉ (toString value).toList := by
  have digits : ∀ number : Nat, ':' ∉ number.repr.toList :=
    fun number member => absurd (isDigit_of_mem_repr member) (by decide)
  rw [Int.toString_eq_repr, Int.repr_eq_if]
  split
  · exact digits value.toNat
  · rw [String.toList_append, List.mem_append]
    rintro (sign | number)
    · exact absurd sign (by decide)
    · exact digits (-value).toNat number

/-- A number is read back from its decimals. -/
theorem toString_injective {first second : Int} (same : toString first = toString second) :
    first = second := by
  let read := fun text : List Char =>
    if text.head? = some '-' then -(Nat.ofDigitChars 10 text.tail 0 : Int)
    else Nat.ofDigitChars 10 text 0
  have digits : ∀ number : Nat, Nat.ofDigitChars 10 number.repr.toList 0 = number := by
    intro number
    rw [Nat.repr, String.toList_ofList, Nat.ofDigitChars_ten_toDigits]
  have back : ∀ value : Int, read (toString value).toList = value := by
    intro value
    rw [Int.toString_eq_repr, Int.repr_eq_if]
    split
    · have unsigned : value.toNat.repr.toList.head? ≠ some '-' := fun signed =>
        absurd (isDigit_of_mem_repr (List.mem_of_mem_head? signed)) (by decide)
      show (if _ then _ else _) = _
      rw [if_neg unsigned, digits]
      omega
    · rw [String.toList_append]
      show -(Nat.ofDigitChars 10 (-value).toNat.repr.toList 0 : Int) = value
      rw [digits]
      omega
  rw [← back first, ← back second, same]

/-- A message id determines its source class and its epoch. -/
theorem msgId_inj {sourceClass other : String} {epoch epoch' : Int}
    (same : msgId sourceClass epoch = msgId other epoch') :
    sourceClass = other ∧ epoch = epoch' := by
  have chars := congrArg (fun text => text.toList.reverse) same
  simp only [msgId, String.toList_append, List.reverse_append, List.append_assoc] at chars
  have absent : ∀ value : Int, ':' ∉ (toString value).toList.reverse :=
    fun value member => colon_not_in_number value (List.mem_reverse.mp member)
  have parts := Text.split_at_separator (absent epoch) (absent epoch') chars
  constructor
  · exact String.toList_inj.mp (List.reverse_injective parts.2)
  · exact toString_injective (String.toList_inj.mp (List.reverse_injective parts.1))

section

variable {settings : Settings} {staged : List Staged}

/-- The ids of a window's batches: one for each of its classes, if it survives. -/
theorem delivered_ids {window : Windows.Window Staged}
    (within : window.Within stamp (Batcher.tickNs settings.tickMs)) :
    (delivered settings window).map TickBatch.msgId = [] ∧ ¬ Survives settings window ∨
      (delivered settings window).map TickBatch.msgId =
        (Dict.group window.items).keys.map (fun sourceClass =>
          msgId sourceClass (epochUnixMs settings window)) ∧ Survives settings window := by
  unfold delivered
  cases outcome : windowOutcome settings window with
  | error error =>
      left
      refine ⟨rfl, ?_⟩
      intro survives
      obtain ⟨emitted, succeeded⟩ := (windowOutcome_ok within).mpr survives
      rw [outcome] at succeeded
      cases succeeded
  | ok emitted =>
      right
      refine ⟨?_, (windowOutcome_ok within).mp ⟨emitted, outcome⟩⟩
      have keys : emitted.map Prod.fst = (Dict.group window.items).keys := by
        have matched := Attempt.all_ok outcome
        clear outcome
        unfold Dict.keys
        generalize (Dict.group window.items).entries = entries at matched
        induction matched with
        | nil => rfl
        | cons here _ ih =>
            rw [List.map_cons, List.map_cons, ih]
            congr 1
            unfold Batcher.encodeClass at here
            split at here
            · cases here
            · split at here
              · cases here
              · split at here
                · cases here
                · cases here
                  rfl
      rw [← keys, List.map_map, List.map_map]
      rfl

theorem mem_delivered_ids {window : Windows.Window Staged} {id : String}
    (within : window.Within stamp (Batcher.tickNs settings.tickMs)) :
    id ∈ (delivered settings window).map TickBatch.msgId ↔
      Survives settings window ∧ ∃ sourceClass ∈ classes window,
        id = msgId sourceClass (epochUnixMs settings window) := by
  rcases delivered_ids within with ⟨none, discarded⟩ | ⟨ids, survives⟩
  · rw [none]
    constructor
    · exact fun member => absurd member List.not_mem_nil
    · exact fun found => absurd found.1 discarded
  · rw [ids, List.mem_map]
    constructor
    · rintro ⟨sourceClass, member, same⟩
      exact ⟨survives, sourceClass, (Dict.mem_keys_group _ _).mp member, same.symm⟩
    · rintro ⟨_, sourceClass, member, same⟩
      exact ⟨sourceClass, (Dict.mem_keys_group _ _).mpr member, same.symm⟩

theorem delivered_ids_nodup {window : Windows.Window Staged}
    (within : window.Within stamp (Batcher.tickNs settings.tickMs)) :
    ((delivered settings window).map TickBatch.msgId).Nodup := by
  rcases delivered_ids within with ⟨none, _⟩ | ⟨ids, _⟩
  · rw [none]
    exact List.nodup_nil
  · rw [ids]
    exact (Dict.group window.items).nodup.map fun _ _ same => (msgId_inj same).1

theorem mem_windows {window : Windows.Window Staged} :
    window ∈ windows settings staged ↔ TickOf settings staged window := by
  have positive := tickNs_pos settings
  have same : ∀ value, value ∈ (sortStaged staged).map stamp ↔ value ∈ staged.map stamp :=
    fun value => ((sortStaged_perm staged).map stamp).mem_iff
  unfold windows TickOf
  rw [Windows.mem_split (by omega) (sortStaged_sorted staged), Windows.opens_congr same]

theorem epochFits_iff {c : ℚ} (clock : settings.wallClock = wallClockAt c)
    (window : Windows.Window Staged) :
    EpochFits settings window ↔ StampFits c (window.anchor stamp) := by
  have below : Rounding.halfEven (wallClockAt c (window.anchor stamp)) < 0 ↔ _ :=
    Rounding.halfEven_lt_iff (by decide)
  have above : Rounding.halfEven (wallClockAt c (window.anchor stamp)) < 2 ^ 64 ↔ _ :=
    Rounding.halfEven_lt_iff (by decide)
  unfold EpochFits epochUnixMs StampFits
  rw [clock, above, ← not_lt, below, ← not_lt]
  norm_num

theorem survives_iff {c : ℚ} (clock : settings.wallClock = wallClockAt c)
    (window : Windows.Window Staged) : Survives settings window ↔ Sent settings c window := by
  unfold Survives Sent
  rw [epochFits_iff clock]

theorem returns_iff {c : ℚ} (clock : settings.wallClock = wallClockAt c) :
    Returns settings c staged ↔ ∀ window ∈ windows settings staged, ¬Overflows settings window := by
  unfold Returns Overflows
  constructor
  · rintro quiet window found ⟨fits, before, entry, after, policy, order, fine, known, large⟩
    exact quiet window (mem_windows.mp found) ((epochFits_iff clock window).mp fits) before entry
      after policy order fine known large
  · intro quiet tick opened fits before entry after policy order fine known large
    exact quiet tick (mem_windows.mpr opened) ⟨(epochFits_iff clock tick).mpr fits, before, entry,
      after, policy, order, fine, known, large⟩

/-- The message ids one flush call returns. -/
def flushIds (settings : Settings) (staged : List Staged) : List String :=
  if (windows settings staged).any (raises settings) then []
  else (windows settings staged).flatMap fun window =>
    (delivered settings window).map TickBatch.msgId

theorem any_raises {c : ℚ} (clock : settings.wallClock = wallClockAt c)
    (known : ∀ entry ∈ staged, settings.catalog.policiesById.contains entry.2.1 = true) :
    (windows settings staged).any (raises settings) = true ↔ ¬Returns settings c staged := by
  rw [returns_iff clock, List.any_eq_true]
  constructor
  · rintro ⟨window, found, raised⟩ quiet
    exact quiet window found ((raises_iff (windows_within settings staged window found)
      fun item member => known item (mem_staged_of_window found member)).mp raised)
  · intro some
    by_contra none
    apply some
    intro window found overflows
    apply none
    exact ⟨window, found, (raises_iff (windows_within settings staged window found)
      fun item member => known item (mem_staged_of_window found member)).mpr overflows⟩

theorem mem_flushIds {c : ℚ} (clock : settings.wallClock = wallClockAt c) {id : String}
    (known : ∀ entry ∈ staged, settings.catalog.policiesById.contains entry.2.1 = true) :
    id ∈ flushIds settings staged ↔ Returns settings c staged ∧
      ∃ tick, TickOf settings staged tick ∧ Sent settings c tick ∧
        ∃ sourceClass ∈ classes tick, id = msgId sourceClass (epochUnixMs settings tick) := by
  unfold flushIds
  by_cases returns : Returns settings c staged
  · rw [if_neg fun raised => (any_raises clock known).mp raised returns, List.mem_flatMap]
    constructor
    · rintro ⟨window, found, member⟩
      obtain ⟨survives, named⟩ :=
        (mem_delivered_ids (windows_within settings staged window found)).mp member
      exact ⟨returns, window, mem_windows.mp found, (survives_iff clock window).mp survives, named⟩
    · rintro ⟨_, tick, opened, sent, named⟩
      have found := mem_windows.mpr opened
      exact ⟨tick, found, (mem_delivered_ids (windows_within settings staged tick found)).mpr
        ⟨(survives_iff clock tick).mpr sent, named⟩⟩
  · rw [if_pos ((any_raises clock known).mpr returns)]
    constructor
    · exact fun member => absurd member List.not_mem_nil
    · exact fun found => absurd found.1 returns

/-- Two ticks have one epoch when they open in one millisecond. -/
theorem epochUnixMs_eq_iff {c : ℚ} (clock : settings.wallClock = wallClockAt c)
    (tick other : Windows.Window Staged) :
    epochUnixMs settings tick = epochUnixMs settings other ↔
      OneMillisecond c (tick.anchor stamp) (other.anchor stamp) := by
  unfold epochUnixMs OneMillisecond
  rw [clock, Rounding.halfEven_eq_iff]
  constructor
  · exact fun nearest => ⟨_, nearest, Rounding.halfEven_nearest _⟩
  · rintro ⟨ms, nearest, nearest'⟩
    rwa [Rounding.halfEven_eq_iff.mpr nearest']

end

/-- Anchors a tick apart round to different milliseconds. -/
theorem halfEven_apart (c : ℚ) {first second : Int} (apart : first + 10000000 ≤ second) :
    Rounding.halfEven (wallClockAt c first) < Rounding.halfEven (wallClockAt c second) := by
  apply Rounding.halfEven_lt
  have gap : (first : ℚ) + 10000000 ≤ second := by exact_mod_cast apart
  unfold wallClockAt
  linarith

/-- Within one flush call no two batches share an id. -/
theorem flushIds_nodup (settings : Settings) (c : ℚ) (clock : settings.wallClock = wallClockAt c)
    (staged : List Staged) : (flushIds settings staged).Nodup := by
  unfold flushIds
  split
  · exact List.nodup_nil
  · rw [List.nodup_flatMap]
    refine ⟨fun window found =>
      delivered_ids_nodup (windows_within settings staged window found), ?_⟩
    refine (windows_apart settings staged).imp_of_mem ?_
    intro earlier late found found' apart id member member'
    obtain ⟨_, _, _, same⟩ :=
      (mem_delivered_ids (windows_within settings staged earlier found)).mp member
    obtain ⟨_, _, _, same'⟩ :=
      (mem_delivered_ids (windows_within settings staged late found')).mp member'
    have epochs := (msgId_inj (same.symm.trans same')).2
    have order := halfEven_apart c apart
    unfold epochUnixMs at epochs
    rw [clock] at epochs
    omega

theorem call_ready (settings : Settings) (state : State) (ready : Ready settings state)
    (next : Call) : Ready settings (call settings state next).1 := by
  cases next with
  | ingest sourceClass sample => exact ingest_ready settings state sourceClass sample ready
  | flush =>
      have kept := (flush_eq settings state ready).1
      unfold call
      dsimp only
      split
      · rename_i final batches same
        rw [same] at kept
        exact kept
      · rename_i final error same
        rw [same] at kept
        exact kept

/-- The ids a flush call returns are those of its surviving windows. -/
theorem call_flush_ids (settings : Settings) (state : State) (ready : Ready settings state) :
    (call settings state .flush).2.map TickBatch.msgId = flushIds settings state.staged := by
  have outcome := flush_eq settings state ready
  unfold call flushIds
  dsimp only
  by_cases raised : (windows settings state.staged).any (raises settings) = true
  · rw [if_pos raised]
    rw [List.any_eq_true] at raised
    obtain ⟨error, failed⟩ := outcome.2.2 raised
    split
    · rename_i final batches same
      rw [same] at failed
      cases failed
    · rfl
  · rw [if_neg raised]
    have quiet : ∀ window ∈ windows settings state.staged, raises settings window = false := by
      intro window found
      by_contra loud
      exact raised (List.any_eq_true.mpr ⟨window, found, by simpa using loud⟩)
    have succeeded := outcome.2.1 quiet
    split
    · rename_i final batches same
      rw [same] at succeeded
      cases succeeded
      rw [List.map_flatMap]
    · rename_i final error same
      rw [same] at succeeded
      cases succeeded

/-- The ids of a run, flush call by flush call. -/
theorem returned_ids (settings : Settings) (state : State) (ready : Ready settings state)
    (calls : List Call) :
    (returned settings state calls).map TickBatch.msgId =
        (flushed settings state calls).flatMap (flushIds settings) ∧
      ∀ staged ∈ flushed settings state calls, ∀ entry ∈ staged,
        settings.catalog.policiesById.contains entry.2.1 = true := by
  induction calls generalizing state with
  | nil => exact ⟨rfl, fun _ member => absurd member List.not_mem_nil⟩
  | cons first rest ih =>
      have later := ih _ (call_ready settings state ready first)
      cases first with
      | ingest sourceClass sample => exact later
      | flush =>
          have same : (call settings state .flush).1 = (flush settings state).1 := by
            unfold call
            dsimp only
            split <;> simp_all
          rw [same] at later
          refine ⟨?_, ?_⟩
          · rw [returned, same, List.map_append, call_flush_ids settings state ready, later.1]
            rfl
          · intro staged member
            rcases List.mem_cons.mp member with here | below
            · rw [here]
              exact ready.known
            · exact later.2 staged below

/-- For every run of ingest and flush calls, no two returned batches share a message id
exactly when the stamps staged at any two flushes keep their ticks apart. -/
theorem message_ids_distinct_iff (settings : Settings) (c : ℚ) (calls : List Call) :
    ((returned { settings with wallClock := wallClockAt c } init calls).map
        TickBatch.msgId).Nodup ↔
      (flushed { settings with wallClock := wallClockAt c } init calls).Pairwise
        (TicksApart { settings with wallClock := wallClockAt c } c) := by
  generalize same : ({ settings with wallClock := wallClockAt c } : Settings) = clocked
  have clock : clocked.wallClock = wallClockAt c := by rw [← same]
  obtain ⟨ids, known⟩ := returned_ids clocked init (init_ready clocked) calls
  rw [ids, List.nodup_flatMap]
  have pairs : ∀ earlier ∈ flushed clocked init calls, ∀ later ∈ flushed clocked init calls,
      List.Disjoint (flushIds clocked earlier) (flushIds clocked later) ↔
        TicksApart clocked c earlier later := by
    intro earlier member later member'
    constructor
    · intro disjoint returns returns' tick other opened opened' sent sent' common together
      obtain ⟨sourceClass, inside, inside'⟩ := common
      apply disjoint
      · exact (mem_flushIds clock (known earlier member)).mpr
          ⟨returns, tick, opened, sent, sourceClass, inside, rfl⟩
      · exact (mem_flushIds clock (known later member')).mpr
          ⟨returns', other, opened', sent', sourceClass, inside', by
            rw [(epochUnixMs_eq_iff clock tick other).mpr together]⟩
    · intro apart id listed listed'
      obtain ⟨returns, tick, opened, sent, sourceClass, inside, named⟩ :=
        (mem_flushIds clock (known earlier member)).mp listed
      obtain ⟨returns', other, opened', sent', sourceClass', inside', named'⟩ :=
        (mem_flushIds clock (known later member')).mp listed'
      obtain ⟨classes, epochs⟩ := msgId_inj (named.symm.trans named')
      subst classes
      exact apart returns returns' tick other opened opened' sent sent'
        ⟨sourceClass, inside, inside'⟩ ((epochUnixMs_eq_iff clock tick other).mp epochs)
  constructor
  · intro distinct
    exact distinct.2.imp_of_mem fun {earlier later} member member' disjoint =>
      (pairs earlier member later member').mp disjoint
  · intro apart
    refine ⟨fun staged _ => flushIds_nodup clocked c clock staged, ?_⟩
    exact apart.imp_of_mem fun {earlier later} member member' =>
      (pairs earlier member later member').mpr

/-- One unscaled channel, fed from a CAN signal. -/
def rpmPolicy : ChannelPolicy := ⟨"car.rpm", .double, none, 0, 0⟩

def rpmCatalog : RuntimeCatalog :=
  ⟨⟨[("can0:ecu.ENGINE.rpm", (1, rpmPolicy))], by decide⟩, ⟨[("car.rpm", 1)], by decide⟩,
    ⟨[(1, rpmPolicy)], by decide⟩,
    ⟨1, "car7", 0, [⟨1, "car.rpm", "can0:ecu.ENGINE.rpm", "rpm", .double, 0, 0⟩]⟩, ""⟩

def rpmSettings : Settings :=
  { catalog := rpmCatalog
    tickMs := 20
    wallClock := wallClockAt 1000
    f32 := id
    bounds := defaultTick_bounds
    resolves := by
      intro sourceRef entry mapped
      rw [Dict.get?_eq_some] at mapped
      cases List.mem_singleton.mp mapped
      decide }

def rpmSample (tMonoNs : Int) : Sample :=
  ⟨"can0:ecu.ENGINE.rpm", tMonoNs, 1000, .float (.finite 3000)⟩

/-- Two samples a tenth of a microsecond apart, with a flush between them. -/
def splitTick : List Call :=
  [.ingest "can0" (rpmSample 0), .flush, .ingest "can0" (rpmSample 100), .flush]

/-- A flush in the middle of a millisecond gives two batches one id. -/
theorem split_tick_reuses_id :
    ¬ ((returned { rpmSettings with wallClock := wallClockAt 1000 } init splitTick).map
      TickBatch.msgId).Nodup := by
  decide +kernel

end OpenLaps.Pipeline
