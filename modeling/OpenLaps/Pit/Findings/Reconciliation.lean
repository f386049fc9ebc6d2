import OpenLaps.Lib.Machine
import OpenLaps.Pit.Findings.Database

/- When the map in memory and the open rows agree. A call is the list of statements
it sends; a statement that fails takes the rows back but leaves the map as it has
become, so the two agree exactly as long as no call fails after the map has changed. -/
namespace OpenLaps.Findings

/-- One statement of a call, with what the code does to its map around it. -/
inductive Statement where
  | plain
  | report (finding : Finding)
  | close (monitor : String)

/-- What has happened in memory when the statement is sent. -/
def Statement.begun (system : System) : Statement → System
  | .plain => system
  | .report finding =>
    if system.openFindings.contains finding.monitor then system
    else { system with uuids := system.uuids + 1 }
  | .close monitor => { system with openFindings := system.openFindings.erase monitor }

/-- What has happened when it has succeeded. -/
def Statement.done (time : Int) (system : System) : Statement → System
  | .plain => system
  | .report finding =>
    match system.openFindings.get? finding.monitor with
    | none =>
      { rows := system.rows ++ [newRow system.uuids time finding],
        openFindings := system.openFindings.set finding.monitor system.uuids,
        uuids := system.uuids + 1 }
    | some id => { system with rows := system.rows.map (updateRow finding id) }
  | .close monitor =>
    match system.openFindings.get? monitor with
    | none => system
    | some id =>
      { system with rows := system.rows.map (closeRow time id),
                    openFindings := system.openFindings.erase monitor }

/-- The statements a call sends, from the map it finds. -/
def statements (service : Service) (openFindings : Dict String Nat) (findings : List Finding) :
    List Statement :=
  service.preamble.map (fun _ => .plain) ++
    ((activeFindings findings).entries.map Prod.snd).map .report ++
    (openFindings.keys.filter fun monitor => !(activeFindings findings).contains monitor).map .close ++
    [.plain]

def perform (time : Int) (statement : Statement) (work : Work) : Except System Work :=
  if work.failsAt = some 0 then
    .error (statement.begun work.toSystem)
  else
    .ok ⟨statement.done time work.toSystem, work.failsAt.map (· - 1)⟩

section Statements

theorem get?_done_close (time : Int) (system : System) (monitor other : String) :
    ((Statement.close monitor).done time system).openFindings.get? other =
      if monitor = other then none else system.openFindings.get? other := by
  simp only [Statement.done]
  cases found : system.openFindings.get? monitor with
  | none =>
    by_cases same : monitor = other
    · rw [if_pos same, ← same, found]
    · rw [if_neg same]
  | some id => exact Dict.get?_erase _ monitor other

theorem get?_done_report (time : Int) (system : System) (finding : Finding) {other : String}
    (differs : finding.monitor ≠ other) :
    ((Statement.report finding).done time system).openFindings.get? other =
      system.openFindings.get? other := by
  simp only [Statement.done]
  split
  · rw [Dict.get?_set, if_neg differs]
  · rfl

theorem isSome_done_report (time : Int) (system : System) (finding : Finding) :
    (((Statement.report finding).done time system).openFindings.get? finding.monitor).isSome =
      true := by
  simp only [Statement.done]
  cases found : system.openFindings.get? finding.monitor with
  | none => simp [Dict.get?_set]
  | some id => simp [found]

theorem execute_plain (time : Int) (work : Work) :
    execute (fun rows => rows) work = perform time .plain work := rfl

theorem openFinding_eq (time : Int) (finding : Finding) (work : Work) :
    openFinding time finding work = perform time (.report finding) work := by
  unfold openFinding perform execute
  cases found : work.openFindings.get? finding.monitor with
  | none =>
    by_cases fails : work.failsAt = some 0
    · simp [fails, Statement.begun, Dict.contains, found]
    · simp [fails, Statement.done, found]
  | some id =>
    by_cases fails : work.failsAt = some 0
    · simp [fails, Statement.begun, Dict.contains, found]
    · simp [fails, Statement.done, found]

theorem closeFinding_eq (time : Int) {active : Dict String Finding} {monitor : String} {work : Work}
    (inactive : active.contains monitor = false) (present : monitor ∈ work.openFindings.keys) :
    closeFinding time active monitor work = perform time (.close monitor) work := by
  unfold closeFinding perform execute
  rw [← Dict.contains_iff, Dict.contains, Option.isSome_iff_exists] at present
  obtain ⟨id, found⟩ := present
  by_cases fails : work.failsAt = some 0
  · simp [inactive, found, fails, Statement.begun]
  · simp [inactive, found, fails, Statement.done]

theorem forEach_congr {α : Type} {first second : α → Work → Except System Work} (items : List α)
    (work : Work) (same : ∀ item work, first item work = second item work) :
    forEach first items work = forEach second items work := by
  have equal : first = second := funext fun item => funext fun work => same item work
  rw [equal]

theorem forEach_map {α β : Type} (turn : β → Work → Except System Work) (view : α → β)
    (items : List α) (work : Work) :
    forEach turn (items.map view) work = forEach (fun item => turn (view item)) items work := by
  induction items generalizing work with
  | nil => rfl
  | cons item rest ih => simp only [List.map_cons, forEach, ih]

theorem forEach_append {α : Type} (turn : α → Work → Except System Work) (first second : List α)
    (work : Work) : forEach turn (first ++ second) work =
      match forEach turn first work with
      | .error left => .error left
      | .ok done => forEach turn second done := by
  induction first generalizing work with
  | nil => rfl
  | cons item rest ih =>
    simp only [List.cons_append, forEach]
    cases turn item work with
    | error left => rfl
    | ok done => exact ih done

/-- The loop over the open findings sends a close for each one that is not active. -/
theorem forEach_closeFinding (time : Int) (active : Dict String Finding) (monitors : List String)
    (work : Work) (nodup : monitors.Nodup)
    (present : ∀ monitor ∈ monitors, monitor ∈ work.openFindings.keys) :
    forEach (closeFinding time active) monitors work =
      forEach (perform time)
        ((monitors.filter fun monitor => !active.contains monitor).map .close) work := by
  induction monitors generalizing work with
  | nil => rfl
  | cons monitor rest ih =>
    rw [List.nodup_cons] at nodup
    have later : ∀ other ∈ rest, other ∈ work.openFindings.keys :=
      fun other member => present other (List.mem_cons_of_mem monitor member)
    cases kept : active.contains monitor with
    | true =>
      rw [List.filter_cons_of_neg (by simp [kept]), forEach, closeFinding, if_pos kept]
      exact ih work nodup.2 later
    | false =>
      have here := present monitor List.mem_cons_self
      rw [List.filter_cons_of_pos (by simp [kept]), List.map_cons, forEach, forEach,
        closeFinding_eq time kept here]
      by_cases fails : work.failsAt = some 0
      · rw [perform, if_pos fails]
      · rw [perform, if_neg fails]
        apply ih _ nodup.2
        -- popping one monitor leaves the others
        intro other member
        have differs : monitor ≠ other := fun same => nodup.1 (same ▸ member)
        have still := later other member
        rw [← Dict.contains_iff, Dict.contains] at still ⊢
        rw [get?_done_close, if_neg differs]
        exact still

/-- Reports of active findings leave the inactive keys of the map alone. -/
theorem keys_report {time : Int} {system : System} {finding : Finding}
    {active : Dict String Finding} (kept : active.contains finding.monitor = true) :
    ((Statement.report finding).done time system).openFindings.keys.filter
        (fun monitor => !active.contains monitor) =
      system.openFindings.keys.filter fun monitor => !active.contains monitor := by
  simp only [Statement.done]
  split
  · rename_i fresh
    rw [Dict.keys, Dict.entries_set _ _ _ ((Dict.get?_eq_none _ _).mp fresh), List.map_append,
      List.filter_append]
    simp [Dict.keys, kept]
  · rfl

theorem keys_forEach_openFinding {time : Int} {active : Dict String Finding}
    {findings : List Finding} {work opened : Work}
    (kept : ∀ finding ∈ findings, active.contains finding.monitor = true)
    (succeeded : forEach (openFinding time) findings work = .ok opened) :
    opened.openFindings.keys.filter (fun monitor => !active.contains monitor) =
      work.openFindings.keys.filter fun monitor => !active.contains monitor := by
  induction findings generalizing work with
  | nil =>
    cases succeeded
    rfl
  | cons finding rest ih =>
    rw [forEach, openFinding_eq, perform] at succeeded
    by_cases fails : work.failsAt = some 0
    · rw [if_pos fails] at succeeded
      cases succeeded
    · rw [if_neg fails] at succeeded
      rw [ih (fun other member => kept other (List.mem_cons_of_mem finding member)) succeeded]
      exact keys_report (kept finding List.mem_cons_self)

theorem contains_activeFindings (findings : List Finding) (monitor : String) :
    (activeFindings findings).contains monitor = true ↔ monitor ∈ findings.map (·.monitor) := by
  rw [Dict.contains_iff, activeFindings, Dict.mem_keys_ofRows]

/-- An active finding stands under its own monitor. -/
theorem active_monitor {findings : List Finding} {finding : Finding}
    (member : finding ∈ (activeFindings findings).entries.map Prod.snd) :
    finding ∈ findings ∧ (activeFindings findings).get? finding.monitor = some finding := by
  obtain ⟨entry, inside, rfl⟩ := List.mem_map.mp member
  have found := ((activeFindings findings).get?_eq_some entry.1 entry.2).mpr inside
  have which := found
  rw [activeFindings, Dict.get?_ofRows, Option.map_eq_some_iff] at which
  obtain ⟨row, taken, same⟩ := which
  rw [id_eq] at same
  rw [same] at taken
  have named : entry.2.monitor = entry.1 := by simpa using List.find?_some taken
  refine ⟨List.mem_reverse.mp (List.mem_of_find?_eq_some taken), ?_⟩
  rw [named]
  exact found

theorem forEach_plain {α : Type} {time : Int} {items : List α} {work done : Work}
    (succeeded : forEach (fun _ => perform time .plain) items work = .ok done) :
    done.openFindings = work.openFindings := by
  induction items generalizing work with
  | nil =>
    cases succeeded
    rfl
  | cons item rest ih =>
    rw [forEach, perform] at succeeded
    by_cases fails : work.failsAt = some 0
    · rw [if_pos fails] at succeeded
      cases succeeded
    · rw [if_neg fails] at succeeded
      have later := ih succeeded
      exact later

/-- A call is the statements it sends, one after the other. -/
theorem transaction_eq (service : Service) (call : Call) (work : Work) :
    transaction service call work = forEach (perform call.time)
      (statements service work.openFindings call.findings) work := by
  have kept : ∀ finding ∈ (activeFindings call.findings).entries.map Prod.snd,
      (activeFindings call.findings).contains finding.monitor = true := by
    intro finding member
    rw [Dict.contains, (active_monitor member).2]
    rfl
  have reports : ∀ work, forEach (perform call.time)
      (((activeFindings call.findings).entries.map Prod.snd).map .report) work =
        forEach (openFinding call.time) ((activeFindings call.findings).entries.map Prod.snd)
          work := by
    intro work
    rw [forEach_map]
    exact forEach_congr _ work fun finding work => (openFinding_eq call.time finding work).symm
  unfold transaction statements reconcileFindings
  rw [List.append_assoc, List.append_assoc, forEach_append, forEach_map,
    show (fun (_ : Unit) => execute fun rows => rows) = fun _ => perform call.time .plain from rfl]
  cases begun : forEach (fun _ : Unit => perform call.time .plain) service.preamble work with
  | error left => rfl
  | ok started =>
    dsimp only
    rw [forEach_append, reports]
    cases reported : forEach (openFinding call.time)
        ((activeFindings call.findings).entries.map Prod.snd) started with
    | error left => rfl
    | ok opened =>
      dsimp only
      rw [forEach_closeFinding call.time _ opened.openFindings.keys opened
        opened.openFindings.nodup fun monitor member => member,
        keys_forEach_openFinding kept reported, forEach_plain begun, forEach_append]
      cases forEach (perform call.time) _ opened with
      | error left => rfl
      | ok closed =>
        dsimp only
        rw [execute_plain call.time, forEach]
        cases perform call.time .plain closed <;> rfl

/-- Statements that all succeed. -/
theorem forEach_perform_ok (time : Int) (list : List Statement) (work : Work)
    (fine : ∀ index, work.failsAt = some index → list.length ≤ index) :
    ∃ failsAt, forEach (perform time) list work =
      .ok ⟨list.foldl (Statement.done time) work.toSystem, failsAt⟩ := by
  induction list generalizing work with
  | nil => exact ⟨work.failsAt, rfl⟩
  | cons statement rest ih =>
    have passes : ¬ work.failsAt = some 0 := by
      intro fails
      have bound := fine 0 fails
      simp at bound
    rw [forEach, perform, if_neg passes]
    apply ih
    intro index fails
    obtain ⟨before, found, rfl⟩ := Option.map_eq_some_iff.mp fails
    have bound := fine before found
    rw [List.length_cons] at bound
    omega

/-- The statement that fails has begun, and those before it are done. -/
theorem forEach_perform_error (time : Int) (list : List Statement) (work : Work) {index : Nat}
    {statement : Statement} (fails : work.failsAt = some index)
    (sent : list[index]? = some statement) :
    forEach (perform time) list work =
      .error (statement.begun ((list.take index).foldl (Statement.done time) work.toSystem)) := by
  induction list generalizing work index with
  | nil => cases sent
  | cons first rest ih =>
    cases index with
    | zero =>
      cases sent
      rw [forEach, perform, if_pos fails]
      rfl
    | succ index =>
      have passes : ¬ work.failsAt = some 0 := by
        rw [fails]
        simp
      rw [forEach, perform, if_neg passes]
      have later := ih ⟨first.done time work.toSystem, work.failsAt.map (· - 1)⟩
        (by simp [fails]) sent
      exact later

end Statements

section Maps

/-- The monitors a list of statements reports on, and those it closes. -/
def reported : List Statement → List String
  | [] => []
  | .report finding :: rest => finding.monitor :: reported rest
  | _ :: rest => reported rest

def closed : List Statement → List String
  | [] => []
  | .close monitor :: rest => monitor :: closed rest
  | _ :: rest => closed rest

/-- A monitor that is reported on and not closed is in the map afterwards. -/
theorem isSome_reported (time : Int) (list : List Statement) (system : System) {monitor : String}
    (told : monitor ∈ reported list ∨ (system.openFindings.get? monitor).isSome = true)
    (kept : monitor ∉ closed list) :
    ((list.foldl (Statement.done time) system).openFindings.get? monitor).isSome = true := by
  induction list generalizing system with
  | nil => exact told.resolve_left List.not_mem_nil
  | cons statement rest ih =>
    cases statement with
    | plain => exact ih system told kept
    | report finding =>
      rw [List.foldl_cons]
      apply ih _ _ kept
      by_cases same : finding.monitor = monitor
      · rw [← same]
        exact Or.inr (isSome_done_report time system finding)
      · rw [get?_done_report time system finding same]
        apply told.imp_left
        intro member
        exact (List.mem_cons.mp member).resolve_left (Ne.symm same)
    | close other =>
      rw [closed, List.mem_cons, not_or] at kept
      rw [List.foldl_cons]
      apply ih _ _ kept.2
      rw [get?_done_close, if_neg (Ne.symm kept.1)]
      exact told

/-- A monitor that is closed and not reported on is not. -/
theorem get?_closed (time : Int) (list : List Statement) (system : System) {monitor : String}
    (quiet : monitor ∉ reported list)
    (gone : monitor ∈ closed list ∨ system.openFindings.get? monitor = none) :
    (list.foldl (Statement.done time) system).openFindings.get? monitor = none := by
  induction list generalizing system with
  | nil => exact gone.resolve_left List.not_mem_nil
  | cons statement rest ih =>
    cases statement with
    | plain => exact ih system quiet gone
    | report finding =>
      rw [reported, List.mem_cons, not_or] at quiet
      rw [List.foldl_cons]
      apply ih _ quiet.2
      rw [get?_done_report time system finding (Ne.symm quiet.1)]
      exact gone
    | close other =>
      rw [List.foldl_cons]
      apply ih _ quiet
      rw [get?_done_close]
      by_cases same : other = monitor
      · exact Or.inr (if_pos same)
      · rw [if_neg same]
        apply gone.imp_left
        intro member
        exact (List.mem_cons.mp member).resolve_left (Ne.symm same)

theorem mem_reported {list : List Statement} {monitor : String} :
    monitor ∈ reported list ↔ ∃ finding, .report finding ∈ list ∧ finding.monitor = monitor := by
  induction list with
  | nil => simp [reported]
  | cons statement rest ih => cases statement <;> simp [reported, ih, eq_comm]

theorem mem_closed {list : List Statement} {monitor : String} :
    monitor ∈ closed list ↔ .close monitor ∈ list := by
  induction list with
  | nil => simp [closed]
  | cons statement rest ih => cases statement <;> simp [closed, ih]

theorem report_mem_statements {service : Service} {openFindings : Dict String Nat}
    {findings : List Finding} {finding : Finding} :
    .report finding ∈ statements service openFindings findings ↔
      finding ∈ (activeFindings findings).entries.map Prod.snd := by
  simp [statements]

theorem close_mem_statements {service : Service} {openFindings : Dict String Nat}
    {findings : List Finding} {monitor : String} :
    .close monitor ∈ statements service openFindings findings ↔
      monitor ∈ openFindings.keys ∧ monitor ∉ findings.map (·.monitor) := by
  rw [← contains_activeFindings]
  simp [statements]

theorem mem_reported_statements {service : Service} {openFindings : Dict String Nat}
    {findings : List Finding} {monitor : String} :
    monitor ∈ reported (statements service openFindings findings) ↔
      monitor ∈ findings.map (·.monitor) := by
  rw [mem_reported]
  constructor
  · rintro ⟨finding, member, rfl⟩
    exact List.mem_map_of_mem (active_monitor (report_mem_statements.mp member)).1
  · intro member
    rw [← contains_activeFindings, Dict.contains, Option.isSome_iff_exists] at member
    obtain ⟨finding, found⟩ := member
    have inside : finding ∈ (activeFindings findings).entries.map Prod.snd :=
      List.mem_map_of_mem (((activeFindings findings).get?_eq_some monitor finding).mp found)
    refine ⟨finding, report_mem_statements.mpr inside, ?_⟩
    rw [activeFindings, Dict.get?_ofRows, Option.map_eq_some_iff] at found
    obtain ⟨row, taken, same⟩ := found
    rw [id_eq] at same
    rw [same] at taken
    simpa using List.find?_some taken

end Maps

section Rows

/-- An open row of a monitor under an id. -/
def HasOpen (rows : List Row) (monitor : String) (id : Nat) : Prop :=
  ∃ row ∈ rows, row.isOpen = true ∧ row.monitor = monitor ∧ row.id = id

/-- The map in memory is the open rows. -/
def Matches (system : System) : Prop :=
  ∀ monitor id, system.openFindings.get? monitor = some id ↔ HasOpen system.rows monitor id

/-- What a call finds and leaves as long as the map can be trusted. -/
structure Consistent (system : System) : Prop where
  agrees : Matches system
  distinct : (system.rows.map (·.id)).Nodup
  drawn : ∀ row ∈ system.rows, row.id < system.uuids

theorem updateRow_same (finding : Finding) (id : Nat) (row : Row) :
    (updateRow finding id row).isOpen = row.isOpen ∧
      (updateRow finding id row).monitor = row.monitor ∧ (updateRow finding id row).id = row.id := by
  unfold updateRow
  split <;> exact ⟨rfl, rfl, rfl⟩

theorem closeRow_same (time : Int) (id : Nat) (row : Row) :
    (closeRow time id row).monitor = row.monitor ∧ (closeRow time id row).id = row.id := by
  unfold closeRow
  split <;> exact ⟨rfl, rfl⟩

/-- A close leaves open what was open under another id. -/
theorem closeRow_isOpen (time : Int) (id : Nat) (row : Row) :
    (closeRow time id row).isOpen = true ↔ row.isOpen = true ∧ row.id ≠ id := by
  unfold closeRow Row.isOpen
  by_cases same : row.id = id
  · by_cases unclosed : row.closedAt = none
    · simp [same, unclosed]
    · simp [same, unclosed]
  · simp [same]

theorem map_ids {rows : List Row} {view : Row → Row} (same : ∀ row, (view row).id = row.id) :
    (rows.map view).map (·.id) = rows.map (·.id) := by
  rw [List.map_map]
  exact List.map_congr_left fun row _ => same row

theorem hasOpen_update (rows : List Row) (finding : Finding) (existing : Nat) (monitor : String)
    (id : Nat) :
    HasOpen (rows.map (updateRow finding existing)) monitor id ↔ HasOpen rows monitor id := by
  have same := updateRow_same finding existing
  constructor
  · rintro ⟨row, member, isOpen, named, numbered⟩
    obtain ⟨before, inside, rfl⟩ := List.mem_map.mp member
    rw [(same before).1] at isOpen
    rw [(same before).2.1] at named
    rw [(same before).2.2] at numbered
    exact ⟨before, inside, isOpen, named, numbered⟩
  · rintro ⟨row, member, isOpen, named, numbered⟩
    refine ⟨_, List.mem_map_of_mem member, ?_, ?_, ?_⟩
    · rw [(same row).1, isOpen]
    · rw [(same row).2.1, named]
    · rw [(same row).2.2, numbered]

theorem hasOpen_close (rows : List Row) (time : Int) (gone : Nat) (monitor : String) (id : Nat) :
    HasOpen (rows.map (closeRow time gone)) monitor id ↔ HasOpen rows monitor id ∧ id ≠ gone := by
  have same := closeRow_same time gone
  constructor
  · rintro ⟨row, member, isOpen, named, numbered⟩
    obtain ⟨before, inside, rfl⟩ := List.mem_map.mp member
    rw [closeRow_isOpen] at isOpen
    rw [(same before).1] at named
    rw [(same before).2] at numbered
    exact ⟨⟨before, inside, isOpen.1, named, numbered⟩, numbered ▸ isOpen.2⟩
  · rintro ⟨⟨row, member, isOpen, named, numbered⟩, other⟩
    refine ⟨_, List.mem_map_of_mem member, ?_, ?_, ?_⟩
    · rw [closeRow_isOpen, numbered]
      exact ⟨isOpen, other⟩
    · rw [(same row).1, named]
    · rw [(same row).2, numbered]

theorem hasOpen_append (rows : List Row) (id : Nat) (time : Int) (finding : Finding)
    (monitor : String) (wanted : Nat) :
    HasOpen (rows ++ [newRow id time finding]) monitor wanted ↔
      HasOpen rows monitor wanted ∨ (finding.monitor = monitor ∧ id = wanted) := by
  constructor
  · rintro ⟨row, member, isOpen, named, numbered⟩
    rcases List.mem_append.mp member with old | fresh
    · exact Or.inl ⟨row, old, isOpen, named, numbered⟩
    · rw [List.mem_singleton.mp fresh] at named numbered
      exact Or.inr ⟨named, numbered⟩
  · rintro (⟨row, member, rest⟩ | ⟨named, numbered⟩)
    · exact ⟨row, List.mem_append_left _ member, rest⟩
    · exact ⟨_, List.mem_append_right _ (List.mem_singleton.mpr rfl), rfl, named, numbered⟩

/-- Rows are told apart by their ids. -/
theorem row_of_id {rows : List Row} (distinct : (rows.map (·.id)).Nodup) {first second : Row}
    (one : first ∈ rows) (two : second ∈ rows) (same : first.id = second.id) : first = second :=
  List.inj_on_of_nodup_map distinct one two same

/-- Every statement that succeeds keeps the map and the open rows together. -/
theorem Consistent.done {system : System} (consistent : Consistent system) (time : Int)
    (statement : Statement) : Consistent (statement.done time system) := by
  obtain ⟨agrees, distinct, drawn⟩ := consistent
  cases statement with
  | plain => exact ⟨agrees, distinct, drawn⟩
  | report finding =>
    simp only [Statement.done]
    cases found : system.openFindings.get? finding.monitor with
    | none =>
      refine ⟨?_, ?_, ?_⟩
      · intro monitor id
        rw [Dict.get?_set, hasOpen_append, ← agrees]
        by_cases same : finding.monitor = monitor
        · rw [if_pos same, ← same, found]
          simp
        · rw [if_neg same]
          simp [same]
      · rw [List.map_append, List.nodup_append]
        refine ⟨distinct, List.nodup_singleton _, ?_⟩
        rintro id old fresh last rfl
        obtain ⟨row, member, rfl⟩ := List.mem_map.mp old
        have below := drawn row member
        have equal : row.id = system.uuids := by simpa [newRow] using last
        omega
      · intro row member
        rcases List.mem_append.mp member with old | fresh
        · have below := drawn row old
          show row.id < system.uuids + 1
          omega
        · rw [List.mem_singleton.mp fresh]
          exact Nat.lt_succ_self system.uuids
    | some id =>
      refine ⟨?_, ?_, ?_⟩
      · intro monitor wanted
        rw [hasOpen_update]
        exact agrees monitor wanted
      · rw [map_ids fun row => (updateRow_same finding id row).2.2]
        exact distinct
      · intro row member
        obtain ⟨before, inside, rfl⟩ := List.mem_map.mp member
        rw [(updateRow_same finding id before).2.2]
        exact drawn before inside
  | close monitor =>
    simp only [Statement.done]
    cases found : system.openFindings.get? monitor with
    | none => exact ⟨agrees, distinct, drawn⟩
    | some id =>
      refine ⟨?_, ?_, ?_⟩
      · intro other wanted
        rw [Dict.get?_erase, hasOpen_close, ← agrees]
        by_cases same : monitor = other
        · rw [if_pos same, ← same, found]
          simp [eq_comm]
        · -- the row that closes is another monitor's
          rw [if_neg same]
          refine (and_iff_left_of_imp ?_).symm
          rintro present rfl
          obtain ⟨mine, here, -, named, numbered⟩ := (agrees monitor wanted).mp found
          obtain ⟨yours, there, -, named', numbered'⟩ := (agrees other wanted).mp present
          have equal := row_of_id distinct here there (numbered.trans numbered'.symm)
          rw [equal, named'] at named
          exact same named.symm
      · rw [map_ids fun row => (closeRow_same time id row).2]
        exact distinct
      · intro row member
        obtain ⟨before, inside, rfl⟩ := List.mem_map.mp member
        rw [(closeRow_same time id before).2]
        exact drawn before inside

theorem Consistent.foldl_done {system : System} (consistent : Consistent system) (time : Int)
    (list : List Statement) : Consistent (list.foldl (Statement.done time) system) := by
  induction list generalizing system with
  | nil => exact consistent
  | cons statement rest ih => exact ih (consistent.done time statement)

/-- The open rows are one for each monitor of the findings and no others. -/
def Exactly (rows : List Row) (findings : List Finding) : Prop :=
  ∀ monitor, (rows.filter fun row => row.isOpen && row.monitor == monitor).length =
    if monitor ∈ findings.map (·.monitor) then 1 else 0

theorem length_eq_one {list : List Row} (nodup : list.Nodup) {row : Row} (member : row ∈ list)
    (all : ∀ other ∈ list, other = row) : list.length = 1 := by
  cases list with
  | nil => cases member
  | cons first rest =>
    cases rest with
    | nil => rfl
    | cons second others =>
      have one := all first (by simp)
      have two := all second (by simp)
      rw [one, two] at nodup
      simp at nodup

/-- Where the map is the open rows, each monitor has one open row or none. -/
theorem Consistent.openRows {system : System} (consistent : Consistent system) (monitor : String) :
    (system.rows.filter fun row => row.isOpen && row.monitor == monitor).length =
      if (system.openFindings.get? monitor).isSome then 1 else 0 := by
  have member : ∀ row, row ∈ system.rows.filter (fun row => row.isOpen && row.monitor == monitor) ↔
      row ∈ system.rows ∧ row.isOpen = true ∧ row.monitor = monitor := by
    simp
  cases found : system.openFindings.get? monitor with
  | none =>
    rw [if_neg (by simp), List.length_eq_zero_iff, List.eq_nil_iff_forall_not_mem]
    intro row inside
    have facts := (member row).mp inside
    have present := (consistent.agrees monitor row.id).mpr
      ⟨row, facts.1, facts.2.1, facts.2.2, rfl⟩
    rw [found] at present
    cases present
  | some id =>
    obtain ⟨row, inside, isOpen, named, numbered⟩ := (consistent.agrees monitor id).mp found
    have all : ∀ other ∈ system.rows.filter (fun row => row.isOpen && row.monitor == monitor),
        other = row := by
      intro other there
      have facts := (member other).mp there
      have same := (consistent.agrees monitor other.id).mpr
        ⟨other, facts.1, facts.2.1, facts.2.2, rfl⟩
      rw [found] at same
      apply row_of_id consistent.distinct facts.1 inside
      rw [numbered]
      exact (Option.some.inj same).symm
    have nodup : (system.rows.filter fun row => row.isOpen && row.monitor == monitor).Nodup :=
      (List.Nodup.of_map (·.id) consistent.distinct).filter _
    rw [if_pos (by simp)]
    exact length_eq_one nodup ((member row).mpr ⟨inside, isOpen, named⟩) all

theorem Consistent.adopt {system : System} (consistent : Consistent system) :
    Consistent (adoptOpenFindings system) := by
  obtain ⟨agrees, distinct, drawn⟩ := consistent
  refine ⟨?_, distinct, drawn⟩
  have nodup : ((system.rows.filter Row.isOpen).map (·.monitor)).Nodup := by
    apply List.Nodup.map_on _ ((List.Nodup.of_map (·.id) distinct).filter _)
    intro first one second two same
    rw [List.mem_filter] at one two
    have left := (agrees first.monitor first.id).mpr ⟨first, one.1, one.2, rfl, rfl⟩
    have right := (agrees first.monitor second.id).mpr ⟨second, two.1, two.2, same.symm, rfl⟩
    rw [left] at right
    exact row_of_id distinct one.1 two.1 (Option.some.inj right)
  intro monitor id
  show (Dict.ofRows _ _ (system.rows.filter Row.isOpen)).get? monitor = some id ↔ _
  constructor
  · intro found
    rw [Dict.get?_ofRows, Option.map_eq_some_iff] at found
    obtain ⟨row, taken, numbered⟩ := found
    have named : row.monitor = monitor := by simpa using List.find?_some taken
    have inside := List.mem_filter.mp (List.mem_reverse.mp (List.mem_of_find?_eq_some taken))
    exact ⟨row, inside.1, inside.2, named, numbered⟩
  · rintro ⟨row, inside, isOpen, rfl, rfl⟩
    exact Dict.get?_ofRows_of_mem nodup (List.mem_filter.mpr ⟨inside, isOpen⟩)

theorem new_consistent : Consistent System.new := by
  refine ⟨?_, List.nodup_nil, fun row member => absurd member List.not_mem_nil⟩
  intro monitor id
  constructor
  · intro found
    cases found
  · rintro ⟨row, member, -⟩
    cases member

end Rows

section Calls

/-- The statement opens a finding the map does not have. -/
def Statement.opens (openFindings : Dict String Nat) : Statement → Bool
  | .report finding => !openFindings.contains finding.monitor
  | _ => false

def Statement.closes : Statement → Bool
  | .close _ => true
  | _ => false

/-- If the call fails, then at a statement that closes nothing, and before it has
opened or closed anything. -/
def Clean (service : Service) (system : System) : Event → Prop
  | .call call => ∀ index statement, call.failsAt = some index →
      (statements service system.openFindings call.findings)[index]? = some statement →
        statement.closes = false ∧
          ∀ earlier ∈ (statements service system.openFindings call.findings).take index,
            earlier.opens system.openFindings = false ∧ earlier.closes = false
  | .restart => True

/-- What is asked of every call: one open row for each finding once it has committed,
and the map the open rows however it ended. -/
def Meets (service : Service) (system : System) : Event → Prop
  | .call call =>
    ((write service system call).1 = true →
      Exactly (write service system call).2.rows call.findings) ∧
    Matches (write service system call).2
  | .restart => Matches (adoptOpenFindings system)

theorem write_commits {service : Service} {system : System} {call : Call}
    (fine : ∀ index, call.failsAt = some index →
      (statements service system.openFindings call.findings).length ≤ index) :
    write service system call = (true, (statements service system.openFindings
      call.findings).foldl (Statement.done call.time) system) := by
  obtain ⟨failsAt, done⟩ := forEach_perform_ok call.time
    (statements service system.openFindings call.findings) ⟨system, call.failsAt⟩ fine
  rw [write, transaction_eq, done]

theorem write_fails {service : Service} {system : System} {call : Call} {index : Nat}
    {statement : Statement} (fails : call.failsAt = some index)
    (sent : (statements service system.openFindings call.findings)[index]? = some statement) :
    write service system call = (false,
      { statement.begun (((statements service system.openFindings call.findings).take index).foldl
          (Statement.done call.time) system) with rows := system.rows }) := by
  have failed := forEach_perform_error call.time
    (statements service system.openFindings call.findings) ⟨system, call.failsAt⟩ fails sent
  rw [write, transaction_eq, failed]

/-- The map after a call that committed holds the monitors of its findings. -/
theorem isSome_statements (service : Service) (system : System) (call : Call) (monitor : String) :
    (((statements service system.openFindings call.findings).foldl (Statement.done call.time)
      system).openFindings.get? monitor).isSome = true ↔ monitor ∈ call.findings.map (·.monitor) := by
  constructor
  · intro some_
    by_contra inactive
    have quiet : monitor ∉ reported (statements service system.openFindings call.findings) :=
      fun member => inactive (mem_reported_statements.mp member)
    have gone : monitor ∈ closed (statements service system.openFindings call.findings) ∨
        system.openFindings.get? monitor = none := by
      by_cases present : monitor ∈ system.openFindings.keys
      · exact Or.inl (mem_closed.mpr (close_mem_statements.mpr ⟨present, inactive⟩))
      · exact Or.inr ((Dict.get?_eq_none _ _).mpr present)
    rw [get?_closed call.time _ system quiet gone] at some_
    cases some_
  · intro active
    apply isSome_reported call.time _ system (Or.inl (mem_reported_statements.mpr active))
    rw [mem_closed, close_mem_statements]
    exact fun both => both.2 active

theorem Consistent.exactly {service : Service} {system : System} (consistent : Consistent system)
    (call : Call) : Exactly ((statements service system.openFindings call.findings).foldl
      (Statement.done call.time) system).rows call.findings := by
  intro monitor
  rw [(consistent.foldl_done call.time _).openRows monitor]
  by_cases active : monitor ∈ call.findings.map (·.monitor)
  · rw [if_pos active, if_pos ((isSome_statements service system call monitor).mpr active)]
  · rw [if_neg active, if_neg fun some_ => active
      ((isSome_statements service system call monitor).mp some_)]

theorem uuids_le_done (time : Int) (system : System) (statement : Statement) :
    system.uuids ≤ (statement.done time system).uuids := by
  cases statement with
  | plain => exact Nat.le_refl _
  | report finding =>
    simp only [Statement.done]
    split
    · exact Nat.le_succ _
    · exact Nat.le_refl _
  | close monitor =>
    simp only [Statement.done]
    split <;> exact Nat.le_refl _

theorem uuids_le_foldl (time : Int) (list : List Statement) (system : System) :
    system.uuids ≤ (list.foldl (Statement.done time) system).uuids := by
  induction list generalizing system with
  | nil => exact Nat.le_refl _
  | cons statement rest ih => exact Nat.le_trans (uuids_le_done time system statement) (ih _)

theorem uuids_le_begun (system : System) (statement : Statement) :
    system.uuids ≤ (statement.begun system).uuids := by
  cases statement with
  | plain => exact Nat.le_refl _
  | report finding =>
    simp only [Statement.begun]
    split
    · exact Nat.le_refl _
    · exact Nat.le_succ _
  | close monitor => exact Nat.le_refl _

/-- Statements that neither open nor close leave the map alone. -/
theorem openFindings_quiet (time : Int) (list : List Statement) (system : System)
    (quiet : ∀ statement ∈ list,
      statement.opens system.openFindings = false ∧ statement.closes = false) :
    (list.foldl (Statement.done time) system).openFindings = system.openFindings := by
  induction list generalizing system with
  | nil => rfl
  | cons statement rest ih =>
    have here := quiet statement List.mem_cons_self
    have same : (statement.done time system).openFindings = system.openFindings := by
      cases statement with
      | plain => rfl
      | report finding =>
        have known : system.openFindings.contains finding.monitor = true := by
          simpa [Statement.opens] using here.1
        rw [Dict.contains, Option.isSome_iff_exists] at known
        obtain ⟨id, found⟩ := known
        simp only [Statement.done, found]
      | close monitor => cases here.2
    rw [List.foldl_cons, ih _ fun later member => ?_, same]
    rw [same]
    exact quiet later (List.mem_cons_of_mem statement member)

/-- A call that fails cleanly leaves the map as it was. -/
theorem openFindings_clean {service : Service} {system : System} {call : Call} {index : Nat}
    {statement : Statement} (clean : Clean service system (.call call))
    (fails : call.failsAt = some index)
    (sent : (statements service system.openFindings call.findings)[index]? = some statement) :
    (write service system call).2.openFindings = system.openFindings := by
  obtain ⟨keeps, quiet⟩ := clean index statement fails sent
  have before := openFindings_quiet call.time _ system quiet
  rw [write_fails fails sent]
  cases statement with
  | plain => exact before
  | report finding =>
    simp only [Statement.begun]
    split <;> exact before
  | close monitor => cases keeps

/-- A call that fails with a finding opened or a close begun leaves a map that is not
the open rows. -/
theorem clean_of_matches {service : Service} {system : System} (consistent : Consistent system)
    {call : Call} (agrees : Matches (write service system call).2) :
    Clean service system (.call call) := by
  intro index statement fails found
  rw [write_fails fails found] at agrees
  -- a monitor is in the map after the failure exactly if it was before
  have same : ∀ monitor, ((Statement.begun (((statements service system.openFindings
      call.findings).take index).foldl (Statement.done call.time) system)
      statement).openFindings.get? monitor).isSome =
        (system.openFindings.get? monitor).isSome := by
    intro monitor
    rw [Bool.eq_iff_iff, Option.isSome_iff_exists, Option.isSome_iff_exists]
    exact exists_congr fun id =>
      (agrees monitor id).trans (consistent.agrees monitor id).symm
  have all : ∀ earlier ∈ (statements service system.openFindings call.findings).take index,
      earlier ∈ statements service system.openFindings call.findings :=
    fun earlier member => List.mem_of_mem_take member
  have here : statement ∈ statements service system.openFindings call.findings :=
    List.mem_of_getElem? found
  constructor
  · cases statement with
    | plain => rfl
    | report finding => rfl
    | close monitor =>
      have gone := same monitor
      have facts := close_mem_statements.mp here
      rw [Statement.begun, Dict.get?_erase, if_pos rfl, ← Dict.contains,
        (Dict.contains_iff _ _).mpr facts.1] at gone
      cases gone
  · intro earlier member
    have sent := all earlier member
    cases earlier with
    | plain => exact ⟨rfl, rfl⟩
    | report finding =>
      refine ⟨?_, rfl⟩
      have active : finding.monitor ∈ call.findings.map (·.monitor) :=
        List.mem_map_of_mem (active_monitor (report_mem_statements.mp sent)).1
      have kept : finding.monitor ∉ closed ((statements service system.openFindings
          call.findings).take index) := by
        rw [mem_closed]
        intro closes
        exact (close_mem_statements.mp (all _ closes)).2 active
      have told := isSome_reported call.time _ system
        (Or.inl (mem_reported.mpr ⟨finding, member, rfl⟩)) kept
      have known := same finding.monitor
      have begun : (Statement.begun (((statements service system.openFindings
          call.findings).take index).foldl (Statement.done call.time) system)
          statement).openFindings.get? finding.monitor =
          (((statements service system.openFindings call.findings).take index).foldl
            (Statement.done call.time) system).openFindings.get? finding.monitor := by
        cases statement with
        | plain => rfl
        | report other =>
          simp only [Statement.begun]
          split <;> rfl
        | close monitor =>
          rw [Statement.begun, Dict.get?_erase, if_neg]
          rintro rfl
          exact (close_mem_statements.mp here).2 active
      rw [begun, told] at known
      simp [Statement.opens, Dict.contains, ← known]
    | close monitor =>
      have facts := close_mem_statements.mp sent
      have quiet : monitor ∉ reported ((statements service system.openFindings
          call.findings).take index) := by
        rw [mem_reported]
        rintro ⟨finding, reports, rfl⟩
        exact facts.2 (List.mem_map_of_mem
          (active_monitor (report_mem_statements.mp (all _ reports))).1)
      have gone := get?_closed call.time _ system quiet (Or.inl (mem_closed.mpr member))
      have known := same monitor
      have begun : ((Statement.begun (((statements service system.openFindings
          call.findings).take index).foldl (Statement.done call.time) system)
          statement).openFindings.get? monitor).isSome = false := by
        cases statement with
        | plain => simp [Statement.begun, gone]
        | report other =>
          simp only [Statement.begun]
          split <;> simp [gone]
        | close other =>
          rw [Statement.begun, Dict.get?_erase]
          split <;> simp [gone]
      rw [begun, ← Dict.contains, (Dict.contains_iff _ _).mpr facts.1] at known
      cases known

theorem fails_or_commits (service : Service) (system : System) (call : Call) :
    (∃ index statement, call.failsAt = some index ∧
        (statements service system.openFindings call.findings)[index]? = some statement) ∨
      ∀ index, call.failsAt = some index →
        (statements service system.openFindings call.findings).length ≤ index := by
  cases fails : call.failsAt with
  | none => exact Or.inr fun index never => by cases never
  | some index =>
    cases sent : (statements service system.openFindings call.findings)[index]? with
    | some statement => exact Or.inl ⟨index, statement, rfl, sent⟩
    | none =>
      right
      intro other same
      cases same
      exact List.getElem?_eq_none_iff.mp sent

theorem meets_iff_clean {service : Service} {system : System} (consistent : Consistent system)
    (event : Event) : Meets service system event ↔ Clean service system event := by
  cases event with
  | restart => exact iff_of_true consistent.adopt.agrees trivial
  | call call =>
    refine ⟨fun meets => clean_of_matches consistent meets.2, ?_⟩
    intro clean
    rcases fails_or_commits service system call with ⟨index, statement, fails, sent⟩ | fine
    · refine ⟨?_, ?_⟩
      · rw [write_fails fails sent]
        intro never
        cases never
      · intro monitor id
        rw [openFindings_clean clean fails sent, consistent.agrees monitor id,
          write_fails fails sent]
    · rw [Meets, write_commits fine]
      exact ⟨fun _ => consistent.exactly call, (consistent.foldl_done call.time _).agrees⟩

theorem Consistent.step {service : Service} {system next : System} {event : Event}
    (consistent : Consistent system) (clean : Clean service system event)
    (taken : step service system event = some next) : Consistent next := by
  cases event with
  | restart =>
    cases taken
    exact consistent.adopt
  | call call =>
    cases taken
    have meets := (meets_iff_clean consistent (.call call)).mpr clean
    rcases fails_or_commits service system call with ⟨index, statement, fails, sent⟩ | fine
    · refine ⟨meets.2, ?_, ?_⟩
      · rw [write_fails fails sent]
        exact consistent.distinct
      · rw [write_fails fails sent]
        intro row member
        exact Nat.lt_of_lt_of_le (consistent.drawn row member)
          (Nat.le_trans (uuids_le_foldl call.time _ system) (uuids_le_begun _ _))
    · rw [write_commits fine]
      exact consistent.foldl_done call.time _

/-- From an empty table on, with restarts anywhere, every call does what is asked of
it exactly when every call that fails does so before its map has changed. -/
theorem meets_along_iff_clean (service : Service) (events : List Event) :
    Machine.Along (step service) (Meets service) System.new events ↔
      Machine.Along (step service) (Clean service) System.new events := by
  apply Machine.along_congr Consistent
  · intro system event next consistent clean taken
    exact consistent.step clean taken
  · intro system event next consistent taken
    exact meets_iff_clean consistent event
  · exact new_consistent

/-- A call whose commit fails after its one finding was opened. -/
def failedCommit : Call :=
  { findings := [{ monitor := "strategy.pit_window", severity := "warning", score := 1,
                   summary := "" }],
    time := 0, failsAt := some 3 }

/-- The map then names a row that was taken back. -/
theorem failedCommit_not_meets :
    ¬ ∀ (service : Service) (events : List Event),
      Machine.Along (step service) (Meets service) System.new events := by
  intro always
  have meets := (always .strategy [.call failedCommit] _ rfl).1
  have named : (write .strategy System.new failedCommit).2.openFindings.get?
      "strategy.pit_window" = some 0 := by decide +kernel
  obtain ⟨row, member, -⟩ := (meets.2 "strategy.pit_window" 0).mp named
  have empty : (write .strategy System.new failedCommit).2.rows = [] := by decide +kernel
  rw [empty] at member
  cases member

end Calls

end OpenLaps.Findings
