import Mathlib.Data.List.Sort
import OpenLaps.Core.Config
import OpenLaps.Lib.Machine

/- The migration applier (`pit/db/migrate.py`), run by any number of services against one
database. A transaction is one step; a connection may be lost at any moment, and then a
transaction that was being committed has landed or not. The SQL of the files and the
settings that pass the credentials to it are left out. -/
namespace OpenLaps.Migrations

/-- The `.sql` files of a directory, by name. -/
structure Directory where
  names : List String
  unique : names.Nodup

/-- `GRAFANA_DB_USER` and `GRAFANA_DB_PASSWORD`. -/
structure Credentials where
  user : Option String := none
  password : Option String := none

/-- Every migration file, in the order they must be applied. -/
def discover (directory : Directory) : List String := directory.names.insertionSort (· ≤ ·)

/-- Migrations present on disk that this database has not applied. -/
def pending (recorded : List String) (directory : Directory) : List String :=
  (discover directory).filter fun name => name ∉ recorded

def configureGrafanaRole (credentials : Credentials) : Except PyError Unit :=
  if credentials.user.getD "grafana_ro" = "" then
    .error (.valueError "GRAFANA_DB_USER must not be empty while migration 002 is pending")
  else if credentials.password.getD "" = "" then
    .error (.valueError "GRAFANA_DB_PASSWORD is required while migration 002 is pending")
  else .ok ()

/-- Where a call of `apply_migrations` is. `releasing` is the `finally`, with what the call
returns if it does. -/
inductive Phase where
  | checking
  | waiting
  | locked
  | applying (todo applied : List String)
  | releasing (result : Option (List String))
  | returned (applied : List String)
  | raised
  deriving DecidableEq, Repr

/-- The session of the call has the advisory lock. -/
def Phase.holds : Phase → Bool
  | .locked | .applying _ _ | .releasing _ => true
  | _ => false

structure Applier where
  directory : Directory
  credentials : Credentials
  phase : Phase := .checking

/-- The database and the calls. `executed` records which call ran which file. -/
structure Deployment where
  recorded : List String
  lock : Option Nat := none
  appliers : List Applier := []
  executed : List (Nat × String) := []

/-- What a call does next, or what happens to it. -/
inductive Action where
  | check
  | lock
  | recheck
  | apply
  | finish
  | unlock
  | fail
  | disconnect (landed : Bool)
  deriving DecidableEq, Repr

inductive Event where
  | call (directory : Directory) (credentials : Credentials)
  | act (index : Nat) (action : Action)

namespace Deployment

def move (deployment : Deployment) (index : Nat) (applier : Applier) (phase : Phase) : Deployment :=
  { deployment with appliers := deployment.appliers.set index { applier with phase := phase } }

/-- The file and its row in `schema_migrations`, in one transaction. -/
def commit (deployment : Deployment) (index : Nat) (name : String) : Deployment :=
  { deployment with
    recorded := deployment.recorded ++ [name]
    executed := deployment.executed ++ [(index, name)] }

/-- Under the lock: the second look, and the role before any file. -/
def recheck (deployment : Deployment) (applier : Applier) : Phase :=
  let todo := pending deployment.recorded applier.directory
  if todo.any fun name => "002_" ≤ name then
    match configureGrafanaRole applier.credentials with
    | .error _ => .releasing none
    | .ok _ => .applying todo []
  else .applying todo []

/-- The transaction that a lost connection leaves in doubt. -/
def inDoubt (deployment : Deployment) (index : Nat) (applier : Applier) (landed : Bool) : Deployment :=
  match applier.phase with
  | .applying (name :: _) _ =>
    if landed ∧ name ∉ deployment.recorded then deployment.commit index name else deployment
  | _ => deployment

def act (deployment : Deployment) (index : Nat) (applier : Applier) (action : Action) : Option Deployment :=
  match action, applier.phase with
  | .check, .checking =>
    some (deployment.move index applier
      (if pending deployment.recorded applier.directory = [] then .returned [] else .waiting))
  | .lock, .waiting =>
    if deployment.lock = none then some { deployment.move index applier .locked with lock := some index }
    else none
  | .recheck, .locked => some (deployment.move index applier (deployment.recheck applier))
  | .apply, .applying (name :: todo) applied =>
    -- the row's primary key refuses a version that is there already
    if name ∈ deployment.recorded then some (deployment.move index applier (.releasing none))
    else
      some ((deployment.commit index name).move index applier (.applying todo (applied ++ [name])))
  | .finish, .applying [] applied => some (deployment.move index applier (.releasing (some applied)))
  | .unlock, .releasing result =>
    some { deployment.move index applier (result.elim .raised .returned) with lock := none }
  | .fail, .checking => some (deployment.move index applier .raised)
  | .fail, .waiting => some (deployment.move index applier .raised)
  | .fail, .locked => some (deployment.move index applier (.releasing none))
  | .fail, .applying _ _ => some (deployment.move index applier (.releasing none))
  | .disconnect landed, phase =>
    match phase with
    | .returned _ => none
    | .raised => none
    | _ =>
      let left := (deployment.inDoubt index applier landed).move index applier .raised
      some { left with lock := if phase.holds then none else deployment.lock }
  | _, _ => none

def step (deployment : Deployment) : Event → Option Deployment
  | .call directory credentials =>
    some { deployment with appliers := deployment.appliers ++ [⟨directory, credentials, .checking⟩] }
  | .act index action =>
    deployment.appliers[index]?.bind fun applier => deployment.act index applier action

/-- The files a call ran, in order. -/
def ran (executed : List (Nat × String)) (index : Nat) : List String :=
  (executed.filter fun entry => entry.1 = index).map Prod.snd

theorem ran_append (executed : List (Nat × String)) (index other : Nat) (name : String) :
    ran (executed ++ [(index, name)]) other =
      ran executed other ++ if index = other then [name] else [] := by
  by_cases same : index = other <;> simp [ran, List.filter_append, same]

end Deployment

open Deployment

theorem discover_perm (directory : Directory) : (discover directory).Perm directory.names :=
  List.perm_insertionSort _ _

/-- Names differ, so the order of the files is strict. -/
theorem discover_sorted (directory : Directory) : (discover directory).Pairwise (· < ·) := by
  have sorted : (discover directory).Pairwise (· ≤ ·) := List.pairwise_insertionSort _ _
  have unique : (discover directory).Nodup := (discover_perm directory).nodup_iff.mpr directory.unique
  exact (sorted.and unique).imp fun both =>
    String.not_le.mp fun back => both.2 (String.le_antisymm both.1 back)

theorem mem_pending (recorded : List String) (directory : Directory) (name : String) :
    name ∈ pending recorded directory ↔ name ∈ directory.names ∧ name ∉ recorded := by
  simp [pending, List.mem_filter, (discover_perm directory).mem_iff]

/-- A call that applies: what it has left is in order, not recorded, and all that its
directory lacks, and it has set the role up if a file needs it. -/
structure Applying (recorded ran : List String) (applier : Applier)
    (todo applied : List String) : Prop where
  covers : ∀ name ∈ applier.directory.names, name ∈ recorded ∨ name ∈ todo
  sorted : todo.Pairwise (· < ·)
  fresh : ∀ name ∈ todo, name ∉ recorded
  role : ∀ name ∈ todo, "002_" ≤ name → configureGrafanaRole applier.credentials = .ok ()
  ran : applied = ran

/-- A call that has no file left. -/
structure Complete (recorded ran : List String) (applier : Applier) (applied : List String) :
    Prop where
  covers : ∀ name ∈ applier.directory.names, name ∈ recorded
  ran : applied = ran

def Working (recorded ran : List String) (applier : Applier) : Phase → Prop
  | .checking | .waiting | .locked => ran = []
  | .applying todo applied => Applying recorded ran applier todo applied
  | .releasing (some applied) => Complete recorded ran applier applied
  | .returned applied => Complete recorded ran applier applied
  | .releasing none | .raised => True

/-- A call that is not applying stays as it is while another records a version. -/
theorem Working.mono {recorded more ran : List String} {applier : Applier} {phase : Phase}
    (working : Working recorded ran applier phase) (grows : recorded ⊆ more)
    (apart : ∀ todo applied, phase ≠ .applying todo applied) :
    Working more ran applier phase := by
  cases phase with
  | checking | waiting | locked => exact working
  | applying todo applied => exact absurd rfl (apart todo applied)
  | releasing result =>
    cases result with
    | none => trivial
    | some applied => exact ⟨fun name listed => grows (working.covers name listed), working.ran⟩
  | returned applied => exact ⟨fun name listed => grows (working.covers name listed), working.ran⟩
  | raised => trivial

/-- The phase of the call itself plays no part. -/
theorem Working.moved {recorded ran : List String} {applier : Applier} {phase next : Phase}
    (working : Working recorded ran applier phase) :
    Working recorded ran { applier with phase := next } phase := by
  cases phase with
  | checking | waiting | locked => exact working
  | applying todo applied =>
    exact ⟨working.covers, working.sorted, working.fresh, working.role, working.ran⟩
  | releasing result =>
    cases result with
    | none => trivial
    | some applied => exact ⟨working.covers, working.ran⟩
  | returned applied => exact ⟨working.covers, working.ran⟩
  | raised => trivial

theorem recheck_working (deployment : Deployment) (index : Nat) (applier : Applier)
    (unstarted : ran deployment.executed index = []) :
    Working deployment.recorded (ran deployment.executed index) applier
      (deployment.recheck applier) := by
  have applying : (∀ name ∈ pending deployment.recorded applier.directory, "002_" ≤ name →
      configureGrafanaRole applier.credentials = .ok ()) →
        Applying deployment.recorded (ran deployment.executed index) applier
          (pending deployment.recorded applier.directory) [] := by
    intro role
    refine ⟨fun name listed => ?_, (discover_sorted applier.directory).filter _,
      fun name left => ((mem_pending _ _ _).mp left).2, role, unstarted.symm⟩
    by_cases recorded : name ∈ deployment.recorded
    · exact .inl recorded
    · exact .inr ((mem_pending _ _ _).mpr ⟨listed, recorded⟩)
  unfold recheck
  dsimp only
  split
  · split
    · trivial
    · rename_i configured
      exact applying fun _ _ _ => configured
  · rename_i early
    refine applying fun name left late => absurd ?_ early
    exact List.any_eq_true.mpr ⟨name, left, decide_eq_true late⟩

/-- What every interleaving keeps: each version was executed once and is recorded, a call
that ran a file had recorded all that come before it in its directory and had the role's
credentials if the file needs them, and the lock is with the call that works under it. -/
structure Sane (initial : List String) (deployment : Deployment) : Prop where
  history : deployment.recorded = initial ++ deployment.executed.map Prod.snd
  unique : deployment.recorded.Nodup
  known : ∀ entry ∈ deployment.executed, entry.1 < deployment.appliers.length
  holder : ∀ index applier, deployment.appliers[index]? = some applier →
    applier.phase.holds = true → deployment.lock = some index
  working : ∀ index applier, deployment.appliers[index]? = some applier →
    Working deployment.recorded (ran deployment.executed index) applier applier.phase
  role : ∀ entry ∈ deployment.executed, ∀ applier,
    deployment.appliers[entry.1]? = some applier → "002_" ≤ entry.2 →
      configureGrafanaRole applier.credentials = .ok ()
  ordered : ∀ before index name after, deployment.executed = before ++ (index, name) :: after →
    ∀ applier, deployment.appliers[index]? = some applier →
      ∀ other ∈ applier.directory.names, other < name → other ∈ initial ++ before.map Prod.snd

namespace Sane

variable {initial : List String} {deployment : Deployment} {index : Nat} {applier : Applier}

/-- A list entry after one was replaced. -/
theorem set_cases {other : Nat} {found : Applier} {appliers : List Applier} {replaced : Applier}
    (here : (appliers.set index replaced)[other]? = some found) :
    (other = index ∧ found = replaced) ∨ (other ≠ index ∧ appliers[other]? = some found) := by
  rw [List.getElem?_set] at here
  by_cases same : index = other
  · rw [if_pos same] at here
    split at here
    · cases here
      exact .inl ⟨same.symm, rfl⟩
    · cases here
  · rw [if_neg same] at here
    exact .inr ⟨fun equal => same equal.symm, here⟩

/-- A call moves on without recording anything. -/
theorem move {phase : Phase} {lock : Option Nat} (sane : Sane initial deployment)
    (found : deployment.appliers[index]? = some applier)
    (works : Working deployment.recorded (ran deployment.executed index) applier phase)
    (held : phase.holds = true → lock = some index)
    (others : ∀ other ≠ index, deployment.lock = some other → lock = some other) :
    Sane initial { deployment.move index applier phase with lock := lock } where
  history := sane.history
  unique := sane.unique
  known entry listed := by
    simpa [Deployment.move] using sane.known entry listed
  holder other call here holds := by
    rcases set_cases here with ⟨rfl, rfl⟩ | ⟨apart, here⟩
    · exact held holds
    · exact others other apart (sane.holder other call here holds)
  working other call here := by
    rcases set_cases here with ⟨rfl, rfl⟩ | ⟨_, here⟩
    · exact works.moved
    · exact sane.working other call here
  role entry listed call here := by
    rcases set_cases here with ⟨same, rfl⟩ | ⟨_, here⟩
    · exact sane.role entry listed applier (same ▸ found)
    · exact sane.role entry listed call here
  ordered before other name after executed call here := by
    rcases set_cases here with ⟨rfl, rfl⟩ | ⟨_, here⟩
    · exact sane.ordered before other name after executed applier found
    · exact sane.ordered before other name after executed call here

/-- A call commits the first file it has left. -/
theorem commit {name : String} {todo applied : List String} {phase : Phase} {lock : Option Nat}
    (sane : Sane initial deployment) (found : deployment.appliers[index]? = some applier)
    (working : applier.phase = .applying (name :: todo) applied)
    (works : Working (deployment.recorded ++ [name]) (ran deployment.executed index ++ [name])
      applier phase)
    (held : phase.holds = true → lock = some index)
    (others : ∀ other ≠ index, deployment.lock = some other → lock = some other) :
    Sane initial { (deployment.commit index name).move index applier phase with lock := lock } := by
  have applying := sane.working index applier found
  rw [working] at applying
  have mine : deployment.lock = some index :=
    sane.holder index applier found (by rw [working]; rfl)
  have inside : index < deployment.appliers.length := (List.getElem?_eq_some_iff.mp found).1
  refine ⟨?_, ?_, fun entry listed => ?_, fun other call here holds => ?_,
    fun other call here => ?_, fun entry listed call here late => ?_,
    fun before other version after executed call here => ?_⟩
  · simp [Deployment.commit, Deployment.move, sane.history]
  · have new := applying.fresh name List.mem_cons_self
    simpa [Deployment.commit, Deployment.move, List.nodup_append, sane.unique] using
      fun other recorded (same : other = name) => new (same ▸ recorded)
  · simp only [Deployment.commit, Deployment.move, List.length_set]
    rcases List.mem_append.mp listed with before | last
    · exact sane.known entry before
    · rw [List.mem_singleton.mp last]
      exact inside
  · rcases set_cases here with ⟨rfl, rfl⟩ | ⟨apart, here⟩
    · exact held holds
    · exact others other apart (sane.holder other call here holds)
  · rcases set_cases here with ⟨rfl, rfl⟩ | ⟨apart, here⟩
    · simpa [Deployment.commit, Deployment.move, ran_append] using works.moved
    · have same : ran (deployment.commit index name).executed other = ran deployment.executed other := by
        simp [Deployment.commit, ran_append, apart.symm]
      have kept := sane.working other call here
      refine same ▸ kept.mono (List.subset_append_left _ _) fun todo applied busy => ?_
      have theirs := sane.holder other call here (by rw [busy]; rfl)
      exact apart (Option.some.inj (theirs.symm.trans mine))
  · rcases List.mem_append.mp listed with before | now
    · rcases set_cases here with ⟨same, rfl⟩ | ⟨_, here⟩
      · exact sane.role entry before applier (same ▸ found) late
      · exact sane.role entry before call here late
    · rw [List.mem_singleton.mp now] at here late
      rcases set_cases here with ⟨_, rfl⟩ | ⟨apart, _⟩
      · exact applying.role name List.mem_cons_self late
      · exact absurd rfl apart
  · have same : before ++ (other, version) :: after =
        deployment.executed ++ [(index, name)] := executed.symm
    have directory : ∃ earlier, deployment.appliers[other]? = some earlier ∧
        earlier.directory = call.directory := by
      rcases set_cases here with ⟨rfl, rfl⟩ | ⟨_, here⟩
      · exact ⟨applier, found, rfl⟩
      · exact ⟨call, here, rfl⟩
    obtain ⟨earlier, present, listed⟩ := directory
    rcases List.eq_nil_or_concat after with rfl | ⟨rest, last, rfl⟩
    · -- the file that is committed now
      obtain ⟨rfl, entry⟩ := List.append_inj' same rfl
      obtain ⟨rfl, rfl⟩ := Prod.mk.inj (List.cons.inj entry).1
      rw [found] at present
      cases present
      intro file member first
      rw [← sane.history]
      rcases applying.covers file (listed ▸ member) with recorded | left
      · exact recorded
      · rcases List.mem_cons.mp left with rfl | later
        · exact absurd first (String.lt_irrefl file)
        · exact absurd first (String.lt_asymm (List.rel_of_pairwise_cons applying.sorted later))
    · have shorter : deployment.executed = before ++ (other, version) :: rest := by
        have grouped : (before ++ (other, version) :: rest) ++ [last] =
            deployment.executed ++ [(index, name)] := by simpa using same
        exact (List.append_inj' grouped rfl).1.symm
      intro file member
      exact sane.ordered before other version rest shorter earlier present file (listed ▸ member)

theorem act {next : Deployment} {action : Action} (sane : Sane initial deployment)
    (found : deployment.appliers[index]? = some applier)
    (taken : deployment.act index applier action = some next) : Sane initial next := by
  have working := sane.working index applier found
  have mine := sane.holder index applier found
  have keep : ∀ other ≠ index, deployment.lock = some other → deployment.lock = some other :=
    fun _ _ same => same
  have only : applier.phase.holds = true → ∀ lock : Option Nat, ∀ other ≠ index,
      deployment.lock = some other → lock = some other := by
    intro holds lock other apart same
    rw [mine holds] at same
    exact absurd (Option.some.inj same).symm apart
  unfold Deployment.act at taken
  split at taken
  · -- the first look
    rename_i phase
    cases taken
    rw [phase] at working
    by_cases none : pending deployment.recorded applier.directory = []
    · rw [if_pos none]
      refine sane.move found ⟨fun name listed => ?_, working.symm⟩ (fun holds => by cases holds) keep
      by_contra absent
      have left := (mem_pending _ _ _).mpr ⟨listed, absent⟩
      rw [none] at left
      cases left
    · rw [if_neg none]
      exact sane.move found working (fun holds => by cases holds) keep
  · -- the lock is granted
    rename_i phase
    rw [phase] at working
    split at taken
    · rename_i free
      cases taken
      refine sane.move found working (fun _ => rfl) fun other _ same => ?_
      rw [free] at same
      cases same
    · cases taken
  · -- the second look
    rename_i phase
    cases taken
    rw [phase] at working mine
    exact sane.move found (recheck_working deployment index applier working) (fun _ => mine rfl) keep
  · -- a file
    rename_i name todo applied phase
    have applying := working
    rw [phase] at applying mine
    split at taken
    · cases taken
      exact sane.move found trivial (fun _ => mine rfl) keep
    · cases taken
      refine sane.commit found phase ⟨fun file listed => ?_, applying.sorted.of_cons, ?_,
        fun file left => applying.role file (List.mem_cons_of_mem _ left), ?_⟩
        (fun _ => mine rfl) keep
      · rcases applying.covers file listed with recorded | left
        · exact .inl (List.mem_append_left _ recorded)
        · rcases List.mem_cons.mp left with rfl | later
          · exact .inl (by simp)
          · exact .inr later
      · intro file left recorded
        rcases List.mem_append.mp recorded with before | now
        · exact applying.fresh file (List.mem_cons_of_mem _ left) before
        · rw [List.mem_singleton.mp now] at left
          exact String.lt_irrefl name (List.rel_of_pairwise_cons applying.sorted left)
      · rw [applying.ran]
  · -- no file is left
    rename_i applied phase
    cases taken
    rw [phase] at working mine
    refine sane.move found ⟨fun name listed => ?_, working.ran⟩ (fun _ => mine rfl) keep
    exact (working.covers name listed).resolve_right List.not_mem_nil
  · -- the lock is given back
    rename_i result phase
    cases taken
    have others := only (by rw [phase]; rfl) none
    rw [phase] at working
    cases result with
    | none => exact sane.move found trivial (fun holds => by cases holds) others
    | some applied => exact sane.move found working (fun holds => by cases holds) others
  · cases taken
    exact sane.move found trivial (fun holds => by cases holds) keep
  · cases taken
    exact sane.move found trivial (fun holds => by cases holds) keep
  · rename_i phase
    cases taken
    rw [phase] at mine
    exact sane.move found trivial (fun _ => mine rfl) keep
  · rename_i todo applied phase
    cases taken
    rw [phase] at mine
    exact sane.move found trivial (fun _ => mine rfl) keep
  · -- the connection is lost
    rename_i landed
    have others : ∀ other ≠ index, deployment.lock = some other →
        (if applier.phase.holds then none else deployment.lock) = some other := by
      by_cases holds : applier.phase.holds = true
      · simpa only [if_pos holds] using only holds none
      · simpa only [if_neg holds] using keep
    have lost : ∀ landed, Sane initial
        { (deployment.inDoubt index applier landed).move index applier .raised with
          lock := if applier.phase.holds then none else deployment.lock } := by
      intro landed
      unfold inDoubt
      split
      · rename_i name todo applied phase
        split
        · exact sane.commit found phase trivial (fun holds => by cases holds) others
        · exact sane.move found trivial (fun holds => by cases holds) others
      · exact sane.move found trivial (fun holds => by cases holds) others
    split at taken
    · cases taken
    · cases taken
    · cases taken
      exact lost landed
  · cases taken

theorem step {next : Deployment} {event : Event} (sane : Sane initial deployment)
    (taken : deployment.step event = some next) : Sane initial next := by
  cases event with
  | act index action =>
    obtain ⟨applier, found, acted⟩ := Option.bind_eq_some_iff.mp taken
    exact sane.act found acted
  | call directory credentials =>
    cases taken
    have entry : ∀ index applier,
        (deployment.appliers ++ [⟨directory, credentials, .checking⟩])[index]? = some applier →
          deployment.appliers[index]? = some applier ∨
            (index = deployment.appliers.length ∧ applier = ⟨directory, credentials, .checking⟩) := by
      intro index applier here
      rw [List.getElem?_append] at here
      split at here
      · exact .inl here
      · rename_i beyond
        rw [List.getElem?_singleton] at here
        split at here
        · cases here
          exact .inr ⟨by omega, rfl⟩
        · cases here
    have unstarted : ran deployment.executed deployment.appliers.length = [] := by
      rw [ran, List.map_eq_nil_iff, List.filter_eq_nil_iff]
      intro entry listed same
      exact Nat.ne_of_lt (sane.known entry listed) (of_decide_eq_true same)
    refine ⟨sane.history, sane.unique, fun entry listed => ?_, ?_, ?_, ?_, ?_⟩
    · simpa using Nat.lt_succ_of_lt (sane.known entry listed)
    · intro index applier here holds
      rcases entry index applier here with before | ⟨rfl, rfl⟩
      · exact sane.holder index applier before holds
      · cases holds
    · intro index applier here
      rcases entry index applier here with before | ⟨rfl, rfl⟩
      · exact sane.working index applier before
      · exact unstarted
    · intro listed member applier here
      rcases entry listed.1 applier here with before | ⟨same, _⟩
      · exact sane.role listed member applier before
      · exact absurd (same ▸ sane.known listed member) (Nat.lt_irrefl _)
    · intro before index name after executed applier here
      have ranBy := sane.known (index, name) (by simp [show deployment.executed = _ from executed])
      rcases entry index applier here with present | ⟨rfl, rfl⟩
      · exact sane.ordered before index name after executed applier present
      · exact absurd ranBy (Nat.lt_irrefl _)

end Sane

/-- A database with these versions, before any call. -/
def Deployment.fresh (initial : List String) : Deployment := { recorded := initial }

theorem fresh_sane {initial : List String} (unique : initial.Nodup) :
    Sane initial (.fresh initial) where
  history := (List.append_nil initial).symm
  unique := unique
  known _ listed := by cases listed
  holder _ _ here := by cases here
  working _ _ here := by cases here
  role _ listed := by cases listed
  ordered before _ _ _ executed := by cases before <;> cases executed

theorem run_sane {initial : List String} (unique : initial.Nodup) (events : List Event)
    (final : Deployment)
    (reached : Machine.run Deployment.step (.fresh initial) events = some final) :
    Sane initial final :=
  Machine.run_invariant (Sane initial) (fun _ _ _ sane taken => sane.step taken) events _ final
    (fresh_sane unique) reached

/-- Whatever services migrate at once, from whatever releases, and whichever of them lose
their connection: each version is executed at most once, what is recorded is what was
executed, no file runs before one that comes earlier in its directory, and none from 002 on
runs without the role's credentials. -/
theorem migrations_once_in_order (initial : List String) (unique : initial.Nodup)
    (events : List Event) (final : Deployment)
    (reached : Machine.run Deployment.step (.fresh initial) events = some final) :
    final.recorded = initial ++ final.executed.map Prod.snd ∧ final.recorded.Nodup ∧
      ∀ before index name after, final.executed = before ++ (index, name) :: after →
        ∀ applier, final.appliers[index]? = some applier →
          (∀ other ∈ applier.directory.names, other < name →
            other ∈ initial ++ before.map Prod.snd) ∧
          ("002_" ≤ name → configureGrafanaRole applier.credentials = .ok ()) := by
  have sane := run_sane unique events final reached
  refine ⟨sane.history, sane.unique, fun before index name after executed applier found => ?_⟩
  refine ⟨sane.ordered before index name after executed applier found, ?_⟩
  exact sane.role (index, name) (by simp [executed]) applier found

/-- Two services of one release, listed by `glob` in some order. -/
def demoDirectory : Directory := ⟨["002_grafana.sql", "001_init.sql"], by decide⟩

def demoCredentials : Credentials := { password := some "secret" }

/-- Both see two pending files; the second gets the lock, runs the first file and loses
its connection in the other, which the first service then runs. -/
def demoRace : List Event :=
  [.call demoDirectory demoCredentials, .call demoDirectory demoCredentials, .act 0 .check,
    .act 1 .check, .act 1 .lock, .act 1 .recheck, .act 1 .apply, .act 1 (.disconnect false),
    .act 0 .lock, .act 0 .recheck, .act 0 .apply, .act 0 .finish, .act 0 .unlock]

theorem migrations_once_in_order_demo :
    ∃ final, Machine.run Deployment.step (.fresh []) demoRace = some final ∧
      final.recorded.Nodup ∧
      final.executed = [(1, "001_init.sql"), (0, "002_grafana.sql")] := by
  have arrived : ((Machine.run Deployment.step (.fresh []) demoRace).map Deployment.executed) =
      some [(1, "001_init.sql"), (0, "002_grafana.sql")] := by decide +kernel
  obtain ⟨final, reached, executed⟩ := Option.map_eq_some_iff.mp arrived
  exact ⟨final, reached, (migrations_once_in_order [] .nil demoRace final reached).2.1, executed⟩

/-- A call that returns leaves every file of its directory recorded, and names the files
that it ran itself. -/
theorem migrations_complete (initial : List String) (unique : initial.Nodup)
    (events : List Event) (final : Deployment)
    (reached : Machine.run Deployment.step (.fresh initial) events = some final) (index : Nat)
    (applier : Applier) (applied : List String)
    (found : final.appliers[index]? = some applier) (returned : applier.phase = .returned applied) :
    (∀ name ∈ applier.directory.names, name ∈ final.recorded) ∧
      applied = ran final.executed index := by
  have complete := (run_sane unique events final reached).working index applier found
  rw [returned] at complete
  exact ⟨complete.covers, complete.ran⟩

theorem migrations_complete_demo :
    ∃ final, Machine.run Deployment.step (.fresh []) demoRace = some final ∧
      "001_init.sql" ∈ final.recorded ∧ ran final.executed 0 = ["002_grafana.sql"] := by
  have arrived : ((Machine.run Deployment.step (.fresh []) demoRace).bind fun final =>
      final.appliers[0]?.map fun applier => (applier.directory.names, applier.phase)) =
        some (demoDirectory.names, .returned ["002_grafana.sql"]) := by decide +kernel
  obtain ⟨final, reached, here⟩ := Option.bind_eq_some_iff.mp arrived
  obtain ⟨applier, found, same⟩ := Option.map_eq_some_iff.mp here
  obtain ⟨names, phase⟩ := Prod.mk.inj same
  obtain ⟨covered, ranHere⟩ :=
    migrations_complete [] .nil demoRace final reached 0 applier _ found phase
  exact ⟨final, reached, covered _ (by rw [names]; decide), ranHere.symm⟩

end OpenLaps.Migrations
