import Backplane.Rpc.Tasks
import Mathlib.Data.List.Induction

namespace Backplane.Rpc

/-- What a task that is part-way will make of the settings of a name, if it is about the name. -/
def Task.change? (name : String) : Task → Option (Option Settings.Client)
  | .configure other settings => if other = name then some (some settings) else none
  | .forget other => if other = name then some none else none
  | .forgetAll => some none
  | _ => none

namespace Task

variable {task : Task} {name : String}

/-- A task that is to change a client is part-way. -/
theorem isPartWay_of_change? {settings : Option Settings.Client}
    (due : task.change? name = some settings) : task.isPartWay = true := by
  cases task <;> first | rfl | cases due

/-- A task that is part-way is done after its next step, which makes its change and touches no
channel. -/
theorem step_partWay (partWay : task.isPartWay = true) (building : Building)
    (clients : Clients) :
    (task.step building clients).1 = .finished ∧
      (task.step building clients).2.channels = clients.channels ∧
      ∀ name, (task.step building clients).2.configured.get? name =
        (task.change? name).getD (clients.configured.get? name) := by
  cases task with
  | configure other settings =>
      refine ⟨rfl, rfl, fun name => (Entries.get?_insert other name settings _).trans ?_⟩
      rw [change?]
      split <;> rfl
  | forget other =>
      refine ⟨rfl, rfl, fun name => (Entries.get?_erase other name _).trans ?_⟩
      rw [change?]
      split <;> rfl
  | forgetAll => exact ⟨rfl, rfl, fun name => rfl⟩
  | _ => cases partWay

/-- What a step of a task can mean for a name. -/
inductive Effect (task : Task) (clients : Clients) (name : String) (next : Task)
    (after : Clients) : Prop
  | spares (before : task.change? name = none) (later : next.change? name = none)
      (stored : after.configured.get? name = clients.configured.get? name)
      (channel : after.channels.get? name = clients.channels.get? name)
  | disconnects (channel : after.channels.get? name = none)
  | changes (settings : Option Settings.Client) (due : task.change? name = some settings)
      (later : next.change? name = none) (stored : after.configured.get? name = settings)
      (channel : after.channels.get? name = clients.channels.get? name)
  | keeps (settings : Settings.Client) (endpoint : Endpoint)
      (due : task = .keep name settings endpoint) (later : next.change? name = none)
      (stored : after.configured.get? name = clients.configured.get? name)
      (free : clients.channels.get? name = none)
      (channel : after.channels.get? name =
        some { number := clients.built, settings, endpoint })

/-- One step of a task has one of the effects on every client. -/
theorem effect_step (task : Task) (building : Building) (clients : Clients) (name : String) :
    Effect task clients name (task.step building clients).1 (task.step building clients).2 := by
  -- A task about one name spares every other; the rest are about all names.
  have erased (other : String) : (clients.disconnect other).channels.get? name =
      if other = name then none else clients.channels.get? name :=
    Entries.get?_erase other name clients.channels
  cases task with
  | findChannel other =>
      simp only [step]
      split <;> exact .spares rfl rfl rfl rfl
  | findSettings other =>
      simp only [step]
      split <;> exact .spares rfl rfl rfl rfl
  | build other settings =>
      simp only [step]
      split <;> exact .spares rfl rfl rfl rfl
  | keep other settings endpoint =>
      have inserted := Entries.get?_insert other name
        { number := clients.built, settings, endpoint } clients.channels
      simp only [step, Clients.keep]
      split
      next => exact .spares rfl rfl rfl rfl
      next free =>
        by_cases same : other = name
        · subst same
          exact .keeps settings endpoint rfl rfl rfl free (inserted.trans (if_pos rfl))
        · exact .spares rfl rfl rfl (inserted.trans (if_neg same))
  | dropChannel other settings =>
      by_cases same : other = name
      · exact .disconnects ((erased other).trans (if_pos same))
      · exact .spares rfl (if_neg same) rfl ((erased other).trans (if_neg same))
  | configure other settings =>
      have put := Entries.get?_insert other name settings clients.configured
      by_cases same : other = name
      · exact .changes (some settings) (if_pos same) rfl (put.trans (if_pos same)) rfl
      · exact .spares (if_neg same) rfl (put.trans (if_neg same)) rfl
  | close other =>
      by_cases same : other = name
      · exact .disconnects ((erased other).trans (if_pos same))
      · exact .spares rfl rfl rfl ((erased other).trans (if_neg same))
  | disconnect other =>
      by_cases same : other = name
      · exact .disconnects ((erased other).trans (if_pos same))
      · exact .spares rfl (if_neg same) rfl ((erased other).trans (if_neg same))
  | forget other =>
      have gone := Entries.get?_erase other name clients.configured
      by_cases same : other = name
      · exact .changes none (if_pos same) rfl (gone.trans (if_pos same)) rfl
      · exact .spares (if_neg same) rfl (gone.trans (if_neg same)) rfl
  | dropAllChannels => exact .disconnects rfl
  | forgetAll => exact .changes none rfl rfl rfl rfl
  | finished => exact .spares rfl rfl rfl rfl

end Task

namespace Workload

variable {load : Workload} {name : String} {task : Task} {index : Nat}
variable {outcome : Option Settings.Client}

/-- What the changes under way will make of the settings of a name. -/
def changes (load : Workload) (name : String) : List (Option Settings.Client) :=
  load.tasks.filterMap (Task.change? name)

/-- What the settings of a name may be once all the changes under way are done: what the last of
them makes it, or what it is now if there are none. -/
def outcomes (load : Workload) (name : String) : List (Option Settings.Client) :=
  match load.changes name with
  | [] => [load.clients.configured.get? name]
  | changes => changes

/-- However the changes under way end, every channel was built from the settings of its name. -/
def Secure (load : Workload) : Prop :=
  ∀ name channel, load.clients.channels.get? name = some channel →
    ∀ outcome ∈ load.outcomes name, outcome = some channel.settings

/-- The next step of a task keeps a channel for a name that has none, built from settings that the
name may not have once all the changes under way are done. -/
def Late (load : Workload) (index : Nat) : Prop :=
  ∃ name settings endpoint,
    load.tasks[index]? = some (.keep name settings endpoint) ∧
      load.clients.channels.get? name = none ∧
      ∃ outcome ∈ load.outcomes name, outcome ≠ some settings

/-- A workload in which the changes under way have been done, and nothing else. -/
inductive Settles : Workload → Workload → Prop
  | quiet (load : Workload) (quiet : load.isQuiet = true) : Settles load load
  | finish (building : Building) (index : Nat) (task : Task) (load last : Workload)
      (found : load.tasks[index]? = some task) (partWay : task.isPartWay = true)
      (rest : Settles (load.move (.advance building index)) last) : Settles load last

/-- What becomes of settings is what a change under way leaves, or what is stored. -/
theorem mem_outcomes_iff : outcome ∈ load.outcomes name ↔ outcome ∈ load.changes name ∨
    load.changes name = [] ∧ outcome = load.clients.configured.get? name := by
  unfold outcomes
  cases load.changes name <;> simp

/-- With the same changes and the same settings the same may become of a client. -/
theorem outcomes_congr {next : Workload} (changes : next.changes name = load.changes name)
    (stored : next.clients.configured.get? name = load.clients.configured.get? name) :
    next.outcomes name = load.outcomes name := by
  rw [outcomes, outcomes, changes, stored]

/-- A step changes one task and leaves those in front of it and behind it as they are. -/
theorem move_advance (found : load.tasks[index]? = some task) (building : Building) :
    ∃ front rest, load.tasks = front ++ task :: rest ∧
      load.move (.advance building index) =
        { clients := (task.step building load.clients).2
          tasks := front ++ (task.step building load.clients).1 :: rest } := by
  obtain ⟨inside, rfl⟩ := List.getElem?_eq_some_iff.mp found
  refine ⟨load.tasks.take index, load.tasks.drop (index + 1), ?_, ?_⟩
  · rw [List.getElem_cons_drop, List.take_append_drop]
  · simp only [move, found]
    rw [List.set_eq_take_append_cons_drop, if_pos inside]

/-- Of a step of a task the changes under way show what the task was to change and what it is to
change next. -/
theorem changes_advance (found : load.tasks[index]? = some task) (building : Building)
    (name : String) :
    ∃ front rest,
      load.changes name = front ++ (task.change? name).toList ++ rest ∧
      (load.move (.advance building index)).changes name =
        front ++ ((task.step building load.clients).1.change? name).toList ++ rest := by
  obtain ⟨front, rest, tasks, moved⟩ := move_advance found building
  refine ⟨front.filterMap (Task.change? name), rest.filterMap (Task.change? name), ?_, ?_⟩
  · rw [changes, tasks, List.filterMap_append, List.filterMap_cons, List.append_assoc]
    cases task.change? name <;> rfl
  · rw [moved, changes, List.filterMap_append, List.filterMap_cons, List.append_assoc]
    cases (task.step building load.clients).1.change? name <;> rfl

/-- A step of a task that neither changes a name nor comes to change it leaves open what was. -/
theorem outcomes_advance (found : load.tasks[index]? = some task) (building : Building)
    (before : task.change? name = none)
    (after : (task.step building load.clients).1.change? name = none)
    (stored : (task.step building load.clients).2.configured.get? name =
      load.clients.configured.get? name) :
    (load.move (.advance building index)).outcomes name = load.outcomes name := by
  apply outcomes_congr
  · obtain ⟨front, rest, now, next⟩ := changes_advance found building name
    rw [now, next, before, after]
  · obtain ⟨front, rest, -, moved⟩ := move_advance found building
    rw [moved]
    exact stored

/-- When a task moves on, the clients are as its step leaves them. -/
theorem clients_advance (found : load.tasks[index]? = some task) (building : Building) :
    (load.move (.advance building index)).clients = (task.step building load.clients).2 := by
  obtain ⟨front, rest, -, moved⟩ := move_advance found building
  rw [moved]

/-- What a change under way leaves may become of a client. -/
theorem mem_outcomes_of_change (found : load.tasks[index]? = some task)
    (due : task.change? name = some outcome) : outcome ∈ load.outcomes name :=
  mem_outcomes_iff.mpr (.inl (List.mem_filterMap.mpr ⟨task, List.mem_of_getElem? found, due⟩))

/-- After a change, the settings of its name are what it made them, or what another change will
make them. -/
theorem mem_outcomes_of_advance (found : load.tasks[index]? = some task) (building : Building)
    {settings : Option Settings.Client} (due : task.change? name = some settings)
    (later : (task.step building load.clients).1.change? name = none)
    (stored : (task.step building load.clients).2.configured.get? name = settings)
    (listed : outcome ∈ (load.move (.advance building index)).outcomes name) :
    outcome ∈ load.outcomes name := by
  obtain ⟨front, rest, now, next⟩ := changes_advance found building name
  rw [due] at now
  rw [later] at next
  rw [mem_outcomes_iff, next, clients_advance found, stored] at listed
  rcases listed with other | ⟨-, rfl⟩
  · refine mem_outcomes_iff.mpr (.inl ?_)
    rw [now]
    simp only [Option.toList, List.append_nil, List.mem_append] at other ⊢
    exact other.imp_left .inl
  · exact mem_outcomes_of_change found due

/-- A step that keeps no channel late leaves everything secure. -/
theorem Secure.advance (secure : load.Secure) (punctual : ¬ load.Late index)
    (building : Building) : (load.move (.advance building index)).Secure := by
  cases found : load.tasks[index]? with
  | none =>
      simp only [move, found]
      exact secure
  | some task =>
      intro name channel connected outcome listed
      rw [clients_advance found] at connected
      cases task.effect_step building load.clients name with
      | spares before later stored same =>
          rw [outcomes_advance found building before later stored] at listed
          exact secure name channel (same.symm.trans connected) outcome listed
      | disconnects gone =>
          rw [gone] at connected
          cases connected
      | changes settings due later stored same =>
          exact secure name channel (same.symm.trans connected) outcome
            (mem_outcomes_of_advance found building due later stored listed)
      | keeps settings endpoint due later stored free kept =>
          subst due
          rw [kept] at connected
          cases connected
          rw [outcomes_advance found building rfl later stored] at listed
          by_contra other
          exact punctual ⟨name, settings, endpoint, found, free, outcome, listed, other⟩

/-- A task that begins is to change nothing yet. -/
theorem Opening.change?_eq_none (opening : Opening task) (name : String) :
    task.change? name = none := by
  cases opening <;> rfl

/-- A task that begins keeps a workload secure. -/
theorem Secure.begin (secure : load.Secure) (opening : Opening task) :
    (load.move (.begin task)).Secure := by
  intro name channel connected
  have same : (load.move (.begin task)).outcomes name = load.outcomes name := by
    refine outcomes_congr ?_ rfl
    simp [move, changes, opening.change?_eq_none name]
  rw [same]
  exact secure name channel connected

/-- In a quiet workload no change is under way. -/
theorem changes_eq_nil_of_isQuiet (quiet : load.isQuiet = true) (name : String) :
    load.changes name = [] := by
  refine List.filterMap_eq_nil_iff.mpr fun task listed => ?_
  rw [isQuiet, Bool.not_eq_true', List.any_eq_false] at quiet
  cases due : task.change? name with
  | none => rfl
  | some settings => exact absurd (Task.isPartWay_of_change? due) (quiet task listed)

/-- A secure workload that is quiet is fresh. -/
theorem Secure.fresh (secure : load.Secure) (quiet : load.isQuiet = true) :
    Fresh load.clients := by
  intro name channel connected
  refine secure name channel connected _ (mem_outcomes_iff.mpr (.inr ⟨?_, rfl⟩))
  exact changes_eq_nil_of_isQuiet quiet name

/-- A task that is part-way keeps no channel, so it is not late. -/
theorem not_late_of_isPartWay (found : load.tasks[index]? = some task)
    (partWay : task.isPartWay = true) : ¬ load.Late index := by
  rintro ⟨name, settings, endpoint, keeps, -⟩
  rw [found] at keeps
  cases keeps
  cases partWay

/-- Once the changes under way are done, a secure workload is fresh. -/
theorem Secure.fresh_of_settles {last : Workload} (secure : load.Secure)
    (settles : Settles load last) : Fresh last.clients := by
  induction settles with
  | quiet load quiet => exact secure.fresh quiet
  | finish building index task load last found partWay rest ih =>
      exact ih (secure.advance (not_late_of_isPartWay found partWay) building)

/-- When a task moves on, no other does. -/
theorem tasks_advance (found : load.tasks[index]? = some task) (building : Building) :
    (load.move (.advance building index)).tasks =
      load.tasks.set index (task.step building load.clients).1 := by
  simp only [move, found]

/-- If no other change is under way, the settings of a name are what this one makes them. -/
theorem mem_outcomes_of_last (found : load.tasks[index]? = some task)
    (due : task.change? name = some outcome)
    (last : ¬ ∃ other task, other ≠ index ∧ load.tasks[other]? = some task ∧
      task.isPartWay = true)
    (building : Building) : outcome ∈ (load.move (.advance building index)).outcomes name := by
  obtain ⟨done, -, stored⟩ :=
    Task.step_partWay (Task.isPartWay_of_change? due) building load.clients
  refine mem_outcomes_iff.mpr (.inr ⟨List.filterMap_eq_nil_iff.mpr ?_, ?_⟩)
  · -- Any change that is still listed would be another one.
    intro next listed
    rw [tasks_advance found, done] at listed
    obtain ⟨other, there⟩ := List.mem_iff_getElem?.mp listed
    rw [List.getElem?_set] at there
    split at there
    next =>
      split at there
      next =>
        cases there
        rfl
      next => cases there
    next apart =>
      cases changes : next.change? name with
      | none => rfl
      | some settings =>
          exact absurd ⟨other, next, Ne.symm apart, there, Task.isPartWay_of_change? changes⟩ last
  · rw [clients_advance found, stored, due]
    rfl

/-- While changes are under way, one of them can be done such that an outcome stays possible. -/
theorem exists_partWay (busy : load.isQuiet = false) (listed : outcome ∈ load.outcomes name)
    (building : Building) :
    ∃ index task, load.tasks[index]? = some task ∧ task.isPartWay = true ∧
      outcome ∈ (load.move (.advance building index)).outcomes name := by
  rcases mem_outcomes_iff.mp listed with pending | ⟨idle, rfl⟩
  · obtain ⟨chosen, member, due⟩ := List.mem_filterMap.mp pending
    obtain ⟨index, found⟩ := List.mem_iff_getElem?.mp member
    -- Another change goes first, so that the chosen one is the last.
    by_cases last : ∃ other task, other ≠ index ∧ load.tasks[other]? = some task ∧
        task.isPartWay = true
    · obtain ⟨other, task, apart, there, partWay⟩ := last
      have kept : (load.move (.advance building other)).tasks[index]? = some chosen := by
        rw [tasks_advance there, List.getElem?_set_ne apart]
        exact found
      exact ⟨other, task, there, partWay, mem_outcomes_of_change kept due⟩
    · exact ⟨index, chosen, found, Task.isPartWay_of_change? due,
        mem_outcomes_of_last found due last building⟩
  · rw [isQuiet, Bool.not_eq_false', List.any_eq_true] at busy
    obtain ⟨task, member, partWay⟩ := busy
    obtain ⟨index, found⟩ := List.mem_iff_getElem?.mp member
    obtain ⟨done, -, stored⟩ := Task.step_partWay partWay building load.clients
    have free : task.change? name = none := List.filterMap_eq_nil_iff.mp idle task member
    refine ⟨index, task, found, partWay, ?_⟩
    rw [outcomes_advance found building free (by rw [done]; rfl) (by rw [stored, free]; rfl)]
    exact listed

/-- A task that is part-way is done after one step. -/
theorem countP_advance (found : load.tasks[index]? = some task)
    (partWay : task.isPartWay = true) (building : Building) :
    load.tasks.countP Task.isPartWay =
      (load.move (.advance building index)).tasks.countP Task.isPartWay + 1 := by
  obtain ⟨front, rest, tasks, moved⟩ := move_advance found building
  rw [moved, tasks, (Task.step_partWay partWay building load.clients).1]
  simp only [List.countP_append, List.countP_cons, partWay, if_true]
  rfl

/-- Any outcome that is possible can come about, and it leaves the channels as they are. -/
theorem exists_settles (listed : outcome ∈ load.outcomes name) (building : Building) :
    ∃ last, Settles load last ∧ last.clients.channels = load.clients.channels ∧
      last.clients.configured.get? name = outcome := by
  -- Each step is the last of its task, so there are fewer changes under way after it.
  induction under : load.tasks.countP Task.isPartWay generalizing load with
  | zero =>
      have quiet : load.isQuiet = true := by
        rw [isQuiet, Bool.not_eq_true', List.any_eq_false]
        exact List.countP_eq_zero.mp under
      rcases mem_outcomes_iff.mp listed with pending | ⟨-, rfl⟩
      · rw [changes_eq_nil_of_isQuiet quiet] at pending
        cases pending
      · exact ⟨load, .quiet load quiet, rfl, rfl⟩
  | succ count ih =>
      have busy : load.isQuiet = false := by
        rw [isQuiet, Bool.not_eq_false', List.any_eq_true]
        exact List.countP_pos_iff.mp (under ▸ Nat.succ_pos count)
      obtain ⟨index, task, found, partWay, possible⟩ := exists_partWay busy listed building
      have counted := countP_advance found partWay building
      obtain ⟨last, settles, channels, stored⟩ := ih possible (by omega)
      refine ⟨last, .finish building index task load last found partWay settles, ?_, stored⟩
      rw [channels, clients_advance found]
      exact (Task.step_partWay partWay building load.clients).2.1

/-- A channel that is kept late is out of date as soon as the changes under way are done in an
unfortunate order. -/
theorem exists_stale (late : load.Late index) (building : Building) :
    ∃ last, Settles (load.move (.advance building index)) last ∧ ¬ Fresh last.clients := by
  obtain ⟨name, settings, endpoint, found, free, outcome, listed, other⟩ := late
  have kept : (Task.step building (.keep name settings endpoint) load.clients).2 =
      { load.clients with
        channels := load.clients.channels.insert name
          { number := load.clients.built, settings, endpoint }
        built := load.clients.built + 1 } := by
    simp only [Task.step, Clients.keep, free]
  have possible : outcome ∈ (load.move (.advance building index)).outcomes name := by
    rw [outcomes_advance found building rfl rfl (by rw [kept])]
    exact listed
  obtain ⟨last, settles, channels, stored⟩ := exists_settles possible building
  refine ⟨last, settles, fun fresh => other ?_⟩
  rw [← stored]
  refine fresh name { number := load.clients.built, settings, endpoint } ?_
  rw [channels, clients_advance found, kept, Entries.get?_insert, if_pos rfl]

/-- The last move is made on what the others left. -/
theorem run_concat (load : Workload) (moves : List Move) (last : Move) :
    load.run (moves ++ [last]) = (load.run moves).move last := by
  rw [run, List.foldl_append]
  rfl

/-- A run without late tasks keeps a workload secure. -/
theorem Secure.run (secure : load.Secure) {moves : List Move}
    (openings : ∀ task, .begin task ∈ moves → Opening task)
    (punctual : ∀ past building index, past ++ [.advance building index] <+: moves →
      ¬ (load.run past).Late index) : (load.run moves).Secure := by
  induction moves using List.reverseRecOn with
  | nil => exact secure
  | append_singleton moves last ih =>
      have before := ih (fun task listed => openings task (List.mem_append_left _ listed))
        fun past building index prior => punctual past building index
          (prior.trans (List.prefix_append moves [last]))
      rw [run_concat]
      cases last with
      | begin task => exact before.begin (openings task (by simp))
      | advance building index =>
          exact before.advance (punctual moves building index (List.prefix_refl _)) building

/-- A workload without tasks and channels is secure. -/
theorem secure_start (configured : Entries Settings.Client) :
    Secure { clients := { configured } } := by
  intro name channel connected
  cases connected

/-- A client is asked for and another task sets to work; it is done before the channel of the
client is kept. -/
def overtaken (building : Building) (name : String) (task : Task) : List Move :=
  [.begin (.client name), .advance building 0, .advance building 0, .advance building 0,
    .begin task, .advance building 1, .advance building 1, .advance building 0]

/-- The tasks of the run begin as tasks do. -/
theorem opening_of_mem_overtaken {building : Building} {other : Task} (opening : Opening other)
    (listed : .begin task ∈ overtaken building name other) : Opening task := by
  simp only [overtaken, List.mem_cons, Move.begin.injEq, reduceCtorEq, false_or, List.not_mem_nil,
    or_false] at listed
  rcases listed with rfl | rfl
  · exact .client name
  · exact opening

/-- Whatever tasks use the same clients, and in whichever order they take their steps: at every
moment of a run, once the changes then under way are done, every connected client is configured
and its channel was built from those settings, exactly if no step of the run keeps a channel
late. -/
theorem settles_fresh_iff_not_late (configured : Entries Settings.Client) (moves : List Move)
    (openings : ∀ task, .begin task ∈ moves → Opening task) :
    let start : Workload := { clients := { configured } }
    (∀ past last, past <+: moves → Settles (start.run past) last → Fresh last.clients) ↔
      ∀ past building index, past ++ [.advance building index] <+: moves →
        ¬ (start.run past).Late index := by
  intro start
  constructor
  · intro fresh past building index prior late
    obtain ⟨last, settles, stale⟩ := exists_stale late building
    rw [← run_concat] at settles
    exact stale (fresh _ last prior settles)
  · intro punctual past last prior settles
    have secure : (start.run past).Secure := by
      refine (secure_start configured).run ?_ ?_
      · intro task listed
        exact openings task (prior.subset listed)
      · intro past' building index earlier
        exact punctual past' building index (earlier.trans prior)
    exact secure.fresh_of_settles settles

/-- A client is configured anew while its channel is built, so the run is not fresh throughout. -/
theorem not_settles_fresh_overtaken :
    let building : Building := fun settings => .ok { uri := { authority := settings.target } }
    let configured : Entries Settings.Client := [("users", { target := "users:50051" })]
    let moves := overtaken building "users" (.add "users" { target := "users:50052" })
    ¬ ∀ past last, past <+: moves →
      Settles (({ clients := { configured } } : Workload).run past) last →
        Fresh last.clients := by
  intro building configured moves fresh
  have openings : ∀ task, .begin task ∈ moves → Opening task := fun _ =>
    opening_of_mem_overtaken (.add ..)
  have punctual := (settles_fresh_iff_not_late configured moves openings).mp fresh
  have reached : ({ clients := { configured } } : Workload).run moves.dropLast =
      { clients := { configured := [("users", { target := "users:50052" })] }
        tasks := [.keep "users" { target := "users:50051" }
          { uri := { authority := "users:50051" } }, .finished] } := rfl
  refine punctual moves.dropLast building 0 (List.prefix_refl _) ?_
  rw [reached]
  exact ⟨"users", _, _, rfl, rfl, some { target := "users:50052" }, .head _, by simp⟩

/-- What a run comes to is reachable. -/
theorem reachable_run (configured : Entries Settings.Client) (moves : List Move)
    (openings : ∀ task, .begin task ∈ moves → Opening task) :
    Reachable (run { clients := { configured } } moves) := by
  induction moves using List.reverseRecOn with
  | nil => exact .start configured
  | append_singleton moves last ih =>
      have before := ih fun task listed => openings task (List.mem_append_left _ listed)
      rw [run_concat]
      cases last with
      | begin task => exact before.begin (openings task (by simp))
      | advance building index => exact before.advance building index

/-- Clients are not fresh if a channel was built for another target than is configured. -/
theorem not_fresh {clients : Clients} (name target : String)
    (kept : (clients.channels.get? name).map (·.settings.target) = some target)
    (stored : (clients.configured.get? name).map (·.target) ≠ some target) :
    ¬ Fresh clients := by
  intro fresh
  obtain ⟨channel, connected, rfl⟩ := Option.map_eq_some_iff.mp kept
  rw [fresh name channel connected] at stored
  exact stored rfl

/-- While its channel is built, a client is configured anew, or it is forgotten. -/
theorem overtaken_stale :
    let building := Endpoint.build ⟨[]⟩ fun _ _ => true
    let start : Workload :=
      { clients := { configured := [("users", { target := "users:50051" })] } }
    let replaced := start.run
      (overtaken building "users" (.add "users" { target := "users:50052" }))
    let removed := start.run (overtaken building "users" (.removeSettings "users"))
    (Reachable replaced ∧ replaced.isQuiet = true ∧ ¬ Fresh replaced.clients) ∧
      Reachable removed ∧ removed.isQuiet = true ∧ ¬ Fresh removed.clients := by
  intro building start replaced removed
  have reached (task : Task) (opening : Opening task) :
      Reachable (start.run (overtaken building "users" task)) :=
    reachable_run _ _ fun _ => opening_of_mem_overtaken opening
  refine ⟨⟨reached _ (.add ..), by decide +kernel, ?_⟩, reached _ (.removeSettings ..),
    by decide +kernel, ?_⟩
  · exact not_fresh "users" "users:50051" (by decide +kernel) (by decide +kernel)
  · exact not_fresh "users" "users:50051" (by decide +kernel) (by decide +kernel)

end Workload

end Backplane.Rpc
