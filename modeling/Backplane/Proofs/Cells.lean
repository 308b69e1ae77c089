import Backplane.Cells
import Mathlib.Data.List.Induction

namespace Backplane.Cells

variable {κ μ : Type} {collectorOf : κ → μ}

namespace Task

/-- Tells whether a task has set the assembly of the process. -/
def hasWon : Task κ μ → Bool
  | .shareCollector _ => true
  | .confirmAssembly _ => true
  | .finished (.started result) => result.isOk
  | _ => false

/-- Tells whether a task has answered that it set the assembly of the process. -/
def hasStarted : Task κ μ → Bool
  | .finished (.started result) => result.isOk
  | _ => false

/-- Tells whether a task has set a cell, or is done and has not failed. -/
def hasSucceeded : Task κ μ → Bool
  | .finished answer => !answer.hasFailed
  | task => task.hasWon

/-- Tells whether a task that set the assembly of the process has shared the collector. -/
def hasShared : Task κ μ → Bool
  | .confirmAssembly _ => true
  | task => task.hasStarted

def isFinished : Task κ μ → Bool
  | .finished _ => true
  | _ => false

/-- The assembly that a task is to share or has answered. -/
def assembly? : Task κ μ → Option κ
  | .shareCollector assembly => some assembly
  | .finished (.started result) => result.toOption
  | _ => none

/-- A task that holds an assembly has won. -/
theorem hasWon_of_assembly? {task : Task κ μ} {assembly : κ}
    (holds : task.assembly? = some assembly) : task.hasWon = true := by
  unfold assembly? at holds
  split at holds
  next => rfl
  next result =>
    cases result with
    | error fault => cases holds
    | ok started => rfl
  next => cases holds

/-- A task that has started has won. -/
theorem hasWon_of_hasStarted {task : Task κ μ} (started : task.hasStarted = true) :
    task.hasWon = true := by
  unfold hasStarted at started
  split at started
  next => exact started
  next => cases started

/-- A finished task has started exactly if it has won. -/
theorem hasStarted_of_isFinished {task : Task κ μ} (finished : task.isFinished = true) :
    task.hasStarted = task.hasWon := by
  cases task with
  | finished answer => cases answer <;> rfl
  | _ => cases finished

/-- A task that has shared its collector has won. -/
theorem hasWon_of_hasShared {task : Task κ μ} (shared : task.hasShared = true) :
    task.hasWon = true := by
  unfold hasShared at shared
  split at shared
  next => rfl
  next => exact hasWon_of_hasStarted shared

/-- A task under way is bound to succeed exactly if it has won. -/
theorem hasSucceeded_of_unfinished {task : Task κ μ} (unfinished : task.isFinished = false) :
    task.hasSucceeded = task.hasWon := by
  cases task with
  | finished answer => cases unfinished
  | _ => rfl

end Task

/-- Nothing that a cell holds is given up. -/
structure Grows (before after : Cells κ μ) : Prop where
  assembly : ∀ assembly, before.assembly = some assembly → after.assembly = some assembly
  collector : ∀ collector, before.collector = some collector → after.collector = some collector

theorem Grows.refl (cells : Cells κ μ) : Grows cells cells where
  assembly := fun _ held => held
  collector := fun _ held => held

theorem Grows.trans {first second third : Cells κ μ} (begins : Grows first second)
    (goesOn : Grows second third) : Grows first third where
  assembly := fun assembly held => goesOn.assembly assembly (begins.assembly assembly held)
  collector := fun collector held => goesOn.collector collector (begins.collector collector held)

/-- What a step of a task can do to the cells. -/
inductive Effect (collectorOf : κ → μ) (cells : Cells κ μ) :
    Task κ μ → Task κ μ → Cells κ μ → Prop
  /-- Nothing is set by a task that has set no assembly. -/
  | passes (task next : Task κ μ) (unfinished : task.isFinished = false)
      (before : task.hasWon = false) (later : next.hasWon = false) :
      Effect collectorOf cells task next cells
  | wins (assembly : κ) (free : cells.assembly = none) :
      Effect collectorOf cells (.setAssembly assembly) (.shareCollector assembly)
        { cells with assembly := some assembly }
  | shares (assembly : κ) :
      Effect collectorOf cells (.shareCollector assembly)
        (.confirmAssembly (cells.setCollector (collectorOf assembly)).1)
        (cells.setCollector (collectorOf assembly)).2
  | confirms (shared : Bool) :
      Effect collectorOf cells (.confirmAssembly shared)
        (.finished (.started cells.getAssembly)) cells
  /-- A collector is set by a task that is no start. -/
  | fills (task : Task κ μ) (answer : Answer κ μ) (collector : μ)
      (free : cells.collector = none) (unfinished : task.isFinished = false)
      (before : task.hasWon = false) (later : (Task.finished answer).hasWon = false)
      (well : answer.hasFailed = false) :
      Effect collectorOf cells task (.finished answer) { cells with collector := some collector }
  | rests (answer : Answer κ μ) :
      Effect collectorOf cells (.finished answer) (.finished answer) cells

/-- One step of a task has one of the effects, and no other. -/
theorem effect_stepTask (collectorOf : κ → μ) (making : Making κ μ) (task : Task κ μ)
    (cells : Cells κ μ) :
    Effect collectorOf cells task (stepTask collectorOf making task cells).1
      (stepTask collectorOf making task cells).2 := by
  -- What a task does depends on the two cells alone, and on the making where it has to make.
  obtain ⟨assembly, collector⟩ := cells
  cases task with
  | checkAssembly => cases assembly <;> exact .passes _ _ rfl rfl rfl
  | makeAssembly =>
      simp only [stepTask]
      split <;> exact .passes _ _ rfl rfl rfl
  | setAssembly mine =>
      cases assembly with
      | none => exact .wins mine rfl
      | some held => exact .passes _ _ rfl rfl rfl
  | shareCollector mine => exact .shares mine
  | confirmAssembly shared => exact .confirms shared
  | readAssembly => exact .passes _ _ rfl rfl rfl
  | install mine =>
      cases collector with
      | none => exact .fills _ _ mine rfl rfl rfl rfl rfl
      | some held => exact .passes _ _ rfl rfl rfl
  | makeCollector =>
      cases collector with
      | some held => exact .passes _ _ rfl rfl rfl
      | none =>
          obtain ⟨_, fault | made⟩ := making
          · exact .passes _ _ rfl rfl rfl
          · exact .fills _ _ made rfl rfl rfl rfl rfl
  | readCollector discarding =>
      cases collector with
      | some held => exact .passes _ _ rfl rfl rfl
      | none =>
          obtain ⟨_, fault | made⟩ := making
          · exact .passes _ _ rfl rfl rfl
          · exact .fills _ _ made rfl rfl rfl rfl rfl
  | finished answer => exact .rests answer

/-- Setting a collector leaves the assembly alone. -/
@[simp] theorem assembly_setCollector (cells : Cells κ μ) (collector : μ) :
    (cells.setCollector collector).2.assembly = cells.assembly := by
  unfold setCollector
  split <;> rfl

/-- A collector is taken exactly if there was none. -/
theorem setCollector_answer (cells : Cells κ μ) (collector : μ) :
    (cells.setCollector collector).1 = cells.collector.isNone := by
  unfold setCollector
  cases cells.collector <;> rfl

/-- Setting a collector replaces none. -/
theorem grows_setCollector (cells : Cells κ μ) (collector : μ) :
    Grows cells (cells.setCollector collector).2 := by
  unfold setCollector
  split
  next => exact .refl cells
  next free =>
    refine ⟨fun _ held => held, fun old held => ?_⟩
    simp [held] at free

/-- There is a collector afterwards, be it this one or another. -/
theorem isSome_setCollector (cells : Cells κ μ) (collector : μ) :
    (cells.setCollector collector).2.collector.isSome = true := by
  unfold setCollector
  split
  next occupied => exact occupied
  next => rfl

/-- A step loses nothing that is set. -/
theorem Effect.grows {task next : Task κ μ} {before after : Cells κ μ}
    (effect : Effect collectorOf before task next after) : Grows before after := by
  cases effect with
  | passes => exact .refl before
  | wins assembly free => exact ⟨fun old held => by simp [free] at held, fun _ held => held⟩
  | shares assembly => exact grows_setCollector before _
  | confirms => exact .refl before
  | fills task answer collector free =>
      exact ⟨fun _ held => held, fun old held => by simp [free] at held⟩
  | rests => exact .refl before

/-- A task that has won goes on to answer so, as the assembly is there. -/
theorem Effect.hasSucceeded {task next : Task κ μ} {before after : Cells κ μ}
    (effect : Effect collectorOf before task next after)
    (won : task.hasWon = true → before.assembly.isSome = true)
    (succeeded : task.hasSucceeded = true) : next.hasSucceeded = true := by
  cases effect with
  | passes task next unfinished idle =>
      rw [Task.hasSucceeded_of_unfinished unfinished, idle] at succeeded
      cases succeeded
  | wins => rfl
  | shares => rfl
  | confirms shared =>
      obtain ⟨assembly, held⟩ := Option.isSome_iff_exists.mp (won rfl)
      simp [Task.hasSucceeded, getAssembly, held, Answer.hasFailed, Except.isOk, Except.toBool]
  | fills task answer collector free unfinished idle later well => simp [Task.hasSucceeded, well]
  | rests => exact succeeded

/-- The assembly of the process is set exactly when a task comes to have won. -/
theorem Effect.winners {task next : Task κ μ} {before after : Cells κ μ}
    (effect : Effect collectorOf before task next after)
    (won : task.hasWon = true → before.assembly.isSome = true) :
    next.hasWon.toNat + before.assembly.toList.length =
      task.hasWon.toNat + after.assembly.toList.length := by
  cases effect with
  | passes task next unfinished idle later => rw [idle, later]
  | wins assembly free =>
      rw [free]
      rfl
  | shares assembly =>
      rw [assembly_setCollector]
      rfl
  | confirms shared =>
      obtain ⟨assembly, held⟩ := Option.isSome_iff_exists.mp (won rfl)
      simp [Task.hasWon, getAssembly, held, Except.isOk, Except.toBool]
  | fills task answer collector free unfinished idle later => rw [idle, later]
  | rests => rfl

/-- A task that comes to tell an assembly tells the one that is set. -/
theorem Effect.holders {task next : Task κ μ} {before after : Cells κ μ} {assembly : κ}
    (effect : Effect collectorOf before task next after)
    (holds : next.assembly? = some assembly) :
    task.assembly? = some assembly ∨ after.assembly = some assembly := by
  cases effect with
  | passes task next unfinished idle later =>
      rw [Task.hasWon_of_assembly? holds] at later
      cases later
  | wins mine free => exact .inr holds
  | shares mine => cases holds
  | confirms shared =>
      -- A start that has set its assembly reads it back; it is not told from memory.
      right
      simp only [Task.assembly?, getAssembly] at holds
      split at holds
      next held found =>
        cases holds
        exact found
      next => cases holds
  | fills task answer collector free unfinished idle later =>
      rw [Task.hasWon_of_assembly? holds] at later
      cases later
  | rests => exact .inl holds

/-- A task shares its collector by a step after which there is one. -/
theorem Effect.shared {task next : Task κ μ} {before after : Cells κ μ}
    (effect : Effect collectorOf before task next after) (shares : next.hasShared = true) :
    task.hasShared = true ∨ after.collector.isSome = true := by
  cases effect with
  | passes task next unfinished idle later =>
      rw [Task.hasWon_of_hasShared shares] at later
      cases later
  | wins => cases shares
  | shares mine => exact .inr (isSome_setCollector before _)
  | confirms => exact .inl rfl
  | fills task answer collector free unfinished idle later =>
      rw [Task.hasWon_of_hasShared shares] at later
      cases later
  | rests => exact .inl shares

/-- A step that sets something belongs to a call that does not fail any more. -/
theorem Effect.changes {task next : Task κ μ} {before after : Cells κ μ}
    (effect : Effect collectorOf before task next after) (changed : after ≠ before) :
    next.hasSucceeded = true := by
  cases effect with
  | passes => exact absurd rfl changed
  | wins => rfl
  | shares => rfl
  | confirms => exact absurd rfl changed
  | fills task answer collector free unfinished idle later well => simp [Task.hasSucceeded, well]
  | rests => exact absurd rfl changed

namespace Stride

/-- Tells whether a step set the collector of the process. -/
def fills (stride : Stride κ μ) : Bool :=
  stride.before.collector.isNone && stride.after.collector.isSome

/-- Tells whether a step is to install a collector. -/
def offers (stride : Stride κ μ) : Bool :=
  match stride.task with
  | .install _ => true
  | .shareCollector _ => true
  | _ => false

/-- Tells whether a step was to install a collector and was told that it did. -/
def installs (stride : Stride κ μ) : Bool :=
  match stride.task, stride.next with
  | .install _, .finished (.installed yes) => yes
  | .shareCollector _, .confirmAssembly shared => shared
  | _, _ => false

/-- A step that a task takes on cells as they are. -/
def IsStep (collectorOf : κ → μ) (stride : Stride κ μ) : Prop :=
  ∃ making, stepTask collectorOf making stride.task stride.before = (stride.next, stride.after)

/-- A recorded step had one of the effects. -/
theorem IsStep.effect {stride : Stride κ μ} (step : stride.IsStep collectorOf) :
    Effect collectorOf stride.before stride.task stride.next stride.after := by
  obtain ⟨making, taken⟩ := step
  have effect := effect_stepTask collectorOf making stride.task stride.before
  rwa [taken] at effect

/-- A collector is installed exactly if it is offered while there is none. -/
theorem IsStep.installs_eq {stride : Stride κ μ} (step : stride.IsStep collectorOf) :
    stride.installs = (stride.offers && stride.before.collector.isNone) := by
  obtain ⟨making, taken⟩ := step
  obtain ⟨index, task, before, next, after⟩ := stride
  cases task with
  | shareCollector assembly =>
      simp only [stepTask, Prod.mk.injEq] at taken
      obtain ⟨rfl, -⟩ := taken
      exact setCollector_answer before _
  | install collector =>
      simp only [stepTask, Prod.mk.injEq] at taken
      obtain ⟨rfl, -⟩ := taken
      exact setCollector_answer before _
  | _ => rfl

/-- A task that is told that it installed a collector set it. -/
theorem IsStep.fills_of_installs {stride : Stride κ μ} (step : stride.IsStep collectorOf)
    (installs : stride.installs = true) : stride.fills = true := by
  rw [step.installs_eq, Bool.and_eq_true_iff] at installs
  obtain ⟨offers, free⟩ := installs
  obtain ⟨making, taken⟩ := step
  obtain ⟨index, task, before, next, after⟩ := stride
  rw [fills, free, Bool.true_and]
  cases task with
  | shareCollector assembly =>
      simp only [stepTask, Prod.mk.injEq] at taken
      obtain ⟨-, rfl⟩ := taken
      exact isSome_setCollector before _
  | install collector =>
      simp only [stepTask, Prod.mk.injEq] at taken
      obtain ⟨-, rfl⟩ := taken
      exact isSome_setCollector before _
  | _ => cases offers

/-- A step that fills the cell found it empty. -/
theorem free_of_fills {stride : Stride κ μ} (fills : stride.fills = true) :
    stride.before.collector = none :=
  Option.isNone_iff_eq_none.mp (Bool.and_eq_true_iff.mp fills).1

end Stride

/-- A cell that holds a collector was filled by one step. -/
theorem Grows.fillings {stride : Stride κ μ} (grows : Grows stride.before stride.after) :
    stride.before.collector.toList.length + (if stride.fills then 1 else 0) =
      stride.after.collector.toList.length := by
  cases before : stride.before.collector with
  | none => cases after : stride.after.collector <;> simp [Stride.fills, before, after]
  | some collector =>
      rw [grows.collector collector before]
      simp [Stride.fills, before]

/-- A task that sets the collector of the process by sharing one sets that of its assembly. -/
theorem Effect.shareCollector {next : Task κ μ} {before after : Cells κ μ} {assembly : κ}
    (effect : Effect collectorOf before (.shareCollector assembly) next after)
    (free : before.collector = none) : after.collector = some (collectorOf assembly) := by
  cases effect with
  | passes task next unfinished idle => cases idle
  | shares => simp [setCollector, free]
  | fills task answer collector free unfinished idle => cases idle

namespace Process

variable {process : Process κ μ} {past : List (Stride κ μ)} {stride : Stride κ μ}
variable {making : Making κ μ} {index : Nat} {task : Task κ μ}

/-- A step that a task of a process can take. -/
structure Takes (collectorOf : κ → μ) (process : Process κ μ) (stride : Stride κ μ) : Prop where
  found : process.tasks[stride.index]? = some stride.task
  cells : stride.before = process.cells
  step : stride.IsStep collectorOf

/-- The process after a step of a task. -/
def after (process : Process κ μ) (stride : Stride κ μ) : Process κ μ :=
  { cells := stride.after, tasks := process.tasks.set stride.index stride.next }

namespace Takes

theorem listed (takes : Takes collectorOf process stride) : stride.task ∈ process.tasks :=
  List.mem_of_getElem? takes.found

theorem effect (takes : Takes collectorOf process stride) :
    Effect collectorOf stride.before stride.task stride.next stride.after :=
  takes.step.effect

theorem grows (takes : Takes collectorOf process stride) :
    Grows process.cells stride.after :=
  takes.cells ▸ takes.effect.grows

/-- The task stands in its place as the step left it. -/
theorem getElem?_after (takes : Takes collectorOf process stride) :
    (process.after stride).tasks[stride.index]? = some stride.next := by
  obtain ⟨inside, -⟩ := List.getElem?_eq_some_iff.mp takes.found
  exact List.getElem?_set_self inside

end Takes

/-- A move with a step leads where the step leads. -/
theorem takes_of_stride? {move : Move κ μ}
    (taken : process.stride? collectorOf move = some stride) :
    Takes collectorOf process stride ∧ process.move collectorOf move = process.after stride := by
  cases move with
  | begin task => cases taken
  | advance making index =>
      refine ⟨?_, by simp only [Process.move, taken, after]⟩
      obtain ⟨task, found, rfl⟩ := Option.map_eq_some_iff.mp taken
      exact ⟨found, rfl, making, rfl⟩

/-- What the tasks of a process and the steps that they took tell of its cells. -/
structure Sound (collectorOf : κ → μ) (past : List (Stride κ μ)) (process : Process κ μ) : Prop
    where
  winners : process.tasks.countP Task.hasWon = process.cells.assembly.toList.length
  holders : ∀ task ∈ process.tasks, ∀ assembly, task.assembly? = some assembly →
    process.cells.assembly = some assembly
  shared : ∀ task ∈ process.tasks, task.hasShared = true → process.cells.collector.isSome = true
  kept : ∀ stride ∈ past, stride.after ≠ stride.before →
    ∃ task, process.tasks[stride.index]? = some task ∧ task.hasSucceeded = true
  fillings : past.countP Stride.fills = process.cells.collector.toList.length
  origin : ∀ collector, process.cells.collector = some collector →
    ∃ stride ∈ past, stride.fills = true ∧ stride.after.collector = some collector
  owner : ∀ stride ∈ past, ∀ assembly, stride.task = .shareCollector assembly →
    process.cells.assembly = some assembly ∧
      (stride.fills = true → stride.after.collector = some (collectorOf assembly))

/-- How replacing one item changes a count. -/
theorem countP_set {α : Type} {items : List α} {index : Nat} {old : α}
    (found : items[index]? = some old) (item : α) (p : α → Bool) :
    (items.set index item).countP p + (p old).toNat = items.countP p + (p item).toNat := by
  obtain ⟨inside, rfl⟩ := List.getElem?_eq_some_iff.mp found
  conv_rhs => rw [← List.take_append_drop index items, ← List.getElem_cons_drop inside]
  rw [List.set_eq_take_append_cons_drop, if_pos inside]
  simp only [List.countP_append, List.countP_cons]
  cases p items[index] <;> cases p item <;> simp <;> omega

theorem sound_start : Sound collectorOf [] ({} : Process κ μ) where
  winners := rfl
  holders := by simp
  shared := by simp
  kept := by simp
  fillings := rfl
  origin := by simp
  owner := by simp

namespace Sound

/-- A task that begins changes nothing that is set. -/
theorem begin (sound : Sound collectorOf past process) (opening : Opening task) :
    Sound collectorOf past (process.move collectorOf (.begin task)) where
  winners := by
    have idle : task.hasWon = false := by cases opening <;> rfl
    simpa [Process.move, List.countP_append, idle] using sound.winners
  holders := by
    intro other listed assembly holds
    rcases List.mem_append.mp listed with old | new
    · exact sound.holders other old assembly holds
    · obtain rfl := List.mem_singleton.mp new
      cases opening <;> cases holds
  shared := by
    intro other listed shares
    rcases List.mem_append.mp listed with old | new
    · exact sound.shared other old shares
    · obtain rfl := List.mem_singleton.mp new
      cases opening <;> cases shares
  kept := by
    intro stride listed changed
    obtain ⟨other, found, succeeded⟩ := sound.kept stride listed changed
    obtain ⟨inside, -⟩ := List.getElem?_eq_some_iff.mp found
    exact ⟨other, (List.getElem?_append_left inside).trans found, succeeded⟩
  fillings := sound.fillings
  origin := sound.origin
  owner := sound.owner

/-- As many tasks have won as there are assemblies, so a task that has won finds one. -/
theorem isSome_of_hasWon (sound : Sound collectorOf past process) (listed : task ∈ process.tasks)
    (won : task.hasWon = true) : process.cells.assembly.isSome = true := by
  have counted : 0 < process.tasks.countP Task.hasWon := List.countP_pos_iff.mpr ⟨task, listed, won⟩
  rw [sound.winners] at counted
  cases held : process.cells.assembly with
  | none => simp [held] at counted
  | some assembly => rfl

/-- A task that has won finds an assembly before its next step. -/
theorem won (sound : Sound collectorOf past process) (takes : Takes collectorOf process stride)
    (won : stride.task.hasWon = true) : stride.before.assembly.isSome = true := by
  rw [takes.cells]
  exact sound.isSome_of_hasWon takes.listed won

/-- After a step as many tasks have won as there are assemblies. -/
theorem winners_after (sound : Sound collectorOf past process)
    (takes : Takes collectorOf process stride) :
    (process.after stride).tasks.countP Task.hasWon =
      (process.after stride).cells.assembly.toList.length := by
  have counted := countP_set takes.found stride.next Task.hasWon
  have balance := takes.effect.winners (sound.won takes)
  have winners := sound.winners
  rw [takes.cells] at balance
  simp only [after]
  omega

/-- After a step every task that holds an assembly holds the one that is set. -/
theorem holders_after (sound : Sound collectorOf past process)
    (takes : Takes collectorOf process stride) (listed : task ∈ (process.after stride).tasks)
    {assembly : κ} (holds : task.assembly? = some assembly) :
    stride.after.assembly = some assembly := by
  rcases List.mem_or_eq_of_mem_set listed with old | rfl
  · exact takes.grows.assembly assembly (sound.holders task old assembly holds)
  · rcases takes.effect.holders holds with before | held
    · exact takes.grows.assembly assembly (sound.holders _ takes.listed assembly before)
    · exact held

/-- After a step there is a collector if a task has shared one. -/
theorem shared_after (sound : Sound collectorOf past process)
    (takes : Takes collectorOf process stride) (listed : task ∈ (process.after stride).tasks)
    (shares : task.hasShared = true) : stride.after.collector.isSome = true := by
  have grown (shared : process.cells.collector.isSome = true) :
      stride.after.collector.isSome = true := by
    obtain ⟨collector, held⟩ := Option.isSome_iff_exists.mp shared
    exact Option.isSome_iff_exists.mpr ⟨collector, takes.grows.collector collector held⟩
  rcases List.mem_or_eq_of_mem_set listed with old | rfl
  · exact grown (sound.shared task old shares)
  · rcases takes.effect.shared shares with before | held
    · exact grown (sound.shared _ takes.listed before)
    · exact held

/-- The task of a step that set something succeeds, and so it does after its further steps. -/
theorem kept_after (sound : Sound collectorOf past process)
    (takes : Takes collectorOf process stride) {other : Stride κ μ}
    (listed : other ∈ past ++ [stride]) (changed : other.after ≠ other.before) :
    ∃ task, (process.after stride).tasks[other.index]? = some task ∧
      task.hasSucceeded = true := by
  rcases List.mem_append.mp listed with old | new
  · obtain ⟨task, kept, succeeded⟩ := sound.kept other old changed
    by_cases same : stride.index = other.index
    · rw [← same, takes.found] at kept
      obtain rfl := Option.some.inj kept
      exact ⟨stride.next, same ▸ takes.getElem?_after,
        takes.effect.hasSucceeded (sound.won takes) succeeded⟩
    · exact ⟨task, (List.getElem?_set_ne same).trans kept, succeeded⟩
  · obtain rfl := List.mem_singleton.mp new
    exact ⟨other.next, takes.getElem?_after, takes.effect.changes changed⟩

/-- After a step the collector goes back to the step that filled the cell. -/
theorem origin_after (sound : Sound collectorOf past process)
    (takes : Takes collectorOf process stride) {collector : μ}
    (held : stride.after.collector = some collector) :
    ∃ source ∈ past ++ [stride], source.fills = true ∧
      source.after.collector = some collector := by
  cases before : process.cells.collector with
  | some other =>
      obtain ⟨source, listed, fills, filled⟩ := sound.origin other before
      have same : some other = some collector :=
        (takes.grows.collector other before).symm.trans held
      exact ⟨source, List.mem_append_left _ listed, fills, filled.trans same⟩
  | none =>
      refine ⟨stride, by simp, ?_, held⟩
      rw [Stride.fills, takes.cells, before, held]
      rfl

/-- After a step, whoever shared a collector held the assembly that is set. -/
theorem owner_after (sound : Sound collectorOf past process)
    (takes : Takes collectorOf process stride) {other : Stride κ μ}
    (listed : other ∈ past ++ [stride]) {assembly : κ}
    (shares : other.task = .shareCollector assembly) :
    stride.after.assembly = some assembly ∧
      (other.fills = true → other.after.collector = some (collectorOf assembly)) := by
  rcases List.mem_append.mp listed with old | new
  · obtain ⟨held, filled⟩ := sound.owner other old assembly shares
    exact ⟨takes.grows.assembly assembly held, filled⟩
  · obtain rfl := List.mem_singleton.mp new
    have held := sound.holders _ takes.listed assembly (by rw [shares]; rfl)
    have effect := takes.effect
    rw [shares] at effect
    exact ⟨takes.grows.assembly assembly held,
      fun fills => effect.shareCollector (Stride.free_of_fills fills)⟩

/-- A step keeps a process sound. -/
theorem take (sound : Sound collectorOf past process)
    (takes : Takes collectorOf process stride) :
    Sound collectorOf (past ++ [stride]) (process.after stride) where
  winners := sound.winners_after takes
  holders := fun _ listed _ holds => sound.holders_after takes listed holds
  shared := fun _ listed shares => sound.shared_after takes listed shares
  kept := fun _ listed changed => sound.kept_after takes listed changed
  fillings := by
    rw [List.countP_append, List.countP_singleton, sound.fillings, ← takes.cells]
    exact takes.effect.grows.fillings
  origin := fun _ held => sound.origin_after takes held
  owner := fun _ listed _ shares => sound.owner_after takes listed shares

/-- Every move keeps a process sound. -/
theorem move (sound : Sound collectorOf past process) (move : Move κ μ)
    (openings : ∀ task, move = .begin task → Opening task) :
    Sound collectorOf (past ++ (process.stride? collectorOf move).toList)
      (process.move collectorOf move) := by
  cases taken : process.stride? collectorOf move with
  | some stride =>
      obtain ⟨takes, moved⟩ := takes_of_stride? taken
      rw [moved]
      exact sound.take takes
  | none =>
      rw [Option.toList_none, List.append_nil]
      cases move with
      | begin task => exact sound.begin (openings task rfl)
      | advance making index =>
          simp only [Process.move, taken]
          exact sound

/-- A run of moves keeps a process sound. -/
theorem run (sound : Sound collectorOf past process) {moves : List (Move κ μ)}
    (openings : ∀ task, .begin task ∈ moves → Opening task) :
    Sound collectorOf (past ++ process.strides collectorOf moves)
      (process.run collectorOf moves) := by
  -- The steps so far are part of what is kept, and they grow with the run.
  induction moves generalizing past process with
  | nil => simpa [strides, Process.run] using sound
  | cons move moves ih =>
      have first := sound.move move fun task same => openings task (same ▸ List.mem_cons_self)
      have rest := ih first fun task listed => openings task (List.mem_cons_of_mem move listed)
      rw [List.append_assoc] at rest
      exact rest

end Sound

variable (collectorOf process)

/-- A move loses nothing that is set. -/
theorem grows_move (move : Move κ μ) :
    Grows process.cells (process.move collectorOf move).cells := by
  cases taken : process.stride? collectorOf move with
  | some stride =>
      obtain ⟨takes, moved⟩ := takes_of_stride? taken
      rw [moved]
      exact takes.grows
  | none =>
      cases move with
      | begin task => exact .refl process.cells
      | advance making index =>
          simp only [Process.move, taken]
          exact .refl process.cells

/-- A run of moves loses nothing that is set. -/
theorem grows_run (moves : List (Move κ μ)) :
    Grows process.cells (process.run collectorOf moves).cells := by
  induction moves generalizing process with
  | nil => exact .refl process.cells
  | cons move moves ih => exact (process.grows_move collectorOf move).trans (ih _)

/-- Every step of a run is one, on cells that hold at least what they held at first. -/
theorem mem_strides {moves : List (Move κ μ)}
    (listed : stride ∈ process.strides collectorOf moves) :
    stride.IsStep collectorOf ∧ Grows process.cells stride.before := by
  induction moves generalizing process with
  | nil => cases listed
  | cons move moves ih =>
      rcases List.mem_append.mp listed with first | rest
      · obtain ⟨takes, -⟩ := takes_of_stride? (Option.mem_toList.mp first)
        rw [takes.cells]
        exact ⟨takes.step, .refl process.cells⟩
      · obtain ⟨step, grows⟩ := ih _ rest
        exact ⟨step, (process.grows_move collectorOf move).trans grows⟩

variable {collectorOf process}

/-- What was answered to one who asked for the assembly of the process. -/
theorem readAssembly_answer {moves : List (Move κ μ)} {assembly : κ}
    (held : process.cells.assembly = some assembly)
    (listed : stride ∈ process.strides collectorOf moves) (reads : stride.task = .readAssembly) :
    stride.next = .finished (.assembly (.ok assembly)) := by
  obtain ⟨⟨making, taken⟩, grows⟩ := process.mem_strides collectorOf listed
  rw [reads] at taken
  simp only [stepTask, getAssembly, grows.assembly assembly held, Prod.mk.injEq] at taken
  exact taken.1.symm

namespace Sound

/-- At most one task starts an assembly. -/
theorem countP_hasStarted_le (sound : Sound collectorOf past process) :
    process.tasks.countP Task.hasStarted ≤ 1 := by
  have won : process.tasks.countP Task.hasStarted ≤ process.tasks.countP Task.hasWon :=
    List.countP_mono_left fun task _ started => Task.hasWon_of_hasStarted started
  have single := Option.length_toList_le (o := process.cells.assembly)
  have winners := sound.winners
  omega

/-- Once every call is done, the one that set the assembly has answered so. -/
theorem countP_hasStarted_of_isFinished (sound : Sound collectorOf past process)
    (finished : ∀ task ∈ process.tasks, task.isFinished = true) :
    process.tasks.countP Task.hasStarted = process.cells.assembly.toList.length := by
  rw [← sound.winners]
  refine List.countP_congr fun task listed => ?_
  rw [Task.hasStarted_of_isFinished (finished task listed)]

/-- A call that has failed set nothing in any of its steps. -/
theorem unchanged (sound : Sound collectorOf past process) (listed : stride ∈ past)
    {answer : Answer κ μ} (done : process.tasks[stride.index]? = some (.finished answer))
    (failed : answer.hasFailed = true) : stride.after = stride.before := by
  by_contra changed
  obtain ⟨task, found, succeeded⟩ := sound.kept stride listed changed
  rw [done] at found
  obtain rfl := Option.some.inj found
  simp [Task.hasSucceeded, failed] at succeeded

/-- At most one step of the past installed an assembly. -/
theorem countP_installs_le (sound : Sound collectorOf past process)
    (steps : ∀ stride ∈ past, stride.IsStep collectorOf) : past.countP Stride.installs ≤ 1 := by
  have filled : past.countP Stride.installs ≤ past.countP Stride.fills :=
    List.countP_mono_left fun stride listed => (steps stride listed).fills_of_installs
  have single := Option.length_toList_le (o := process.cells.collector)
  have fillings := sound.fillings
  omega

/-- If only starts set the collector, it is that of the assembly. -/
theorem collector_eq (sound : Sound collectorOf past process)
    (only : ∀ stride ∈ past, stride.fills = true →
      ∃ assembly, stride.task = .shareCollector assembly)
    {collector : μ} (held : process.cells.collector = some collector) :
    ∃ assembly, process.cells.assembly = some assembly ∧ collector = collectorOf assembly := by
  obtain ⟨stride, listed, fills, filled⟩ := sound.origin collector held
  obtain ⟨assembly, shares⟩ := only stride listed fills
  obtain ⟨mine, own⟩ := sound.owner stride listed assembly shares
  exact ⟨assembly, mine, Option.some.inj (filled.symm.trans (own fills))⟩

end Sound

/-- Whatever tasks there are, and in whichever order they take their steps: at most one start
succeeds, and exactly one if there is an assembly and all is done; the assembly that it set is what
all others get from then on. A call that fails has set nothing. The first collector stays, only the
one who installs it is told so, and unless someone else comes first, it is that of the assembly. -/
theorem cells_set_once (collectorOf : κ → μ) (moves : List (Move κ μ))
    (openings : ∀ task, .begin task ∈ moves → Opening task) :
    let process := run collectorOf {} moves
    let past := strides collectorOf {} moves
    (process.tasks.countP Task.hasStarted ≤ 1 ∧
      ((∀ task ∈ process.tasks, task.isFinished = true) →
        process.tasks.countP Task.hasStarted = process.cells.assembly.toList.length)) ∧
      (∀ assembly, process.cells.assembly = some assembly →
        (∀ other, .finished (.started (.ok other)) ∈ process.tasks → other = assembly) ∧
          ∀ later, (process.run collectorOf later).cells.assembly = some assembly ∧
            ∀ stride ∈ process.strides collectorOf later, stride.task = .readAssembly →
              stride.next = .finished (.assembly (.ok assembly))) ∧
      (∀ stride ∈ past, ∀ answer, process.tasks[stride.index]? = some (.finished answer) →
        answer.hasFailed = true → stride.after = stride.before) ∧
      (∀ collector, process.cells.collector = some collector →
        ∀ later, (process.run collectorOf later).cells.collector = some collector) ∧
      (past.countP Stride.installs ≤ 1 ∧ ∀ stride ∈ past,
        stride.installs = (stride.offers && stride.before.collector.isNone)) ∧
      ((∀ stride ∈ past, stride.fills = true →
          ∃ assembly, stride.task = .shareCollector assembly) →
        (∀ collector, process.cells.collector = some collector →
          ∃ assembly, process.cells.assembly = some assembly ∧
            collector = collectorOf assembly) ∧
        ∀ assembly, .finished (.started (.ok assembly)) ∈ process.tasks →
          process.cells.collector = some (collectorOf assembly)) := by
  intro process past
  have sound : Sound collectorOf past process := sound_start.run openings
  have steps : ∀ stride ∈ past, stride.IsStep collectorOf := fun stride listed =>
    (mem_strides collectorOf {} listed).1
  refine ⟨⟨sound.countP_hasStarted_le, sound.countP_hasStarted_of_isFinished⟩, ?_,
    fun stride listed answer => sound.unchanged listed, ?_,
    ⟨sound.countP_installs_le steps, fun stride listed => (steps stride listed).installs_eq⟩, ?_⟩
  · intro assembly held
    refine ⟨?_, fun later => ⟨(process.grows_run collectorOf later).assembly assembly held, ?_⟩⟩
    · intro other answered
      have same := sound.holders _ answered other rfl
      exact Option.some.inj (same.symm.trans held)
    · exact fun stride listed reads => readAssembly_answer held listed reads
  · exact fun collector held later => (process.grows_run collectorOf later).collector collector held
  · intro only
    refine ⟨fun collector held => sound.collector_eq only held, ?_⟩
    intro assembly answered
    obtain ⟨collector, held⟩ := Option.isSome_iff_exists.mp (sound.shared _ answered rfl)
    obtain ⟨mine, set, rfl⟩ := sound.collector_eq only held
    have same := (sound.holders _ answered assembly rfl).symm.trans set
    rw [held, Option.some.inj same]

/-- Two starts get past the check before either sets its assembly. The second is faster, and a
collector is offered before the first asks. -/
def race (first second : κ) (collector : μ) : List (Move κ μ) :=
  let slow : Making κ μ := { assembly := .ok first, collector := .ok collector }
  let fast : Making κ μ := { assembly := .ok second, collector := .ok collector }
  [.begin .checkAssembly, .begin .checkAssembly, .begin (.install collector), .advance slow 0,
    .advance fast 1, .advance slow 0, .advance fast 1, .advance fast 1, .advance fast 1,
    .advance slow 2, .advance fast 1, .advance slow 0]

/-- The tasks of the race begin as tasks do. -/
theorem opening_of_mem_race {first second : κ} {collector : μ}
    (listed : .begin task ∈ race first second collector) : Opening task := by
  simp only [race, List.mem_cons, Move.begin.injEq, reduceCtorEq, List.not_mem_nil, or_false]
    at listed
  rcases listed with rfl | rfl | rfl
  · exact .start
  · exact .start
  · exact .install collector

/-- In a race the slower start fails and leaves the cells alone, and the collector of the faster
one stays. -/
theorem cells_set_once_race :
    let process := run (· + 10) {} (race 1 2 7)
    let past := strides (· + 10) {} (race 1 2 7)
    process.tasks = [.finished (.started (.error alreadySet)), .finished (.started (.ok 2)),
        .finished (.installed false)] ∧
      process.tasks.countP Task.hasStarted = process.cells.assembly.toList.length ∧
      (∀ stride ∈ past, stride.index = 0 → stride.after = stride.before) ∧
      (∀ later, (process.run (· + 10) later).cells.assembly = some 2) ∧
      past.countP Stride.installs = 1 ∧ process.cells.collector = some 12 ∧
      ∀ later, (process.run (· + 10) later).cells.collector = some 12 := by
  dsimp only
  have tasks : (run (· + 10) {} (race 1 2 7)).tasks = [.finished (.started (.error alreadySet)),
      .finished (.started (.ok 2)), .finished (.installed false)] := rfl
  have filled : (strides (· + 10) {} (race 1 2 7)).filter Stride.fills = [{
      index := 1, task := .shareCollector 2, before := { assembly := some 2 }
      next := .confirmAssembly true, after := { assembly := some 2, collector := some 12 } }] := rfl
  obtain ⟨⟨-, counted⟩, seen, unchanged, stays, -, own⟩ :=
    cells_set_once (· + 10) (race 1 2 7) fun _ => opening_of_mem_race
  refine ⟨tasks, counted ?_, ?_, fun later => ((seen 2 rfl).2 later).1, by decide +kernel,
    (own ?_).2 2 ?_, stays 12 rfl⟩
  · simp [tasks, Task.isFinished]
  · intro stride listed index
    exact unchanged stride listed (.started (.error alreadySet)) (by rw [index, tasks]; rfl) rfl
  · intro stride listed fills
    have chosen := List.mem_filter.mpr ⟨listed, fills⟩
    rw [filled] at chosen
    exact ⟨2, congrArg Stride.task (List.mem_singleton.mp chosen)⟩
  · simp [tasks]

end Process

end Backplane.Cells
