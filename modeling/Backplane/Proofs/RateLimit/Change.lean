import Backplane.Proofs.RateLimit.Recorded

namespace Backplane.RateLimit

/-- The clocks that a run of calls reads, in the order in which the calls are served. -/
def clocks (calls : List Call) : List Nat := calls.filterMap Call.now?

theorem filterMap_cons_toList {α β : Type} (choose : α → Option β) (head : α) (tail : List α) :
    (head :: tail).filterMap choose = (choose head).toList ++ tail.filterMap choose := by
  rw [List.filterMap_cons]
  cases choose head <;> rfl

/-- While clocks never go back, the next call is no earlier than the latest clock, and neither are
the calls after it. -/
theorem ordered_cons {α β : Type} [LE β] {clock : α → Option β} {latest : β} {head : α}
    {tail : List α} (ordered : (latest :: (head :: tail).filterMap clock).Pairwise (· ≤ ·)) :
    (∀ now, clock head = some now → latest ≤ now) ∧
      ((clock head).getD latest :: tail.filterMap clock).Pairwise (· ≤ ·) := by
  rw [filterMap_cons_toList] at ordered
  cases reads : clock head with
  | none =>
      rw [reads] at ordered
      exact ⟨nofun, ordered⟩
  | some now =>
      rw [reads] at ordered
      obtain ⟨first, ordered⟩ := List.pairwise_cons.mp ordered
      refine ⟨?_, ordered⟩
      rintro _ ⟨⟩
      exact first now List.mem_cons_self

/-- The key that a call is about, if it is about one. -/
def Call.key? : Call → Option String
  | .allow key _ _ => some key
  | .remaining key _ => some key
  | .reset key => some key
  | .purge _ => none

/-- The events that a call admits. -/
def Call.admits : Call → Answer → List (String × Nat)
  | .allow key count now, .admitted true => List.replicate count (key, now)
  | _, _ => []

/-- The batch over which a call breaks down, as one event. -/
def Call.breaks : Call → Answer → List (String × Nat)
  | .allow key _ now, .panicked _ => [(key, now)]
  | _, _ => []

/-- A call that completes breaks down over nothing. -/
theorem Call.breaks_eq_nil (call : Call) {answer : Answer}
    (completes : ∀ message, .panicked message ≠ answer) : call.breaks answer = [] := by
  unfold Call.breaks
  split
  next message => exact absurd rfl (completes message)
  next => rfl

/-- What a run admits is what its first call admits and what the others do. -/
theorem admissions_cons (call : Call) (calls : List Call) (answer : Answer)
    (answers : List Answer) :
    admissions (call :: calls) (answer :: answers) =
      call.admits answer ++ admissions calls answers := by
  cases call with
  | allow key count now => rcases answer with (_ | _) | _ | _ | _ <;> rfl
  | remaining key now => rfl
  | reset key => rfl
  | purge now => rfl

/-- The instants of the events of one key. -/
def instants (key : String) (events : List (String × Nat)) : List Nat :=
  events.filterMap fun event => if event.1 = key then some event.2 else none

@[simp] theorem instants_nil (key : String) : instants key [] = [] := rfl

@[simp] theorem instants_append (key : String) (first second : List (String × Nat)) :
    instants key (first ++ second) = instants key first ++ instants key second :=
  List.filterMap_append ..

/-- A batch has its instants under its own key. -/
theorem instants_replicate (key other : String) (count now : Nat) :
    instants key (List.replicate count (other, now)) =
      if other = key then List.replicate count now else [] := by
  induction count with
  | zero => simp
  | succ count ih =>
      rw [List.replicate_succ, List.replicate_succ]
      by_cases same : other = key
      · rw [if_pos same] at ih ⊢
        rw [← ih]
        simp [instants, same]
      · rw [if_neg same] at ih ⊢
        rw [← ih]
        simp [instants, same]

/-- Counting the instants of a key is counting its events. -/
theorem countP_instants (key : String) (holds : Nat → Bool) (events : List (String × Nat)) :
    (instants key events).countP holds =
      events.countP fun event => event.1 = key && holds event.2 := by
  rw [instants, List.countP_filterMap]
  congr 1
  funext event
  by_cases same : event.1 = key <;> simp [same]

/-- A call about one key admits nothing for another. -/
theorem instants_admits (key other : String) (count now : Nat) (yes : Bool) :
    instants key (Call.admits (.allow other count now) (.admitted yes)) =
      if other = key ∧ yes then List.replicate count now else [] := by
  cases yes with
  | false => simp [Call.admits]
  | true => simp [Call.admits, instants_replicate]

namespace Sliding

variable (limiter : Sliding) (key : String)

/-- What a call can do to the events of a key: the events afterwards, and the instants among them
that the call admits. -/
inductive Change : Call → List Nat → List Nat → Prop
  | kept (call : Call) (remembers : call ≠ .reset key) : Change call (limiter.recorded key) []
  | pruned (call : Call) (now : Nat) (reads : call.now? = some now) :
      Change call (prune limiter.window now (limiter.recorded key)) []
  | granted (count now : Nat) (grants : limiter.Grants key count now) :
      Change (.allow key count now)
        (prune limiter.window now (limiter.recorded key) ++ List.replicate count now)
        (List.replicate count now)
  | forgotten : Change (.reset key) [] []

/-- A sweep changes a key as a call that reads its clock may. -/
theorem change_sweepIfDue (call : Call) (now : Nat) (reads : call.now? = some now) :
    limiter.Change key call ((limiter.sweepIfDue now).recorded key) [] := by
  rw [recorded_sweepIfDue]
  split
  · exact .pruned call now reads
  · refine .kept call ?_
    rintro rfl
    cases reads

/-- A batch changes every key as a call may, and adds what it admits. -/
theorem change_grant (other : String) (count now : Nat) :
    limiter.Change key (.allow other count now) ((limiter.grant other count now).2.recorded key)
      (instants key (Call.admits (.allow other count now)
        (.admitted (limiter.grant other count now).1))) := by
  rw [limiter.grant_answer, limiter.recorded_grant, instants_admits]
  by_cases same : other = key
  · subst same
    by_cases grants : limiter.Grants other count now
    · rw [if_pos rfl, if_pos ⟨rfl, decide_eq_true grants⟩, granted, if_pos grants]
      exact .granted count now grants
    · rw [if_pos rfl, if_neg (by simp [grants]), granted, if_neg grants, List.append_nil]
      exact .pruned _ now rfl
  · rw [if_neg same, if_neg (fun both => same both.1)]
    exact limiter.change_sweepIfDue key _ now rfl

/-- Every call does one of the four things to every key. A batch without room prunes its key. -/
theorem change_step (call : Call) :
    limiter.Change key call ((limiter.step call).2.recorded key)
      (instants key (call.admits (limiter.step call).1)) := by
  cases call with
  | allow other count now =>
      simp only [step]
      by_cases overflows : limiter.Overflows other count now
      · -- A breakdown comes after the pruning.
        rw [allow_answer, if_pos overflows, recorded_allow, added, if_pos overflows,
          List.append_nil]
        split
        next same =>
          subst same
          exact .pruned _ now rfl
        next => exact limiter.change_sweepIfDue key _ now rfl
      · rw [allow_of_not_overflows overflows]
        exact limiter.change_grant key other count now
  | remaining other now =>
      simp only [step, limiter.recorded_remaining, limiter.recorded_pruneKey]
      split
      · exact .pruned _ now rfl
      · exact .kept _ (by simp)
  | reset other =>
      simp only [step, limiter.recorded_reset]
      split
      next same =>
        subst same
        exact .forgotten
      next different => exact .kept _ fun same => different (Call.reset.inj same)
  | purge now =>
      simp only [step, purge, limiter.recorded_sweep]
      exact .pruned _ now rfl

/-- No call changes the limit or the window. -/
theorem settings_step (call : Call) : (limiter.step call).2.limit = limiter.limit ∧
    (limiter.step call).2.window = limiter.window := by
  cases call with
  | allow key count now => exact limiter.settings_allow key count now
  | remaining key now => exact limiter.settings_remaining key now
  | reset key => exact ⟨rfl, rfl⟩
  | purge now => exact ⟨rfl, rfl⟩

/-- No run changes the limit or the window. -/
theorem settings_run (calls : List Call) : (limiter.run calls).2.limit = limiter.limit ∧
    (limiter.run calls).2.window = limiter.window := by
  induction calls generalizing limiter with
  | nil => exact ⟨rfl, rfl⟩
  | cons call calls ih =>
      obtain ⟨limit, window⟩ := limiter.settings_step call
      obtain ⟨limits, windows⟩ := ih (limiter.step call).2
      exact ⟨limits.trans limit, windows.trans window⟩

/-- The events that a run admits, in the order in which its calls are served. -/
def admitted (calls : List Call) : List (String × Nat) :=
  admissions calls (limiter.run calls).1

@[simp] theorem admitted_nil : limiter.admitted [] = [] := by
  simp [admitted, admissions]

/-- A run admits what its first call admits, then what the others do. -/
theorem admitted_cons (call : Call) (calls : List Call) :
    limiter.admitted (call :: calls) =
      call.admits (limiter.step call).1 ++ (limiter.step call).2.admitted calls :=
  admissions_cons ..

/-- The batches over which calls of a run break down. -/
def broken (calls : List Call) : List (String × Nat) :=
  (List.zipWith Call.breaks calls (limiter.run calls).1).flatten

@[simp] theorem broken_nil : limiter.broken [] = [] := rfl

/-- A run breaks down over what its first call does, then over what the others do. -/
theorem broken_cons (call : Call) (calls : List Call) :
    limiter.broken (call :: calls) =
      call.breaks (limiter.step call).1 ++ (limiter.step call).2.broken calls := rfl

/-- Calls that all complete break down over nothing. -/
theorem broken_eq_nil (calls : List Call)
    (complete : ∀ message, .panicked message ∉ (limiter.run calls).1) :
    limiter.broken calls = [] := by
  induction calls generalizing limiter with
  | nil => rfl
  | cons call calls ih =>
      simp only [run, List.mem_cons, not_or] at complete
      rw [broken_cons, Call.breaks_eq_nil call fun message => (complete message).1,
        ih _ fun message => (complete message).2, List.append_nil]

end Sliding

end Backplane.RateLimit
