import Backplane.Proofs.RateLimit.Change
import Mathlib.Data.List.Basic

namespace Backplane.RateLimit

/-- What holds at every place of a list holds at its head and at every place of its tail. -/
theorem forall_split_cons {α : Type} {head : α} {tail : List α} {holds : List α → α → Prop} :
    (∀ before last after, head :: tail = before ++ last :: after → holds before last) ↔
      holds [] head ∧
        ∀ before last after, tail = before ++ last :: after → holds (head :: before) last := by
  constructor
  · intro all
    exact ⟨all [] head tail rfl,
      fun before last after split => all (head :: before) last after (congrArg _ split)⟩
  · rintro ⟨first, rest⟩ (_ | ⟨_, before⟩) last after split
    · obtain ⟨rfl, -⟩ := List.cons.inj split
      exact first
    · obtain ⟨rfl, later⟩ := List.cons.inj split
      exact rest before last after later

/-- The number of instants in the window that ends now. -/
def inWindow (window now : Nat) (events : List Nat) : Nat :=
  events.countP fun event => now < event + window

@[simp] theorem inWindow_append (window now : Nat) (first second : List Nat) :
    inWindow window now (first ++ second) =
      inWindow window now first + inWindow window now second :=
  List.countP_append

/-- A queue of kept events counts as the log of all events does, from the latest clock on. -/
structure Mirrors (limit window latest : Nat) (queue log : List Nat) : Prop where
  ordered : queue.Pairwise (· ≤ ·)
  past : ∀ event ∈ queue, event ≤ latest
  bounded : queue.length ≤ limit
  counted : ∀ now, latest ≤ now → inWindow window now queue = inWindow window now log

namespace Mirrors

variable {limit window latest now count : Nat} {queue log : List Nat}

theorem empty (limit window latest : Nat) : Mirrors limit window latest [] [] where
  ordered := .nil
  past := nofun
  bounded := Nat.zero_le limit
  counted := fun _ _ => rfl

/-- Time makes no difference to a queue that mirrors. -/
theorem later (mirrors : Mirrors limit window latest queue log) (later : latest ≤ now) :
    Mirrors limit window now queue log where
  ordered := mirrors.ordered
  past := fun event kept => (mirrors.past event kept).trans later
  bounded := mirrors.bounded
  counted := fun instant after => mirrors.counted instant (later.trans after)

/-- After pruning, the queue is as long as the window of the log. -/
theorem length_prune (mirrors : Mirrors limit window latest queue log) (later : latest ≤ now) :
    (Sliding.prune window now queue).length = inWindow window now log := by
  rw [Sliding.prune_eq_filter window now queue mirrors.ordered, ← List.countP_eq_length_filter]
  exact mirrors.counted now later

/-- A queue still mirrors without the events that have left the window. -/
theorem prune (mirrors : Mirrors limit window latest queue log) (later : latest ≤ now) :
    Mirrors limit window now (Sliding.prune window now queue) log where
  ordered := mirrors.ordered.sublist (Sliding.prune_sublist window now queue)
  past := by
    intro event kept
    exact (mirrors.past event ((Sliding.prune_sublist window now queue).mem kept)).trans later
  bounded := (Sliding.prune_sublist window now queue).length_le.trans mirrors.bounded
  counted := by
    intro instant after
    rw [Sliding.prune_eq_filter window now queue mirrors.ordered, inWindow, List.countP_filter,
      ← mirrors.counted instant (later.trans after)]
    -- An event that counts later counts now as well.
    apply List.countP_congr
    intro event _
    simp only [Bool.and_eq_true, decide_eq_true_eq]
    omega

/-- A batch that fits is recorded in both. -/
theorem record (mirrors : Mirrors limit window latest queue log) (later : latest ≤ now)
    (fits : count + inWindow window now log ≤ limit) :
    Mirrors limit window now (Sliding.prune window now queue ++ List.replicate count now)
      (log ++ List.replicate count now) where
  ordered := by
    refine List.pairwise_append.mpr ⟨(mirrors.prune later).ordered, ?_, ?_⟩
    · exact List.pairwise_replicate.mpr (.inr (Nat.le_refl now))
    · intro event kept added listed
      rw [List.eq_of_mem_replicate listed]
      exact (mirrors.prune later).past event kept
  past := by
    intro event listed
    rcases List.mem_append.mp listed with kept | added
    · exact (mirrors.prune later).past event kept
    · exact (List.eq_of_mem_replicate added).le
  bounded := by
    rw [List.length_append, List.length_replicate, mirrors.length_prune later]
    omega
  counted := by
    intro instant after
    rw [inWindow_append, inWindow_append, (mirrors.prune later).counted instant after]

end Mirrors

namespace Sliding

variable {limiter : Sliding} {key : String} {latest : Nat} {log : List Nat}

/-- A call is granted exactly if its events and those in the window of the log fit. -/
theorem grants_iff
    (mirrors : Mirrors limiter.limit limiter.window latest (limiter.recorded key) log)
    {now : Nat} (later : latest ≤ now) (count : Nat) :
    limiter.Grants key count now ↔ count + inWindow limiter.window now log ≤ limiter.limit := by
  have bounded := (mirrors.prune later).bounded
  rw [mirrors.length_prune later] at bounded
  rw [Grants, mirrors.length_prune later]
  omega

/-- One call keeps a queue in step with the log. -/
theorem Change.mirrors {call : Call} {queue added : List Nat}
    (change : limiter.Change key call queue added)
    (mirrors : Mirrors limiter.limit limiter.window latest (limiter.recorded key) log)
    (later : ∀ now, call.now? = some now → latest ≤ now) :
    Mirrors limiter.limit limiter.window (call.now?.getD latest) queue
      (if call = .reset key then [] else log ++ added) := by
  cases change with
  | kept call remembers =>
      rw [if_neg remembers, List.append_nil]
      cases reads : call.now? with
      | none => exact mirrors
      | some now => exact mirrors.later (later now reads)
  | pruned call now reads =>
      have remembers : call ≠ .reset key := by
        rintro rfl
        cases reads
      rw [if_neg remembers, List.append_nil, reads]
      exact mirrors.prune (later now reads)
  | granted count now grants =>
      rw [if_neg (by simp)]
      have after := later now rfl
      exact mirrors.record after ((grants_iff mirrors after count).mp grants)
  | forgotten =>
      rw [if_pos rfl]
      exact Mirrors.empty _ _ _

end Sliding

namespace Ledger

variable (ledger : Ledger) (key : String)

/-- A ledger counts the events of a key in the window. -/
theorem used_eq (now : Nat) :
    ledger.used key now = inWindow ledger.window now (instants key ledger.admitted) := by
  rw [inWindow, countP_instants]
  rfl

/-- A ledger forgets nothing but at a reset. -/
theorem instants_step (call : Call) :
    instants key (ledger.step call).2.admitted =
      if call = .reset key then []
      else instants key ledger.admitted ++ instants key (call.admits (ledger.step call).1) := by
  cases call with
  | allow other count now =>
      rw [if_neg (by simp)]
      by_cases fits : count + ledger.used other now ≤ ledger.limit
      · simp [step, allow, if_pos fits, Call.admits]
      · simp [step, allow, if_neg fits, Call.admits]
  | remaining other now =>
      rw [if_neg (by simp)]
      simp [step, Call.admits]
  | reset other =>
      simp only [step, reset, Call.reset.injEq, instants, List.filterMap_filter]
      by_cases same : other = key
      · subst same
        simp
      · -- What a reset of another key takes away are no instants of this one.
        rw [if_neg same]
        simp only [Call.admits, List.filterMap_nil, List.append_nil]
        apply List.filterMap_congr
        intro event _
        by_cases mine : event.1 = key
        · simp [mine, Ne.symm same]
        · simp [mine]
  | purge now =>
      rw [if_neg (by simp)]
      simp [step, Call.admits]

/-- A call leaves the log of every other key alone. -/
theorem instants_step_of_ne (call : Call) (different : call.key? ≠ some key) :
    instants key (ledger.step call).2.admitted = instants key ledger.admitted := by
  rw [instants_step]
  cases call with
  | allow other count now =>
      have apart : other ≠ key := fun same => different (congrArg some same)
      simp only [step, instants_admits]
      rw [if_neg (by simp), if_neg (fun both => apart both.1), List.append_nil]
  | remaining other now =>
      rw [if_neg (by simp)]
      simp [Call.admits]
  | reset other =>
      have apart : other ≠ key := fun same => different (congrArg some same)
      rw [if_neg (fun both => apart (Call.reset.inj both))]
      simp [Call.admits]
  | purge now =>
      rw [if_neg (by simp)]
      simp [Call.admits]

/-- No call changes the limit or the window of a ledger. -/
theorem settings_step (call : Call) : (ledger.step call).2.limit = ledger.limit ∧
    (ledger.step call).2.window = ledger.window := by
  cases call with
  | allow other count now =>
      simp only [step, allow]
      split <;> exact ⟨rfl, rfl⟩
  | remaining other now => exact ⟨rfl, rfl⟩
  | reset other => exact ⟨rfl, rfl⟩
  | purge now => exact ⟨rfl, rfl⟩

end Ledger

/-- A limiter and a ledger that answer alike from the latest clock on. -/
structure Agrees (latest : Nat) (limiter : Sliding) (ledger : Ledger) : Prop where
  limit : ledger.limit = limiter.limit
  window : ledger.window = limiter.window
  mirrors : ∀ key, Mirrors limiter.limit limiter.window latest (limiter.recorded key)
    (instants key ledger.admitted)

namespace Agrees

variable {latest : Nat} {limiter : Sliding} {ledger : Ledger}

/-- A new limiter agrees with a new ledger. -/
theorem new (limit window created latest : Nat) :
    Agrees latest (Sliding.new limit window created) (Ledger.new limit window) where
  limit := rfl
  window := rfl
  mirrors := by
    intro key
    rw [Sliding.recorded_new]
    exact Mirrors.empty _ _ _

/-- Time makes no difference to their agreement. -/
theorem later {now : Nat} (agrees : Agrees latest limiter ledger) (later : latest ≤ now) :
    Agrees now limiter ledger :=
  { agrees with mirrors := fun key => (agrees.mirrors key).later later }

/-- A limiter and its ledger grant the same events. -/
theorem grants_iff (agrees : Agrees latest limiter ledger) (key : String) (count : Nat) {now : Nat}
    (later : latest ≤ now) :
    limiter.Grants key count now ↔ count + ledger.used key now ≤ ledger.limit := by
  rw [Sliding.grants_iff (agrees.mirrors key) later count, ← agrees.limit, ← agrees.window,
    ← ledger.used_eq key now]

/-- A limiter is without room where its ledger says so. -/
theorem overflows_iff (agrees : Agrees latest limiter ledger) (key : String) (count : Nat)
    {now : Nat} (later : latest ≤ now) :
    limiter.Overflows key count now ↔ ledger.Overflows key count now := by
  rw [Sliding.Overflows, agrees.grants_iff key count later, (agrees.mirrors key).length_prune later,
    ← agrees.window, ← ledger.used_eq key now, Nat.add_comm (ledger.used key now)]
  rfl

/-- A limiter and its ledger give a batch the same answer, as long as there is room. -/
theorem grant_answer (agrees : Agrees latest limiter ledger) (key : String) (count : Nat)
    {now : Nat} (later : latest ≤ now) :
    (limiter.grant key count now).1 = (ledger.allow key count now).1 := by
  have grants := agrees.grants_iff key count later
  rw [Sliding.grant_answer, Ledger.allow]
  by_cases fits : count + ledger.used key now ≤ ledger.limit
  · rw [if_pos fits, decide_eq_true (grants.mpr fits)]
  · rw [if_neg fits, decide_eq_false fun granted => fits (grants.mp granted)]

/-- They agree after a batch, as long as there is room. -/
theorem grant (agrees : Agrees latest limiter ledger) (key : String) (count : Nat) {now : Nat}
    (later : latest ≤ now) :
    Agrees now (limiter.grant key count now).2 (ledger.allow key count now).2 where
  limit := by
    rw [(limiter.settings_grant key count now).1]
    exact (ledger.settings_step (.allow key count now)).1.trans agrees.limit
  window := by
    rw [(limiter.settings_grant key count now).2]
    exact (ledger.settings_step (.allow key count now)).2.trans agrees.window
  mirrors := by
    intro other
    have reads : ∀ read, Call.now? (.allow key count now) = some read → latest ≤ read := by
      rintro _ ⟨⟩
      exact later
    have log := ledger.instants_step other (.allow key count now)
    rw [if_neg (by simp)] at log
    have mirrors := (limiter.change_grant other key count now).mirrors (agrees.mirrors other) reads
    rw [if_neg (by simp), agrees.grant_answer key count later] at mirrors
    rw [(limiter.settings_grant key count now).1, (limiter.settings_grant key count now).2]
    exact log ▸ mirrors

/-- A limiter answers as the ledger does exactly if the call finds room in its queue. -/
theorem step_answer_iff (agrees : Agrees latest limiter ledger) (call : Call)
    (later : ∀ now, call.now? = some now → latest ≤ now) :
    (limiter.step call).1 = (ledger.step call).1 ↔ ledger.HasRoom call := by
  cases call with
  | allow key count now =>
      have overflows := agrees.overflows_iff key count (later now rfl)
      simp only [Sliding.step, Ledger.step, Ledger.HasRoom, ← overflows]
      by_cases long : limiter.Overflows key count now
      · simp [Sliding.allow_of_overflows long, long]
      · simp [Sliding.allow_of_not_overflows long, long,
          agrees.grant_answer key count (later now rfl)]
  | remaining key now =>
      refine iff_of_true ?_ trivial
      simp only [Sliding.step, Ledger.step, Sliding.remaining_answer, Ledger.remaining]
      rw [(agrees.mirrors key).length_prune (later now rfl), ledger.used_eq, agrees.limit,
        agrees.window]
  | reset key => exact iff_of_true rfl trivial
  | purge now => exact iff_of_true rfl trivial

/-- A limiter agrees with its ledger after a call for which there is room. -/
theorem step (agrees : Agrees latest limiter ledger) (call : Call)
    (later : ∀ now, call.now? = some now → latest ≤ now) (room : ledger.HasRoom call) :
    Agrees (call.now?.getD latest) (limiter.step call).2 (ledger.step call).2 where
  limit := by
    rw [(limiter.settings_step call).1, (ledger.settings_step call).1, agrees.limit]
  window := by
    rw [(limiter.settings_step call).2, (ledger.settings_step call).2, agrees.window]
  mirrors := by
    intro key
    rw [(limiter.settings_step call).1, (limiter.settings_step call).2, ledger.instants_step,
      ← (agrees.step_answer_iff call later).mpr room]
    exact (limiter.change_step key call).mirrors (agrees.mirrors key) later

/-- The answers stay the same over a whole run as long as every call finds room. -/
theorem run_answers_iff (agrees : Agrees latest limiter ledger) (calls : List Call)
    (ordered : (latest :: clocks calls).Pairwise (· ≤ ·)) :
    (limiter.run calls).1 = (ledger.run calls).1 ↔
      ∀ before call after, calls = before ++ call :: after →
        (ledger.run before).2.HasRoom call := by
  induction calls generalizing latest limiter ledger with
  | nil => simp [Sliding.run, Ledger.run]
  | cons call calls ih =>
      obtain ⟨later, ordered⟩ := ordered_cons ordered
      have answers : (limiter.run (call :: calls)).1 = (ledger.run (call :: calls)).1 ↔
          (limiter.step call).1 = (ledger.step call).1 ∧
            ((limiter.step call).2.run calls).1 = ((ledger.step call).2.run calls).1 :=
        List.cons.injEq .. |>.to_iff
      rw [forall_split_cons, answers, agrees.step_answer_iff call later]
      exact and_congr_right fun room => ih (agrees.step call later room) ordered

end Agrees

namespace Ledger

variable {ledger : Ledger}

/-- A limit that a queue has room for leaves room for every call. -/
theorem hasRoom_of_limit_le (small : ledger.limit ≤ Sliding.longestQueue) (call : Call) :
    ledger.HasRoom call := by
  cases call with
  | allow key count now =>
      rintro ⟨-, fits, long⟩
      omega
  | remaining key now => trivial
  | reset key => trivial
  | purge now => trivial

/-- No run changes the limit of a ledger. -/
theorem limit_run (ledger : Ledger) (calls : List Call) :
    (ledger.run calls).2.limit = ledger.limit := by
  induction calls generalizing ledger with
  | nil => rfl
  | cons call calls ih => exact (ih _).trans (ledger.settings_step call).1

end Ledger

/-- With a limit that a queue has room for, the answers are always those of the ledger. -/
theorem Agrees.run_answers {latest : Nat} {limiter : Sliding} {ledger : Ledger}
    (agrees : Agrees latest limiter ledger) (small : limiter.limit ≤ Sliding.longestQueue)
    (calls : List Call) (ordered : (latest :: clocks calls).Pairwise (· ≤ ·)) :
    (limiter.run calls).1 = (ledger.run calls).1 := by
  refine (agrees.run_answers_iff calls ordered).mpr fun before call _ _ => ?_
  refine Ledger.hasRoom_of_limit_le ?_ call
  rwa [Ledger.limit_run, agrees.limit]

/-- While clocks never go back, a limiter that prunes, sweeps and forgets keys gives the answers of
a ledger that keeps every event, exactly if no call of the run asks for events that fit within the
limit and not in a queue. -/
theorem run_eq_ledger_iff (limit window created : Nat) (calls : List Call)
    (ordered : (clocks calls).Pairwise (· ≤ ·)) :
    ((Sliding.new limit window created).run calls).1 = ((Ledger.new limit window).run calls).1 ↔
      ∀ before call after, calls = before ++ call :: after →
        ((Ledger.new limit window).run before).2.HasRoom call := by
  refine (Agrees.new limit window created 0).run_answers_iff calls ?_
  exact List.pairwise_cons.mpr ⟨fun now _ => Nat.zero_le now, ordered⟩

/-- Events that are exactly a window old, batches of zero and too many events, resets and sweeps. -/
theorem run_eq_ledger_edges :
    let calls : List Call := [.allow "a" 1 0, .allow "a" 1 5, .allow "b" 18446744073709551615 7,
      .allow "a" 1 9, .allow "a" 1 10, .allow "a" 0 10, .remaining "a" 16, .reset "a",
      .allow "a" 2 16, .purge 26, .remaining "a" 26]
    (clocks calls).Pairwise (· ≤ ·) ∧
      ((Sliding.new 2 10 0).run calls).1 =
        [.admitted true, .admitted true, .admitted false, .admitted false, .admitted true,
          .admitted true, .left 1, .done, .admitted true, .done, .left 2] := by
  intro calls
  have ordered : (clocks calls).Pairwise (· ≤ ·) := by decide
  have room (before : List Call) (call : Call) (after : List Call)
      (_ : calls = before ++ call :: after) : ((Ledger.new 2 10).run before).2.HasRoom call := by
    refine Ledger.hasRoom_of_limit_le ?_ call
    rw [Ledger.limit_run]
    decide
  refine ⟨ordered, ?_⟩
  rw [(run_eq_ledger_iff 2 10 0 calls ordered).mpr room]
  decide

/-- A batch that fits within the largest limit is not admitted. -/
theorem largest_batch_breaks_down :
    let calls : List Call := [.allow "k" 18446744073709551615 0]
    ((Sliding.new 18446744073709551615 10 0).run calls).1 = [.panicked "capacity overflow"] ∧
      ((Ledger.new 18446744073709551615 10).run calls).1 = [.admitted true] := by
  decide +kernel

end Backplane.RateLimit
