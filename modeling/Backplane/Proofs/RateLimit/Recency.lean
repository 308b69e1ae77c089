import Backplane.Proofs.RateLimit.Known

namespace Backplane.RateLimit

/-- An instant of a key is that of one of its events. -/
theorem mem_instants {key : String} {event : Nat} {events : List (String × Nat)} :
    event ∈ instants key events ↔ (key, event) ∈ events := by
  simp [instants]

namespace Sliding

/-- The first event that pruning leaves lies in the window. -/
theorem exists_inside {window now : Nat} {events : List Nat}
    (some : prune window now events ≠ []) :
    ∃ event ∈ prune window now events, now < event + window := by
  refine ⟨_, List.head_mem some, ?_⟩
  have young := List.head_dropWhile_not (fun event => decide (event + window ≤ now)) some
  simpa [prune] using young

variable {limiter : Sliding} {log broken : List (String × Nat)} {key other : String}
  {count now latest : Nat}

/-- All events of a batch have the instant of the call. -/
theorem eq_of_mem_added {event : Nat} (listed : event ∈ limiter.added key count now) :
    event = now := by
  unfold added granted at listed
  split at listed
  · cases listed
  · split at listed
    · exact List.eq_of_mem_replicate listed
    · cases listed

/-- After a call for more events that sweeps, every known key has an event in the window: one that
the sweep left, or a new one. Only the key over which the call breaks down need not. -/
theorem exists_inside_allow (positive : 0 < limiter.window)
    (due : limiter.window ≤ now - limiter.lastSweep)
    (known : (limiter.allow other count now).2.Knows key) :
    (∃ event ∈ (limiter.allow other count now).2.recorded key, now < event + limiter.window) ∨
      limiter.BreaksOver key (.allow other count now) := by
  obtain some | ⟨-, early, -⟩ | breaks := (limiter.knows_allow other key count now).mp known
  · left
    rw [recorded_allow, recorded_sweepIfDue, if_pos due] at some ⊢
    by_cases same : other = key
    · subst same
      rw [if_pos rfl] at some ⊢
      by_cases left : prune limiter.window now (limiter.recorded other) = []
      · rw [left, List.nil_append] at some
        obtain ⟨event, listed⟩ := List.exists_mem_of_ne_nil _ some
        refine ⟨event, List.mem_append_right _ listed, ?_⟩
        rw [eq_of_mem_added listed]
        omega
      · obtain ⟨event, listed, inside⟩ := exists_inside left
        exact ⟨event, List.mem_append_left _ listed, inside⟩
    · rw [if_neg same] at some ⊢
      exact exists_inside some
  · exact absurd due (Nat.not_le.mpr early)
  · exact .inr breaks

/-- A key that a sweep leaves has an event in the window. -/
theorem exists_inside_sweep (known : (limiter.sweep now).Knows key) :
    ∃ event ∈ (limiter.sweep now).recorded key, now < event + limiter.window := by
  have some := (limiter.knows_sweep key now).mp known
  rw [recorded_sweep] at some ⊢
  exact exists_inside some

/-- A call either leaves the last sweep as it was, or sweeps at its own instant. What is known after
a sweep has an event in its window, or the call breaks down over it. -/
theorem same_or_swept (positive : 0 < limiter.window) (call : Call) :
    (limiter.step call).2.lastSweep = limiter.lastSweep ∨
      ∃ now, call.now? = some now ∧ (limiter.step call).2.lastSweep = now ∧
        ∀ key, (limiter.step call).2.Knows key →
          (∃ event ∈ (limiter.step call).2.recorded key, now < event + limiter.window) ∨
            limiter.BreaksOver key call := by
  cases call with
  | allow other count now =>
      simp only [step, lastSweep_allow, lastSweep_sweepIfDue]
      split
      next due => exact .inr ⟨now, rfl, rfl, fun key => exists_inside_allow positive due⟩
      next => exact .inl rfl
  | remaining other now => exact .inl (limiter.lastSweep_remaining other now)
  | reset other => exact .inl rfl
  | purge now => exact .inr ⟨now, rfl, rfl, fun key known => .inl (exists_inside_sweep known)⟩

/-- No call notes a sweep later than its own clock. -/
theorem lastSweep_step_le (positive : 0 < limiter.window) (swept : limiter.lastSweep ≤ latest)
    (call : Call) (later : ∀ now, call.now? = some now → latest ≤ now) :
    (limiter.step call).2.lastSweep ≤ call.now?.getD latest := by
  obtain same | ⟨now, reads, swept, -⟩ := same_or_swept positive call
  · rw [same]
    cases reads : call.now? with
    | none => exact swept
    | some now => exact swept.trans (later now reads)
  · rw [swept, reads]
    exact Nat.le_refl now

/-- A call that breaks down over a key does so at its instant. -/
theorem mem_breaks {call : Call} (breaks : limiter.BreaksOver key call) :
    ∃ now, call.now? = some now ∧ (key, now) ∈ call.breaks (limiter.step call).1 := by
  cases call with
  | allow other count now =>
      obtain ⟨rfl, overflows⟩ := breaks
      refine ⟨now, rfl, ?_⟩
      simp only [step, allow_answer, if_pos overflows]
      exact List.mem_singleton.mpr rfl
  | remaining other now => exact breaks.elim
  | reset other => exact breaks.elim
  | purge now => exact breaks.elim

/-- A call that adds a key admits events for it at its instant or breaks down over it. -/
theorem mem_admits_or_breaks (grants : limiter.Grants key count now) (some : 0 < count) :
    (key, now) ∈ Call.admits (.allow key count now) (limiter.step (.allow key count now)).1 ++
      Call.breaks (.allow key count now) (limiter.step (.allow key count now)).1 := by
  by_cases overflows : limiter.Overflows key count now
  · have breaks : limiter.BreaksOver key (.allow key count now) := ⟨rfl, overflows⟩
    obtain ⟨_, ⟨⟩, listed⟩ := mem_breaks breaks
    exact List.mem_append_right _ listed
  · refine List.mem_append_left _ ?_
    simp only [step, allow_answer, if_neg overflows, decide_eq_true grants]
    exact List.mem_replicate.mpr ⟨some.ne', rfl⟩

/-- A limiter against the log of all admitted events and that of all batches over which calls broke
down. Its events are listed as admitted, and every known key is listed with an instant that was in
the window at the last sweep or came after it. -/
structure Recent (limiter : Sliding) (log broken : List (String × Nat)) : Prop where
  listed : ∀ key, ∀ event ∈ limiter.recorded key, (key, event) ∈ log
  recent : ∀ key, limiter.Knows key →
    ∃ event, (key, event) ∈ log ++ broken ∧ limiter.lastSweep < event + limiter.window

namespace Recent

/-- A new limiter knows no key. -/
theorem new (limit window created : Nat) : (Sliding.new limit window created).Recent [] [] where
  listed := by simp
  recent := fun key known => absurd known (not_knows_new key limit window created)

/-- After a call the queue of a key holds admitted events only. -/
theorem listed_step (recent : limiter.Recent log broken) (call : Call) (key : String) :
    ∀ event ∈ (limiter.step call).2.recorded key,
      (key, event) ∈ log ++ call.admits (limiter.step call).1 := by
  have change := limiter.change_step key call
  generalize (limiter.step call).2.recorded key = queue at change
  generalize adds : instants key (call.admits (limiter.step call).1) = added at change
  intro event kept
  cases change with
  | kept => exact List.mem_append_left _ (recent.listed key event kept)
  | pruned _ now =>
      have before := (prune_sublist limiter.window now _).mem kept
      exact List.mem_append_left _ (recent.listed key event before)
  | granted count now =>
      obtain old | new := List.mem_append.mp kept
      · have before := (prune_sublist limiter.window now _).mem old
        exact List.mem_append_left _ (recent.listed key event before)
      · rw [← adds] at new
        exact List.mem_append_right _ (mem_instants.mp new)
  | forgotten => cases kept

/-- A call keeps every known key recent. -/
theorem step (recent : limiter.Recent log broken) (positive : 0 < limiter.window)
    (swept : limiter.lastSweep ≤ latest) (call : Call)
    (later : ∀ now, call.now? = some now → latest ≤ now) :
    (limiter.step call).2.Recent (log ++ call.admits (limiter.step call).1)
      (broken ++ call.breaks (limiter.step call).1) where
  listed := recent.listed_step call
  recent := by
    intro key known
    rw [(limiter.settings_step call).2]
    obtain same | ⟨now, reads, sweeps, inside⟩ := same_or_swept positive call
    · rw [same]
      obtain before | ⟨count, now, rfl, grants, some⟩ := knows_or_grants known
      · obtain ⟨event, listed, young⟩ := recent.recent key before
        exact ⟨event, by grind, young⟩
      · have listed := mem_admits_or_breaks grants some
        have := later now rfl
        exact ⟨now, by grind, by omega⟩
    · rw [sweeps]
      obtain ⟨event, kept, young⟩ | breaks := inside key known
      · exact ⟨event, List.mem_append_left _ (recent.listed_step call key event kept), young⟩
      · obtain ⟨instant, same, listed⟩ := mem_breaks breaks
        obtain rfl : instant = now := Option.some.inj (same.symm.trans reads)
        exact ⟨instant, by grind, by omega⟩

/-- Over a run that ends with a call for more events, keys stay recent, and the last sweep is less
than a window ago. -/
theorem run (recent : limiter.Recent log broken) (positive : 0 < limiter.window)
    (swept : limiter.lastSweep ≤ latest) (calls : List Call)
    (ordered : (latest :: clocks (calls ++ [.allow key count now])).Pairwise (· ≤ ·)) :
    (limiter.run (calls ++ [.allow key count now])).2.Recent
        (log ++ limiter.admitted (calls ++ [.allow key count now]))
        (broken ++ limiter.broken (calls ++ [.allow key count now])) ∧
      now < (limiter.run (calls ++ [.allow key count now])).2.lastSweep + limiter.window := by
  induction calls generalizing limiter log broken latest with
  | nil =>
      obtain ⟨later, -⟩ := ordered_cons ordered
      rw [List.nil_append, admitted_cons, admitted_nil, List.append_nil, broken_cons, broken_nil,
        List.append_nil]
      refine ⟨recent.step positive swept _ later, ?_⟩
      simp only [Sliding.run, Sliding.step, lastSweep_allow, lastSweep_sweepIfDue]
      split <;> omega
  | cons call calls ih =>
      obtain ⟨later, ordered⟩ := ordered_cons ordered
      have window := (limiter.settings_step call).2
      rw [List.cons_append, admitted_cons, broken_cons, ← List.append_assoc, ← List.append_assoc,
        ← window]
      rw [← window] at positive
      exact ih (recent.step (window ▸ positive) swept call later) positive
        (lastSweep_step_le (window ▸ positive) swept call later) ordered

end Recent

/-- While clocks never go back, every key that is known right after a call for more events was
admitted an event less than two windows ago, or a call broke down over it then. So a key without
events in the window is forgotten at most one window later, by the next call for more events of any
key. In a run whose calls all complete, only what they admit counts. -/
theorem known_within_two_windows (limit window created : Nat) (calls : List Call) (key : String)
    (count now : Nat) (positive : 0 < window)
    (ordered : (created :: clocks (calls ++ [.allow key count now])).Pairwise (· ≤ ·)) :
    let start := new limit window created
    let served := calls ++ [.allow key count now]
    (∀ other, (start.run served).2.Knows other →
      ∃ event, (other, event) ∈ start.admitted served ++ start.broken served ∧
        now < event + 2 * window) ∧
    (∀ other ended,
      (∀ event, (other, event) ∈ start.admitted served ++ start.broken served →
        event + window ≤ ended) →
      ended + window ≤ now → ¬ (start.run served).2.Knows other) ∧
    ((∀ message, .panicked message ∉ (start.run served).1) → start.broken served = []) := by
  intro start served
  obtain ⟨recent, swept⟩ :=
    (Recent.new limit window created).run positive (Nat.le_refl created) calls ordered
  have young : ∀ other, (start.run served).2.Knows other →
      ∃ event, (other, event) ∈ start.admitted served ++ start.broken served ∧
        now < event + 2 * window := by
    intro other known
    obtain ⟨event, listed, inside⟩ := recent.recent other known
    rw [((new limit window created).settings_run _).2] at inside
    have : (new limit window created).window = window := rfl
    exact ⟨event, listed, by omega⟩
  refine ⟨young, ?_, start.broken_eq_nil served⟩
  intro other ended empties passed known
  obtain ⟨event, listed, inside⟩ := young other known
  have := empties event listed
  omega

/-- An event that was within the window by one tick at the last sweep keeps its key known for almost
two windows. -/
theorem known_within_two_windows_eldest :
    let start := new 1 10 0
    let served : List Call := [.allow "a" 1 1, .allow "b" 1 10] ++ [.allow "c" 1 19]
    0 < 10 ∧ (0 :: clocks served).Pairwise (· ≤ ·) ∧ (start.run served).2.Knows "a" ∧
      ∃ event, ("a", event) ∈ start.admitted served ++ start.broken served ∧
        19 < event + 2 * 10 := by
  intro start served
  have ordered : (0 :: clocks served).Pairwise (· ≤ ·) := by decide
  have known : (start.run served).2.Knows "a" := by decide +kernel
  have young := (known_within_two_windows 1 10 0 [.allow "a" 1 1, .allow "b" 1 10] "c" 1 19
    (by decide) ordered).1
  exact ⟨by decide, ordered, known, young "a" known⟩

end Sliding

end Backplane.RateLimit
