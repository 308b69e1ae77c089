import Backplane.Proofs.RateLimit.Change

namespace Backplane.RateLimit.Sliding

variable {limiter : Sliding} {key other : String} {count now last : Nat}

/-- From an instant on, two limiters count the same events for a key. -/
structure SameFrom (now : Nat) (key : String) (first second : Sliding) : Prop where
  limit : first.limit = second.limit
  window : first.window = second.window
  events : ∀ last, now ≤ last →
    prune second.window last (first.recorded key) = prune second.window last (second.recorded key)

namespace SameFrom

variable {first second : Sliding}

/-- Limiters that are the same for a key leave it the same room. -/
theorem remaining (same : SameFrom now key first second) (later : now ≤ last) :
    (first.remaining key last).1 = (second.remaining key last).1 := by
  rw [remaining_answer, remaining_answer, same.limit, same.window, same.events last later]

/-- What a due sweep drops would not count later either. -/
theorem sweepIfDue (limiter : Sliding) (key : String) (now : Nat) :
    SameFrom now key (limiter.sweepIfDue now) limiter where
  limit := limiter.limit_sweepIfDue now
  window := limiter.window_sweepIfDue now
  events := by
    intro last later
    rw [recorded_sweepIfDue]
    split
    · exact prune_prune_of_le _ _ _ later
    · rfl

/-- A call for another key makes no difference to a key. -/
theorem allow_of_ne (limiter : Sliding) (different : key ≠ other) (count now : Nat) :
    SameFrom now other (limiter.allow key count now).2 limiter where
  limit := (limiter.settings_allow key count now).1
  window := (limiter.settings_allow key count now).2
  events := by
    intro last later
    rw [recorded_allow, if_neg different]
    exact (sweepIfDue limiter other now).events last later

/-- A call that adds nothing makes no difference to its key. -/
theorem allow_of_added_eq_nil (nothing : limiter.added key count now = []) :
    SameFrom now key (limiter.allow key count now).2 limiter where
  limit := (limiter.settings_allow key count now).1
  window := (limiter.settings_allow key count now).2
  events := by
    intro last later
    rw [recorded_allow, if_pos rfl, nothing, List.append_nil]
    exact prune_prune_of_le _ _ _ later

end SameFrom

/-- New events are behind those that pruning left, and are not dropped at once. -/
theorem prune_append_replicate {window : Nat} (positive : 0 < window) (events : List Nat) :
    prune window now (prune window now events ++ List.replicate count now) =
      prune window now events ++ List.replicate count now := by
  have added : prune window now (List.replicate count now) = List.replicate count now := by
    have inside : ¬ now + window ≤ now := by omega
    rw [prune, List.dropWhile_replicate, if_neg (by simpa only [decide_eq_true_iff] using inside)]
  rw [prune, List.dropWhile_append, ← prune, ← prune, prune_prune, added]
  split
  next empty => rw [List.isEmpty_iff.mp empty, List.nil_append]
  next => rfl

/-- Events are granted if they fit in what remains. -/
theorem grants_iff_le_remaining :
    limiter.Grants key count now ↔ count ≤ (limiter.remaining key now).1 := by
  rw [Grants, remaining_answer]

/-- A call admits its events exactly if they fit within the limit and in the queue. -/
theorem allow_eq_some_true_iff :
    (limiter.allow key count now).1 = some true ↔
      limiter.Grants key count now ∧ ¬ limiter.Overflows key count now := by
  rw [allow_answer]
  split
  next overflows => simp [overflows]
  next room => simp [room]

/-- A call breaks down exactly if there is no room for its events. -/
theorem allow_eq_none_iff :
    (limiter.allow key count now).1 = none ↔ limiter.Overflows key count now := by
  rw [allow_answer]
  split
  next overflows => simp [overflows]
  next room => simp [room]

/-- A call that admits adds all its events. -/
theorem added_of_admitted (admitted : (limiter.allow key count now).1 = some true) :
    limiter.added key count now = List.replicate count now := by
  obtain ⟨grants, room⟩ := allow_eq_some_true_iff.mp admitted
  rw [added, if_neg room, granted, if_pos grants]

/-- A call that does not admit adds nothing. -/
theorem added_of_not_admitted (not : (limiter.allow key count now).1 ≠ some true) :
    limiter.added key count now = [] := by
  rw [added]
  split
  next => rfl
  next room =>
    rw [granted, if_neg]
    exact fun grants => not (allow_eq_some_true_iff.mpr ⟨grants, room⟩)

/-- An admitted batch takes up its size. -/
theorem remaining_allow_of_admitted (positive : 0 < limiter.window)
    (admitted : (limiter.allow key count now).1 = some true) :
    ((limiter.allow key count now).2.remaining key now).1 + count =
      (limiter.remaining key now).1 := by
  obtain ⟨limit, window⟩ := limiter.settings_allow key count now
  have grants := (allow_eq_some_true_iff.mp admitted).1
  rw [remaining_answer, remaining_answer, limit, window, recorded_allow, if_pos rfl,
    added_of_admitted admitted, prune_append_replicate positive, List.length_append,
    List.length_replicate]
  rw [Grants] at grants
  omega

/-- The most events that a key may have. -/
def mostEvents (limiter : Sliding) : Nat := min limiter.limit longestQueue

/-- Pruning makes no queue longer. -/
theorem length_prune_le (bounded : (limiter.recorded key).length ≤ limiter.mostEvents) (now : Nat) :
    (prune limiter.window now (limiter.recorded key)).length ≤ limiter.mostEvents :=
  (prune_sublist limiter.window now _).length_le.trans bounded

/-- A sweep makes no queue longer. -/
theorem length_sweepIfDue_le (bounded : (limiter.recorded key).length ≤ limiter.mostEvents)
    (now : Nat) : ((limiter.sweepIfDue now).recorded key).length ≤ limiter.mostEvents := by
  rw [recorded_sweepIfDue]
  split
  · exact length_prune_le bounded now
  · exact bounded

/-- A call that adds events found room for them. -/
theorem length_allow_le (bounded : (limiter.recorded key).length ≤ limiter.mostEvents)
    (count now : Nat) :
    ((limiter.allow key count now).2.recorded key).length ≤ limiter.mostEvents := by
  have pruned := length_prune_le bounded now
  rw [recorded_allow, if_pos rfl]
  by_cases admitted : (limiter.allow key count now).1 = some true
  · obtain ⟨grants, room⟩ := allow_eq_some_true_iff.mp admitted
    rw [added_of_admitted admitted, List.length_append, List.length_replicate]
    simp only [Overflows, grants, true_and, not_and, Nat.not_lt] at room
    rw [Grants] at grants
    rw [mostEvents] at pruned ⊢
    omega
  · rwa [added_of_not_admitted admitted, List.append_nil]

/-- One call keeps the events of a key within the limit and within one queue. -/
theorem length_recorded_step (bounded : (limiter.recorded key).length ≤ limiter.mostEvents)
    (call : Call) : ((limiter.step call).2.recorded key).length ≤ limiter.mostEvents := by
  cases call with
  | allow other count now =>
      by_cases same : other = key
      · subst same
        exact length_allow_le bounded count now
      · simp only [step, recorded_allow, if_neg same]
        exact length_sweepIfDue_le bounded now
  | remaining other now =>
      simp only [step, recorded_remaining, recorded_pruneKey]
      split
      · exact length_prune_le bounded now
      · exact bounded
  | reset other =>
      simp only [step, recorded_reset]
      split
      · exact Nat.zero_le _
      · exact bounded
  | purge now =>
      simp only [step, purge, recorded_sweep]
      exact length_prune_le bounded now

/-- A run keeps every queue within the limit and within its room. -/
theorem length_recorded_run (bounded : (limiter.recorded key).length ≤ limiter.mostEvents)
    (calls : List Call) : ((limiter.run calls).2.recorded key).length ≤ limiter.mostEvents := by
  induction calls generalizing limiter with
  | nil => exact bounded
  | cons call calls ih =>
      have most : (limiter.step call).2.mostEvents = limiter.mostEvents := by
        rw [mostEvents, (limiter.settings_step call).1, mostEvents]
      have next := length_recorded_step bounded call
      rw [← most] at next ⊢
      exact ih next

/-- While a key has no more events than it may, its queue is without room exactly for a batch that
fits within the limit and is longer than what a queue can have room for behind those events. -/
theorem overflows_iff_remaining (bounded : (limiter.recorded key).length ≤ limiter.mostEvents) :
    limiter.Overflows key count now ↔ count ≤ (limiter.remaining key now).1 ∧
      longestQueue < limiter.limit - (limiter.remaining key now).1 + count := by
  have pruned := length_prune_le bounded now
  rw [mostEvents] at pruned
  rw [Overflows, grants_iff_le_remaining, remaining_answer]
  omega

/-- In every state that a run of calls with clocks in any order comes to, no key has more events
than the limit. A batch is admitted exactly if it fits in what remains, but for one that fits and
finds no room in the queue: that call breaks down. An admitted batch takes up its size, any other
changes nothing for its key from its instant on, and neither changes anything for another key. -/
theorem batches_all_or_nothing (limit window created : Nat) (calls : List Call) (key : String)
    (count now : Nat) :
    let limiter := ((new limit window created).run calls).2
    let after := (limiter.allow key count now).2
    let left := (limiter.remaining key now).1
    (∀ other, (limiter.recorded other).length ≤ limit) ∧
    ((limiter.allow key count now).1 = some true ↔
      count ≤ left ∧ limit - left + count ≤ longestQueue) ∧
    ((limiter.allow key count now).1 = none ↔
      count ≤ left ∧ longestQueue < limit - left + count) ∧
    ((limiter.allow key count now).1 = some true → 0 < window →
      (after.remaining key now).1 + count = left) ∧
    ((limiter.allow key count now).1 ≠ some true →
      ∀ last, now ≤ last → (after.remaining key last).1 = (limiter.remaining key last).1) ∧
    (∀ other, other ≠ key →
      ∀ last, now ≤ last → (after.remaining other last).1 = (limiter.remaining other last).1) := by
  intro limiter after left
  obtain ⟨sameLimit, sameWindow⟩ : limiter.limit = limit ∧ limiter.window = window :=
    (new limit window created).settings_run calls
  have bounded (other : String) : (limiter.recorded other).length ≤ limiter.mostEvents := by
    have start : ((new limit window created).recorded other).length ≤
        (new limit window created).mostEvents := by simp
    rw [mostEvents, sameLimit]
    exact length_recorded_run start calls
  have overflows : limiter.Overflows key count now ↔ _ := overflows_iff_remaining (bounded key)
  rw [sameLimit] at overflows
  refine ⟨fun other => ?_, ?_, ?_, fun admitted positive => ?_, fun refused last later => ?_,
    fun other different last later => ?_⟩
  · exact (bounded other).trans (sameLimit ▸ Nat.min_le_left ..)
  · rw [allow_eq_some_true_iff, grants_iff_le_remaining, overflows, not_and, Nat.not_lt]
    exact and_congr_right fun fits => forall_prop_of_true fits
  · rw [allow_eq_none_iff, overflows]
  · exact remaining_allow_of_admitted (sameWindow ▸ positive) admitted
  · exact (SameFrom.allow_of_added_eq_nil (added_of_not_admitted refused)).remaining later
  · exact (SameFrom.allow_of_ne limiter different.symm count now).remaining later

/-- The clock went back, so that an event which has left the window stands behind one that has not
and still counts. -/
theorem batches_all_or_nothing_backwards :
    let limiter := ((new 3 10 0).run [.allow "a" 1 12, .allow "a" 1 3]).2
    limiter.recorded "a" = [12, 3] ∧ (limiter.remaining "a" 14).1 = 1 ∧
      (limiter.allow "a" 1 14).1 = some true ∧ (limiter.allow "a" 2 14).1 ≠ some true ∧
      ((limiter.allow "a" 1 14).2.remaining "a" 14).1 + 1 = (limiter.remaining "a" 14).1 ∧
      ((limiter.allow "a" 2 14).2.remaining "a" 22).1 = (limiter.remaining "a" 22).1 := by
  intro limiter
  have queue : limiter.recorded "a" = [12, 3] := by decide +kernel
  have left : (limiter.remaining "a" 14).1 = 1 := by decide +kernel
  obtain ⟨-, one, -, takes, -⟩ :=
    batches_all_or_nothing 3 10 0 [.allow "a" 1 12, .allow "a" 1 3] "a" 1 14
  obtain ⟨-, two, -, -, keeps, -⟩ :=
    batches_all_or_nothing 3 10 0 [.allow "a" 1 12, .allow "a" 1 3] "a" 2 14
  have admitted : (limiter.allow "a" 1 14).1 = some true := one.mpr ⟨left.ge, by decide +kernel⟩
  have refused : (limiter.allow "a" 2 14).1 ≠ some true := by
    intro admitted
    have fits : 2 ≤ (limiter.remaining "a" 14).1 := (two.mp admitted).1
    omega
  exact ⟨queue, left, admitted, refused, takes admitted (by decide), keeps refused 22 (by decide)⟩

/-- A second batch that fits within the limit finds no room behind the first event and is not
admitted. -/
theorem allow_breaks_down :
    let limiter := ((new 18446744073709551615 10 0).run [.allow "a" 1 0]).2
    18446744073709551614 ≤ (limiter.remaining "a" 0).1 ∧
      (limiter.allow "a" 18446744073709551614 0).1 = none := by
  decide +kernel

end Backplane.RateLimit.Sliding
