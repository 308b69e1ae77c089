import Backplane.RateLimit.Ledger
import Mathlib.Data.List.TakeWhile
import Std.Data.TreeMap.Lemmas

namespace Backplane.RateLimit.Sliding

section Prune

variable (window now : Nat) (events : List Nat)

@[simp] theorem prune_nil : prune window now [] = [] := rfl

/-- Pruning drops events and changes none. -/
theorem prune_sublist : (prune window now events).Sublist events :=
  List.dropWhile_sublist _

/-- Only events that are a whole window old are dropped. -/
theorem prune_dropped : ∃ dropped, events = dropped ++ prune window now events ∧
    ∀ event ∈ dropped, event + window ≤ now := by
  refine ⟨events.takeWhile fun event => event + window ≤ now, ?_, ?_⟩
  · exact List.takeWhile_append_dropWhile.symm
  · intro event taken
    simpa using List.mem_takeWhile_imp taken

/-- Among events in order, pruning finds every event that is a whole window old. -/
theorem prune_eq_filter (ordered : events.Pairwise (· ≤ ·)) :
    prune window now events = events.filter fun event => now < event + window := by
  induction events with
  | nil => rfl
  | cons event rest inductionHypothesis =>
      obtain ⟨first, ordered⟩ := List.pairwise_cons.mp ordered
      by_cases old : event + window ≤ now
      · have gone : ¬ now < event + window := by omega
        have tail := inductionHypothesis ordered
        rw [prune] at tail ⊢
        rw [List.dropWhile_cons_of_pos (by simpa using old), tail,
          List.filter_cons_of_neg (by simpa using gone)]
      · have all : ∀ other ∈ event :: rest, now < other + window := by
          intro other listed
          rcases List.mem_cons.mp listed with rfl | later
          · omega
          · have := first other later
            omega
        rw [prune, List.dropWhile_cons_of_neg (by simpa using old),
          List.filter_eq_self.mpr (by simpa using all)]

/-- What an earlier instant drops, a later one would drop as well. -/
theorem prune_prune_of_le {later : Nat} (after : now ≤ later) :
    prune window later (prune window now events) = prune window later events := by
  induction events with
  | nil => rfl
  | cons event rest inductionHypothesis =>
      by_cases old : event + window ≤ now
      · have skip : prune window now (event :: rest) = prune window now rest :=
          List.dropWhile_cons_of_pos (by simpa using old)
        have gone : event + window ≤ later := old.trans after
        have skipLater : prune window later (event :: rest) = prune window later rest :=
          List.dropWhile_cons_of_pos (by simpa using gone)
        rw [skip, skipLater, inductionHypothesis]
      · have keep : prune window now (event :: rest) = event :: rest :=
          List.dropWhile_cons_of_neg (by simpa using old)
        rw [keep]

/-- Pruning twice is pruning once. -/
theorem prune_prune : prune window now (prune window now events) = prune window now events :=
  prune_prune_of_le window now events (Nat.le_refl now)

end Prune

variable (limiter : Sliding) (key other : String) (count now : Nat)

@[simp] theorem recorded_new (limit window created : Nat) :
    (new limit window created).recorded key = [] := by
  simp [new, recorded]

/-- A sweep prunes every key. -/
theorem recorded_sweep :
    (limiter.sweep now).recorded key = prune limiter.window now (limiter.recorded key) := by
  simp only [recorded, sweep, Std.TreeMap.getElem?_filterMap']
  cases limiter.events[key]? with
  | none => rfl
  | some events =>
      by_cases empty : prune limiter.window now events = []
      · simp [empty]
      · simp [empty]

/-- A due sweep prunes the events of every key, also of those the call does not name. -/
theorem recorded_sweepIfDue :
    (limiter.sweepIfDue now).recorded key =
      if limiter.window ≤ now - limiter.lastSweep then
        prune limiter.window now (limiter.recorded key)
      else limiter.recorded key := by
  unfold sweepIfDue
  split
  · exact limiter.recorded_sweep key now
  · rfl

/-- Pruning a key leaves the others alone. -/
theorem recorded_pruneKey :
    (limiter.pruneKey key now).recorded other =
      if key = other then prune limiter.window now (limiter.recorded other)
      else limiter.recorded other := by
  unfold pruneKey
  by_cases same : key = other
  · subst same
    cases known : limiter.events[key]? with
    | none => simp [recorded, known]
    | some events => simp [recorded, known]
  · cases known : limiter.events[key]? with
    | none => simp [same]
    | some events => simp [recorded, Std.TreeMap.getElem?_insert, same]

/-- A reset drops the events of its key and no others. -/
theorem recorded_reset :
    (limiter.reset key).recorded other =
      if key = other then [] else limiter.recorded other := by
  by_cases same : key = other <;> simp [recorded, reset, Std.TreeMap.getElem?_erase, same]

@[simp] theorem window_sweepIfDue : (limiter.sweepIfDue now).window = limiter.window := by
  unfold sweepIfDue
  split <;> rfl

@[simp] theorem limit_sweepIfDue : (limiter.sweepIfDue now).limit = limiter.limit := by
  unfold sweepIfDue
  split <;> rfl

@[simp] theorem window_pruneKey : (limiter.pruneKey key now).window = limiter.window := by
  unfold pruneKey
  split <;> rfl

@[simp] theorem limit_pruneKey : (limiter.pruneKey key now).limit = limiter.limit := by
  unfold pruneKey
  split <;> rfl

/-- The sweep never shows in the events of the key that the call names. -/
theorem recorded_pruneKey_sweepIfDue :
    ((limiter.sweepIfDue now).pruneKey key now).recorded key =
      prune limiter.window now (limiter.recorded key) := by
  rw [recorded_pruneKey, if_pos rfl, window_sweepIfDue, recorded_sweepIfDue]
  split
  · rw [prune_prune]
  · rfl

/-- The instants that a granted call adds to those of its key. -/
def granted : List Nat :=
  if limiter.Grants key count now then List.replicate count now else []

/-- A batch sweeps, prunes its key, and then decides. -/
theorem grant_eq :
    limiter.grant key count now =
      let pruned := (limiter.sweepIfDue now).pruneKey key now
      if limiter.Grants key count now then
        if 0 < count then
          (true, { pruned with
            events := pruned.events.insert key (pruned.recorded key ++ List.replicate count now) })
        else (true, pruned)
      else if (pruned.recorded key).length = 0 then (false, pruned.reset key)
      else (false, pruned) := by
  simp only [grant, Grants, recorded_pruneKey_sweepIfDue, limit_pruneKey, limit_sweepIfDue]

/-- The answer says whether the events are granted. -/
theorem grant_answer : (limiter.grant key count now).1 = decide (limiter.Grants key count now) := by
  rw [grant_eq]
  by_cases fits : limiter.Grants key count now
  · simp only [if_pos fits, decide_eq_true fits]
    split <;> rfl
  · simp only [if_neg fits, decide_eq_false fits]
    split <;> rfl

/-- The named key keeps its pruned events and gets the granted ones; another key is at most
swept. -/
theorem recorded_grant :
    (limiter.grant key count now).2.recorded other =
      if key = other then
        prune limiter.window now (limiter.recorded key) ++ limiter.granted key count now
      else (limiter.sweepIfDue now).recorded other := by
  have pruned := recorded_pruneKey (limiter.sweepIfDue now) key other now
  have named := limiter.recorded_pruneKey_sweepIfDue key now
  rw [grant_eq, granted]
  by_cases fits : limiter.Grants key count now
  · simp only [if_pos fits, named]
    by_cases same : key = other
    · subst same
      -- A batch of zero puts no queue in place of the pruned one.
      rcases Nat.eq_zero_or_pos count with rfl | positive
      · simpa using named
      · simp [recorded, positive]
    · rw [if_neg same] at pruned ⊢
      split
      · simpa [recorded, Std.TreeMap.getElem?_insert, same] using pruned
      · exact pruned
  · simp only [if_neg fits, named, List.append_nil]
    by_cases same : key = other
    · subst same
      split
      next empty => simp [recorded_reset, List.eq_nil_of_length_eq_zero empty]
      next => simpa using named
    · rw [if_neg same] at pruned ⊢
      split
      · rw [recorded_reset, if_neg same, pruned]
      · exact pruned

/-- Recording events keeps the limit and the window. -/
theorem settings_grant : (limiter.grant key count now).2.limit = limiter.limit ∧
    (limiter.grant key count now).2.window = limiter.window := by
  rw [grant_eq]
  dsimp only
  split
  · split <;> simp
  · split <;> simp [reset]

section Room

variable {limiter key count now}

/-- A call without room in the queue prunes and leaves the key known. -/
theorem allow_of_overflows (overflows : limiter.Overflows key count now) :
    limiter.allow key count now =
      let pruned := (limiter.sweepIfDue now).pruneKey key now
      (none, { pruned with events := pruned.events.insert key (pruned.recorded key) }) :=
  if_pos overflows

/-- With room in the queue a batch is recorded as granted. -/
theorem allow_of_not_overflows (room : ¬ limiter.Overflows key count now) :
    limiter.allow key count now =
      (some (limiter.grant key count now).1, (limiter.grant key count now).2) :=
  if_neg room

/-- A limit that a queue has room for leaves no call without room. -/
theorem not_overflows_of_limit_le (small : limiter.limit ≤ longestQueue)
    (bounded : (limiter.recorded key).length ≤ limiter.limit) :
    ¬ limiter.Overflows key count now := by
  rintro ⟨-, grants, long⟩
  have kept := (prune_sublist limiter.window now (limiter.recorded key)).length_le
  rw [Grants] at grants
  omega

/-- One event more has room in any queue that is not full. -/
theorem allow_one (room : (limiter.recorded key).length < longestQueue) :
    limiter.allow key 1 now = (some (limiter.grant key 1 now).1, (limiter.grant key 1 now).2) := by
  refine allow_of_not_overflows ?_
  rintro ⟨-, -, long⟩
  have kept := (prune_sublist limiter.window now (limiter.recorded key)).length_le
  omega

end Room

/-- A batch is answered unless there is no room for it. -/
theorem allow_answer :
    (limiter.allow key count now).1 =
      if limiter.Overflows key count now then none
      else some (decide (limiter.Grants key count now)) := by
  split
  next overflows => rw [allow_of_overflows overflows]
  next room => rw [allow_of_not_overflows room, grant_answer]

/-- The instants that a call adds to those of its key. -/
def added : List Nat :=
  if limiter.Overflows key count now then [] else limiter.granted key count now

/-- The named key keeps its pruned events and gets the new ones; another key is at most swept. -/
theorem recorded_allow :
    (limiter.allow key count now).2.recorded other =
      if key = other then
        prune limiter.window now (limiter.recorded key) ++ limiter.added key count now
      else (limiter.sweepIfDue now).recorded other := by
  by_cases overflows : limiter.Overflows key count now
  · have pruned := recorded_pruneKey (limiter.sweepIfDue now) key other now
    have named := limiter.recorded_pruneKey_sweepIfDue key now
    rw [added, if_pos overflows, allow_of_overflows overflows, List.append_nil]
    by_cases same : key = other
    · subst same
      simpa [recorded] using named
    · rw [if_neg same] at pruned ⊢
      simpa [recorded, Std.TreeMap.getElem?_insert, same] using pruned
  · rw [added, if_neg overflows, allow_of_not_overflows overflows, recorded_grant]

/-- A batch keeps the limit and the window. -/
theorem settings_allow : (limiter.allow key count now).2.limit = limiter.limit ∧
    (limiter.allow key count now).2.window = limiter.window := by
  by_cases overflows : limiter.Overflows key count now
  · rw [allow_of_overflows overflows]
    simp
  · rw [allow_of_not_overflows overflows]
    exact limiter.settings_grant key count now

/-- What remains is counted on the pruned queue. -/
theorem remaining_answer :
    (limiter.remaining key now).1 =
      limiter.limit - (prune limiter.window now (limiter.recorded key)).length := by
  unfold remaining
  cases known : limiter.events[key]? with
  | none => simp [recorded, known]
  | some events => simp [recorded_pruneKey]

/-- Asking what remains prunes the key. -/
theorem recorded_remaining :
    (limiter.remaining key now).2.recorded other = (limiter.pruneKey key now).recorded other := by
  unfold remaining
  cases known : limiter.events[key]? with
  | none => simp [pruneKey, known]
  | some events =>
      dsimp only
      split
      next empty =>
        rw [recorded_reset]
        split
        next same =>
          subst same
          exact (List.eq_nil_of_length_eq_zero empty).symm
        next => rfl
      next => rfl

/-- Asking what remains keeps the limit and the window. -/
theorem settings_remaining : (limiter.remaining key now).2.limit = limiter.limit ∧
    (limiter.remaining key now).2.window = limiter.window := by
  unfold remaining
  split
  · exact ⟨rfl, rfl⟩
  · dsimp only
    split <;> simp [reset]

end Backplane.RateLimit.Sliding
