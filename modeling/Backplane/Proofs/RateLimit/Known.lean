import Backplane.Proofs.RateLimit.Change
import Mathlib.Tactic.Tauto

namespace Backplane.RateLimit.Sliding

variable (limiter : Sliding) (key other : String) (count now : Nat)

/-- Tells whether a key stands in the table, with or without events. -/
def Knows : Prop := key ∈ limiter.events

instance : Decidable (limiter.Knows key) := inferInstanceAs (Decidable (key ∈ limiter.events))

/-- Tells whether a key stands in the table without events. -/
def KnowsEmpty : Prop := limiter.Knows key ∧ limiter.recorded key = []

instance : Decidable (limiter.KnowsEmpty key) := inferInstanceAs (Decidable (_ ∧ _))

/-- A new limiter knows no key. -/
theorem not_knows_new (limit window created : Nat) : ¬ (new limit window created).Knows key := by
  simp [new, Knows]

/-- A key with events is known. -/
theorem knows_of_recorded (events : limiter.recorded key ≠ []) : limiter.Knows key := by
  by_contra unknown
  apply events
  simp [recorded, Std.TreeMap.getElem?_eq_none unknown]

/-- A sweep leaves the keys that have events after it. -/
theorem knows_sweep : (limiter.sweep now).Knows key ↔ (limiter.sweep now).recorded key ≠ [] := by
  refine ⟨?_, knows_of_recorded _ key⟩
  rw [recorded_sweep, Knows, Std.TreeMap.mem_iff_isSome_getElem?, sweep,
    Std.TreeMap.getElem?_filterMap', recorded]
  cases limiter.events[key]? with
  | none => simp
  | some events => by_cases empty : prune limiter.window now events = [] <;> simp [empty]

/-- Pruning a key forgets none. -/
theorem knows_pruneKey : (limiter.pruneKey key now).Knows other ↔ limiter.Knows other := by
  unfold pruneKey
  cases found : limiter.events[key]? with
  | none => rfl
  | some events =>
      have known : limiter.Knows key := by
        rw [Knows, Std.TreeMap.mem_iff_isSome_getElem?, found]
        rfl
      simp only [Knows, Std.TreeMap.mem_insert, Std.LawfulEqCmp.compare_eq_iff_eq]
      refine ⟨?_, .inr⟩
      rintro (rfl | listed)
      · exact known
      · exact listed

/-- A reset forgets its key and no other. -/
theorem knows_reset : (limiter.reset key).Knows other ↔ key ≠ other ∧ limiter.Knows other := by
  simp [reset, Knows, Std.TreeMap.mem_erase]

/-- A sweep that is due leaves the keys with events in the window. -/
theorem knows_sweepIfDue :
    (limiter.sweepIfDue now).Knows key ↔
      if limiter.window ≤ now - limiter.lastSweep then (limiter.sweepIfDue now).recorded key ≠ []
      else limiter.Knows key := by
  unfold sweepIfDue
  split
  · exact limiter.knows_sweep key now
  · rfl

/-- Recording makes a key known and leaves the others alone. -/
theorem knows_insert (events : List Nat) :
    Knows { limiter with events := limiter.events.insert key events } other ↔
      key = other ∨ limiter.Knows other := by
  simp [Knows, Std.TreeMap.mem_insert]

/-- A batch does to other keys what the sweep does. -/
theorem knows_grant_of_ne (different : key ≠ other) :
    (limiter.grant key count now).2.Knows other ↔ (limiter.sweepIfDue now).Knows other := by
  have pruned := (limiter.sweepIfDue now).knows_pruneKey key other now
  rw [grant_eq]
  dsimp only
  split
  · split
    · rw [knows_insert, pruned]
      exact or_iff_right different
    · exact pruned
  · split
    · rw [knows_reset, pruned]
      exact and_iff_right different
    · exact pruned

/-- The key of granted events is known if it has events, and also without events after a batch of
zero. -/
theorem knows_grant_self :
    (limiter.grant key count now).2.Knows key ↔
      (limiter.grant key count now).2.recorded key ≠ [] ∨
        count = 0 ∧ (limiter.sweepIfDue now).Knows key := by
  have holding := knows_of_recorded (limiter.grant key count now).2 key
  rcases Nat.eq_zero_or_pos count with rfl | positive
  · have kept : (limiter.grant key 0 now).2 = (limiter.sweepIfDue now).pruneKey key now := by
      simp [grant_eq, Grants]
    rw [kept] at holding ⊢
    rw [knows_pruneKey] at holding ⊢
    exact ⟨fun known => .inr ⟨rfl, known⟩, fun either => either.elim holding And.right⟩
  · refine ⟨fun known => .inl ?_, fun either => either.elim holding ?_⟩
    · rw [recorded_grant, if_pos rfl, granted]
      intro empty
      obtain ⟨none, refused⟩ := List.append_eq_nil_iff.mp empty
      have refused : ¬ limiter.Grants key count now := by
        intro grants
        rw [if_pos grants, List.replicate_eq_nil_iff] at refused
        omega
      -- A refused call that finds no events forgets the key.
      rw [grant_eq] at known
      simp only [if_neg refused, recorded_pruneKey_sweepIfDue, none, List.length_nil, if_true]
        at known
      exact (knows_reset _ key key).mp known |>.1 rfl
    · rintro ⟨rfl, -⟩
      exact absurd positive (Nat.lt_irrefl 0)

/-- Of the keys that a call for more events does not name, a due sweep decides. -/
theorem knows_allow_of_ne (different : key ≠ other) :
    (limiter.allow key count now).2.Knows other ↔ (limiter.sweepIfDue now).Knows other := by
  by_cases overflows : limiter.Overflows key count now
  · rw [allow_of_overflows overflows, knows_insert, knows_pruneKey]
    exact or_iff_right different
  · rw [allow_of_not_overflows overflows]
    exact limiter.knows_grant_of_ne key other count now different

/-- The named key is known if it has events, and also without events after a batch of zero and
after a batch without room. -/
theorem knows_allow_self :
    (limiter.allow key count now).2.Knows key ↔
      (limiter.allow key count now).2.recorded key ≠ [] ∨
        count = 0 ∧ (limiter.sweepIfDue now).Knows key ∨ limiter.Overflows key count now := by
  by_cases overflows : limiter.Overflows key count now
  · have known : (limiter.allow key count now).2.Knows key := by
      rw [allow_of_overflows overflows, knows_insert]
      exact .inl rfl
    exact iff_of_true known (.inr (.inr overflows))
  · rw [allow_of_not_overflows overflows, knows_grant_self]
    simp only [overflows, or_false]

/-- Asking what remains leaves other keys alone. -/
theorem knows_remaining_of_ne (different : key ≠ other) :
    (limiter.remaining key now).2.Knows other ↔ limiter.Knows other := by
  have pruned := limiter.knows_pruneKey key other now
  unfold remaining
  split
  next => rfl
  next =>
    dsimp only
    split
    · rw [knows_reset, pruned]
      exact and_iff_right different
    · exact pruned

/-- Who asks how many events of a key still fit makes an empty key forgotten. -/
theorem knows_remaining_self :
    (limiter.remaining key now).2.Knows key ↔ (limiter.remaining key now).2.recorded key ≠ [] := by
  refine ⟨fun known empty => ?_, knows_of_recorded _ key⟩
  rw [recorded_remaining] at empty
  unfold remaining at known
  split at known
  next unknown =>
    rw [Knows, Std.TreeMap.mem_iff_isSome_getElem?, unknown] at known
    cases known
  next =>
    dsimp only at known
    rw [empty, List.length_nil, if_pos rfl, knows_reset] at known
    exact known.1 rfl

/-- Tells whether a call leaves open if a key still has events. A batch of zero that comes before
the next sweep is due does, also where it names the key. -/
def Overlooks (key : String) : Call → Prop
  | .allow other count now => now - limiter.lastSweep < limiter.window ∧ (other = key → count = 0)
  | .remaining other _ => other ≠ key
  | .reset other => other ≠ key
  | .purge _ => False

/-- Tells whether a call breaks down over the queue of a key. -/
def BreaksOver (key : String) : Call → Prop
  | .allow other count now => other = key ∧ limiter.Overflows key count now
  | _ => False

/-- After a batch a key is known for its events, for being overlooked or for a breakdown. -/
theorem knows_allow :
    (limiter.allow key count now).2.Knows other ↔
      (limiter.allow key count now).2.recorded other ≠ [] ∨
        limiter.Knows other ∧ limiter.Overlooks other (.allow key count now) ∨
        limiter.BreaksOver other (.allow key count now) := by
  have swept := limiter.knows_sweepIfDue other now
  have named := limiter.recorded_sweepIfDue key now
  have after := limiter.recorded_allow key other count now
  rw [Overlooks, BreaksOver, ← Nat.not_le]
  by_cases same : key = other
  · subst same
    rw [knows_allow_self]
    split at swept
    next due =>
      rw [if_pos rfl] at after
      rw [named, if_pos due] at swept
      -- After a sweep, a batch of zero finds the key with events or not at all.
      have found : (limiter.sweepIfDue now).Knows key →
          (limiter.allow key count now).2.recorded key ≠ [] := by
        intro known
        rw [after]
        exact List.append_ne_nil_of_left_ne_nil (swept.mp known) _
      tauto
    next => tauto
  · rw [knows_allow_of_ne _ _ _ _ _ same, swept]
    rw [if_neg same] at after
    have holding := knows_of_recorded (limiter.sweepIfDue now) other
    split
    next due => simp [after, due, same]
    next early =>
      rw [swept, if_neg early] at holding
      rw [after]
      tauto

/-- A key is known after a call exactly if it has events then, or was known before and the call
overlooks it, or the call breaks down over its queue. -/
theorem knows_step (call : Call) :
    (limiter.step call).2.Knows key ↔
      (limiter.step call).2.recorded key ≠ [] ∨
        limiter.Knows key ∧ limiter.Overlooks key call ∨ limiter.BreaksOver key call := by
  have holding := knows_of_recorded (limiter.step call).2 key
  cases call with
  | allow other count now => exact limiter.knows_allow other key count now
  | remaining other now =>
      simp only [step, Overlooks, BreaksOver] at holding ⊢
      by_cases same : other = key
      · subst same
        simpa using limiter.knows_remaining_self other now
      · have kept := limiter.knows_remaining_of_ne other key now same
        tauto
  | reset other =>
      simp only [step, Overlooks, BreaksOver] at holding ⊢
      have kept := limiter.knows_reset other key
      tauto
  | purge now =>
      simpa [step, purge, Overlooks, BreaksOver] using limiter.knows_sweep key now

/-- A sweep that is due is noted. -/
theorem lastSweep_sweepIfDue :
    (limiter.sweepIfDue now).lastSweep =
      if limiter.window ≤ now - limiter.lastSweep then now else limiter.lastSweep := by
  unfold sweepIfDue
  split <;> rfl

@[simp] theorem lastSweep_pruneKey : (limiter.pruneKey key now).lastSweep = limiter.lastSweep := by
  unfold pruneKey
  split <;> rfl

/-- Recording events is no sweep beyond the one that was due. -/
theorem lastSweep_grant :
    (limiter.grant key count now).2.lastSweep = (limiter.sweepIfDue now).lastSweep := by
  rw [grant_eq]
  dsimp only
  split
  · split <;> simp
  · split <;> simp [reset]

/-- A batch sweeps at its beginning or not at all. -/
theorem lastSweep_allow :
    (limiter.allow key count now).2.lastSweep = (limiter.sweepIfDue now).lastSweep := by
  by_cases overflows : limiter.Overflows key count now
  · rw [allow_of_overflows overflows, lastSweep_pruneKey]
  · rw [allow_of_not_overflows overflows, lastSweep_grant]

/-- Asking what remains never sweeps. -/
theorem lastSweep_remaining : (limiter.remaining key now).2.lastSweep = limiter.lastSweep := by
  unfold remaining
  split
  · rfl
  · dsimp only
    split <;> simp [reset]

variable {limiter : Sliding} {key other : String}

/-- A call that overlooks a key does not sweep. -/
theorem Overlooks.lastSweep {call : Call} (overlooks : limiter.Overlooks key call) :
    (limiter.step call).2.lastSweep = limiter.lastSweep := by
  cases call with
  | allow other count now =>
      simp only [step, lastSweep_allow, lastSweep_sweepIfDue]
      exact if_neg (Nat.not_le.mpr overlooks.1)
  | remaining other now => exact limiter.lastSweep_remaining other now
  | reset other => rfl
  | purge now => exact overlooks.elim

/-- What a call overlooks only depends on the window and the last sweep. -/
theorem overlooks_congr {next : Sliding} (window : next.window = limiter.window)
    (lastSweep : next.lastSweep = limiter.lastSweep) (call : Call) :
    next.Overlooks key call ↔ limiter.Overlooks key call := by
  cases call <;> simp only [Overlooks, window, lastSweep]

/-- A call about something else that does not sweep. -/
def PassesBy (limiter : Sliding) (key : String) (call : Call) : Prop :=
  call.key? ≠ some key ∧ limiter.Overlooks key call

/-- A call that passes a key by leaves its events alone. -/
theorem PassesBy.recorded {call : Call} (passes : limiter.PassesBy key call) :
    (limiter.step call).2.recorded key = limiter.recorded key := by
  obtain ⟨elsewhere, overlooks⟩ := passes
  cases call with
  | allow other count now =>
      have different : other ≠ key := fun same => elsewhere (congrArg some same)
      simp only [step, recorded_allow, if_neg different, recorded_sweepIfDue]
      exact if_neg (Nat.not_le.mpr overlooks.1)
  | remaining other now =>
      simp only [step, recorded_remaining, recorded_pruneKey]
      exact if_neg overlooks
  | reset other =>
      simp only [step, recorded_reset]
      exact if_neg overlooks
  | purge now => exact overlooks.elim

/-- A call that finds no event of a key in the window and leaves the key known. Either it is a batch
of zero for a known key, and no sweep is due that would forget the key, or a batch without room. -/
inductive Hollows (limiter : Sliding) (key : String) : Call → Prop
  | zero (now : Nat) (known : limiter.Knows key)
      (emptied : prune limiter.window now (limiter.recorded key) = [])
      (unswept : now - limiter.lastSweep < limiter.window) : Hollows limiter key (.allow key 0 now)
  | overflow (count now : Nat) (overflows : limiter.Overflows key count now)
      (emptied : prune limiter.window now (limiter.recorded key) = []) :
      Hollows limiter key (.allow key count now)

/-- A key that a call hollows is known without events. -/
theorem Hollows.knowsEmpty {call : Call} (hollows : limiter.Hollows key call) :
    (limiter.step call).2.KnowsEmpty key := by
  cases hollows with
  | zero now known emptied unswept =>
      refine ⟨(limiter.knows_step key _).mpr (.inr (.inl ⟨known, unswept, fun _ => rfl⟩)), ?_⟩
      simp [step, recorded_allow, emptied, added, granted]
  | overflow count now overflows emptied =>
      refine ⟨(limiter.knows_step key _).mpr (.inr (.inr ⟨rfl, overflows⟩)), ?_⟩
      simp [step, recorded_allow, emptied, added, overflows]

/-- A key is empty after a call if the call hollows it or it was empty before. -/
theorem knowsEmpty_step (call : Call) :
    (limiter.step call).2.KnowsEmpty key ↔
      limiter.Hollows key call ∨ limiter.KnowsEmpty key ∧ limiter.PassesBy key call := by
  constructor
  · rintro ⟨remains, empty⟩
    obtain some | ⟨known, overlooks⟩ | breaks := (limiter.knows_step key call).mp remains
    · exact absurd empty some
    · by_cases named : call.key? = some key
      · -- Of the calls that name a key, only a batch of zero overlooks it.
        left
        cases call with
        | allow other count now =>
            cases named
            obtain ⟨unswept, none⟩ := overlooks
            obtain rfl := none rfl
            simp only [step, recorded_allow, if_true] at empty
            exact .zero now known (List.append_eq_nil_iff.mp empty).1 unswept
        | remaining other now => exact absurd (Option.some.inj named) overlooks
        | reset other => exact absurd (Option.some.inj named) overlooks
        | purge now => cases named
      · have passes : limiter.PassesBy key call := ⟨named, overlooks⟩
        rw [passes.recorded] at empty
        exact .inr ⟨⟨known, empty⟩, passes⟩
    · left
      cases call with
      | allow other count now =>
          obtain ⟨rfl, overflows⟩ := breaks
          simp only [step, recorded_allow, if_true] at empty
          exact .overflow count now overflows (List.append_eq_nil_iff.mp empty).1
      | remaining other now => exact breaks.elim
      | reset other => exact breaks.elim
      | purge now => exact breaks.elim
  · rintro (hollows | ⟨⟨known, empty⟩, passes⟩)
    · exact hollows.knowsEmpty
    · refine ⟨(limiter.knows_step key call).mpr (.inr (.inl ⟨known, passes.2⟩)), ?_⟩
      rw [passes.recorded, empty]

/-- What overlooks a key makes no difference to what passes it by later. -/
theorem Overlooks.passesBy {call : Call} (overlooks : limiter.Overlooks key call) (later : Call) :
    (limiter.step call).2.PassesBy key later ↔ limiter.PassesBy key later :=
  and_congr_right' (overlooks_congr (limiter.settings_step call).2 overlooks.lastSweep later)

/-- A key is empty after a run if it was empty before and every call passed it by, or a call
hollowed it and every later call passed it by. -/
theorem knowsEmpty_run (limiter : Sliding) (key : String) (calls : List Call) :
    (limiter.run calls).2.KnowsEmpty key ↔
      (limiter.KnowsEmpty key ∧ ∀ call ∈ calls, limiter.PassesBy key call) ∨
        ∃ before call after, calls = before ++ call :: after ∧
          (limiter.run before).2.Hollows key call ∧
          ∀ later ∈ after, (limiter.run (before ++ [call])).2.PassesBy key later := by
  -- From the front, since what passes a key by does not depend on calls that overlook it.
  induction calls generalizing limiter with
  | nil => simp [run]
  | cons call calls ih =>
      rw [run, ih, knowsEmpty_step]
      constructor
      · rintro (⟨hollows | ⟨empty, passes⟩, rest⟩ | ⟨before, last, after, rfl, hollows, rest⟩)
        · exact .inr ⟨[], call, calls, rfl, hollows, rest⟩
        · refine .inl ⟨empty, List.forall_mem_cons.mpr ⟨passes, fun later listed => ?_⟩⟩
          exact (passes.2.passesBy later).mp (rest later listed)
        · exact .inr ⟨call :: before, last, after, rfl, hollows, rest⟩
      · rintro (⟨empty, rest⟩ | ⟨before, last, after, split, hollows, rest⟩)
        · obtain ⟨passes, rest⟩ := List.forall_mem_cons.mp rest
          refine .inl ⟨.inr ⟨empty, passes⟩, fun later listed => ?_⟩
          exact (passes.2.passesBy later).mpr (rest later listed)
        · cases before with
          | nil =>
              obtain ⟨rfl, rfl⟩ := List.cons.inj split
              exact .inl ⟨.inl hollows, rest⟩
          | cons first before =>
              obtain ⟨rfl, rfl⟩ := List.cons.inj split
              exact .inr ⟨before, last, after, rfl, hollows, rest⟩

/-- Only a call that is granted events adds a key. -/
theorem knows_or_grants {call : Call} (known : (limiter.step call).2.Knows key) :
    limiter.Knows key ∨
      ∃ count now, call = .allow key count now ∧ limiter.Grants key count now ∧ 0 < count := by
  obtain some | ⟨before, -⟩ | breaks := (limiter.knows_step key call).mp known
  · have change := limiter.change_step key call
    generalize (limiter.step call).2.recorded key = queue at change some
    generalize instants key (call.admits (limiter.step call).1) = added at change
    cases change with
    | kept => exact .inl (limiter.knows_of_recorded key some)
    | pruned _ now =>
        refine .inl (limiter.knows_of_recorded key fun empty => some ?_)
        rw [empty, prune_nil]
    | granted count now grants =>
        by_cases empty : limiter.recorded key = []
        · refine .inr ⟨count, now, rfl, grants, Nat.pos_of_ne_zero ?_⟩
          rintro rfl
          simp [empty] at some
        · exact .inl (limiter.knows_of_recorded key empty)
    | forgotten => exact absurd rfl some
  · exact .inl before
  · cases call with
    | allow other count now =>
        obtain ⟨rfl, positive, grants, -⟩ := breaks
        exact .inr ⟨count, now, rfl, grants, positive⟩
    | remaining other now => exact breaks.elim
    | reset other => exact breaks.elim
    | purge now => exact breaks.elim

/-- After a run, exactly those keys are known without events that a call hollowed and every later
call passed by. A refused call adds no key, and a call that finds no events in the window of its key
forgets the key, unless it is a batch of zero or breaks down. -/
theorem knowsEmpty_iff_hollowed (limit window created : Nat) (calls : List Call) :
    let start := new limit window created
    let limiter := (start.run calls).2
    (∀ key, limiter.KnowsEmpty key ↔
      ∃ before call after, calls = before ++ call :: after ∧
        (start.run before).2.Hollows key call ∧
        ∀ later ∈ after, (start.run (before ++ [call])).2.PassesBy key later) ∧
    (∀ key count now, (limiter.allow key count now).1 = some false →
      ∀ other, (limiter.allow key count now).2.Knows other → limiter.Knows other) ∧
    (∀ key now, ¬ (limiter.remaining key now).2.KnowsEmpty key) ∧
    (∀ key count now, 0 < count → (limiter.allow key count now).1 ≠ none →
      ¬ (limiter.allow key count now).2.KnowsEmpty key) := by
  intro start limiter
  refine ⟨fun key => ?_, fun key count now refused other known => ?_, fun key now => ?_,
    fun key count now positive answered => ?_⟩
  · rw [knowsEmpty_run, or_iff_right]
    exact fun empty => not_knows_new key limit window created empty.1.1
  · have known : (limiter.step (.allow key count now)).2.Knows other := known
    obtain before | ⟨asked, instant, same, grants, -⟩ := knows_or_grants known
    · exact before
    · cases same
      rw [allow_answer] at refused
      split at refused
      · cases refused
      · exact absurd grants (of_decide_eq_false (Option.some.inj refused))
  · rintro ⟨known, empty⟩
    exact (limiter.knows_remaining_self key now).mp known empty
  · rintro ⟨known, empty⟩
    obtain some | ⟨rfl, -⟩ | overflows := (limiter.knows_allow_self key count now).mp known
    · exact some empty
    · exact Nat.lt_irrefl 0 positive
    · exact answered (by rw [allow_answer, if_pos overflows])

/-- A batch of zero empties a key and keeps it. -/
theorem knowsEmpty_of_batch_of_zero :
    let limiter :=
      ((new 1 20 0).run [.allow "a" 1 2, .allow "b" 1 21, .allow "a" 0 23]).2
    limiter.tracked = 2 ∧ limiter.Knows "a" ∧ limiter.recorded "a" = [] := by
  decide +kernel

end Backplane.RateLimit.Sliding
