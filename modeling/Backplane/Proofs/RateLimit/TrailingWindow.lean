import Backplane.Proofs.RateLimit.Change
import Mathlib.Data.List.Basic

namespace Backplane.RateLimit

/-- Three clocks, in the order in which their calls are served: one of an event, one that is a
window later and drops the event, and a late one that still has the event within its window. -/
def HasLateCall (window : Nat) (clock : List Nat) : Prop :=
  ∃ event drop late, [event, drop, late].Sublist clock ∧
    event + window ≤ drop ∧ late < event + window ∧ event < late + window

/-- No call is late while clocks never go back. -/
theorem not_hasLateCall_of_ordered (window : Nat) {clock : List Nat}
    (ordered : clock.Pairwise (· ≤ ·)) : ¬ HasLateCall window clock := by
  rintro ⟨event, drop, late, listed, ended, inside, _⟩
  have forward := ordered.sublist listed
  have : drop ≤ late := by
    simp only [List.pairwise_cons, List.mem_cons] at forward
    exact forward.2.1 late (.inl rfl)
  omega

/-- A late call stays late, whatever follows. -/
theorem HasLateCall.append {window : Nat} {clock : List Nat} (late : HasLateCall window clock)
    (more : List Nat) : HasLateCall window (clock ++ more) := by
  obtain ⟨event, drop, last, listed, reach⟩ := late
  exact ⟨event, drop, last, listed.trans (List.sublist_append_left clock more), reach⟩

/-- The head of a part of a list stands somewhere in it, with the rest behind. -/
theorem exists_split_of_sublist {head : Nat} {tail clock : List Nat}
    (listed : (head :: tail).Sublist clock) :
    ∃ before after, clock = before ++ head :: after ∧ tail.Sublist after := by
  obtain ⟨first, second, rfl, member, rest⟩ := List.cons_sublist_iff.mp listed
  obtain ⟨before, between, rfl⟩ := List.append_of_mem member
  refine ⟨before, between ++ second, ?_, rest.trans (List.sublist_append_right between second)⟩
  rw [List.append_assoc, List.cons_append]

/-- Without late calls, a dropped event is a whole window away from the clock that is served. -/
theorem apart_of_dropped {window event drop now : Nat} {served : List Nat}
    (punctual : ¬ HasLateCall window (served ++ [now]))
    (listed : [event, drop].Sublist (served ++ [now])) (ended : event + window ≤ drop) :
    event + window ≤ now ∨ now + window ≤ event := by
  obtain ⟨before, after, split, early, final⟩ := List.sublist_append_iff.mp listed
  rcases List.sublist_singleton.mp final with rfl | rfl
  · rw [List.append_nil] at split
    subst split
    -- The drop was served before, so the three clocks would make this call late.
    by_contra near
    refine punctual ⟨event, drop, now, early.append (List.Sublist.refl [now]), ended, ?_⟩
    omega
  · have final : drop = now := by
      have ends := congrArg List.getLast? split
      simpa using ends
    omega

/-- The number of instants in the window that ends at `last`. -/
def spanned (window last : Nat) (events : List Nat) : Nat :=
  events.countP fun event => event ≤ last && last < event + window

/-- The events within a window are counted by their instants. -/
theorem admittedWithin_eq (key : String) (window last : Nat) (events : List (String × Nat)) :
    admittedWithin key window last events = spanned window last (instants key events) := by
  rw [spanned, countP_instants, admittedWithin]
  simp only [Bool.and_assoc]

/-- A batch lies within a window as a whole or not at all. -/
theorem spanned_replicate (window last count now : Nat) :
    spanned window last (List.replicate count now) =
      if now ≤ last ∧ last < now + window then count else 0 := by
  rw [spanned, List.countP_replicate]
  simp only [Bool.and_eq_true, decide_eq_true_eq]

/-- A queue of kept events against the log of all admitted ones: what the queue misses has been
dropped by a served clock. -/
structure Covers (limit window : Nat) (served queue log : List Nat) : Prop where
  bounded : queue.length ≤ limit
  listed : ∀ event ∈ queue, event ∈ served
  dropped : ∃ gone, log.Perm (gone ++ queue) ∧
    ∀ event ∈ gone, ∃ drop, [event, drop].Sublist served ∧ event + window ≤ drop
  within : ∀ last, spanned window last log ≤ limit

namespace Covers

variable {limit window now count : Nat} {served queue log : List Nat}

theorem empty (limit window : Nat) : Covers limit window [] [] [] where
  bounded := Nat.zero_le limit
  listed := nofun
  dropped := ⟨[], .nil, nofun⟩
  within := fun _ => Nat.zero_le limit

/-- A queue covers its log while other clocks are read. -/
theorem keep (covers : Covers limit window served queue log) (more : List Nat) :
    Covers limit window (served ++ more) queue log where
  bounded := covers.bounded
  listed := fun event kept => List.mem_append_left more (covers.listed event kept)
  dropped := by
    obtain ⟨gone, split, droppers⟩ := covers.dropped
    refine ⟨gone, split, ?_⟩
    intro event out
    obtain ⟨drop, listed, ended⟩ := droppers event out
    exact ⟨drop, listed.trans (List.sublist_append_left served more), ended⟩
  within := covers.within

/-- A queue covers its log after it was pruned by a clock that was read. -/
theorem prune (covers : Covers limit window served queue log) (now : Nat) :
    Covers limit window (served ++ [now]) (Sliding.prune window now queue) log where
  bounded := (Sliding.prune_sublist window now queue).length_le.trans covers.bounded
  listed := fun event kept =>
    (covers.keep [now]).listed event ((Sliding.prune_sublist window now queue).mem kept)
  dropped := by
    obtain ⟨gone, split, droppers⟩ := (covers.keep [now]).dropped
    obtain ⟨pruned, parts, old⟩ := Sliding.prune_dropped window now queue
    refine ⟨gone ++ pruned, ?_, ?_⟩
    · rwa [List.append_assoc, ← parts]
    · intro event out
      rcases List.mem_append.mp out with before | today
      · exact droppers event before
      · have seen : event ∈ served := by
          apply covers.listed
          rw [parts]
          exact List.mem_append_left _ today
        have listed := (List.singleton_sublist.mpr seen).append (List.Sublist.refl [now])
        exact ⟨now, listed, old event today⟩
  within := covers.within

/-- While no call is late, a window with the clock that is served has no event that was dropped. -/
theorem spanned_eq (covers : Covers limit window (served ++ [now]) queue log)
    (punctual : ¬ HasLateCall window (served ++ [now])) {last : Nat} (reached : now ≤ last)
    (near : last < now + window) : spanned window last log = spanned window last queue := by
  obtain ⟨gone, split, droppers⟩ := covers.dropped
  have none : spanned window last gone = 0 := by
    apply List.countP_eq_zero.mpr
    intro event out
    obtain ⟨drop, listed, ended⟩ := droppers event out
    have := apart_of_dropped punctual listed ended
    simp only [Bool.and_eq_true, decide_eq_true_eq]
    omega
  rw [spanned, split.countP_eq, List.countP_append, ← spanned, ← spanned, none, Nat.zero_add]

/-- A granted call that is not late finds every event near its clock in the queue. -/
theorem record (covers : Covers limit window (served ++ [now]) queue log)
    (punctual : limit = 0 ∨ ¬ HasLateCall window (served ++ [now]))
    (fits : count ≤ limit - queue.length) :
    Covers limit window (served ++ [now]) (queue ++ List.replicate count now)
      (log ++ List.replicate count now) where
  bounded := by
    have := covers.bounded
    rw [List.length_append, List.length_replicate]
    omega
  listed := by
    intro event kept
    rcases List.mem_append.mp kept with old | new
    · exact covers.listed event old
    · rw [List.eq_of_mem_replicate new]
      simp
  dropped := by
    obtain ⟨gone, split, droppers⟩ := covers.dropped
    refine ⟨gone, ?_, droppers⟩
    rw [← List.append_assoc]
    exact split.append_right _
  within := by
    intro last
    rw [spanned, List.countP_append, ← spanned, ← spanned, spanned_replicate]
    have before := covers.within last
    rcases punctual with nothing | punctual
    · -- Nothing fits below a limit of zero, so no batch has events, and late calls do no harm.
      have : count = 0 := by omega
      rw [this, ite_self]
      exact before
    split
    next near =>
      have kept := covers.spanned_eq punctual near.1 near.2
      have few : spanned window last queue ≤ queue.length := List.countP_le_length
      have := covers.bounded
      omega
    next => exact before

end Covers

namespace Sliding

variable {limiter : Sliding} {key : String} {served log : List Nat}

/-- One call that is not late keeps the queue of a key against the log of its events. -/
theorem Change.covers {call : Call} {queue added : List Nat}
    (change : limiter.Change key call queue added) (remembers : call ≠ .reset key)
    (covers : Covers limiter.limit limiter.window served (limiter.recorded key) log)
    (punctual : limiter.limit = 0 ∨
      ¬ HasLateCall limiter.window (served ++ call.now?.toList)) :
    Covers limiter.limit limiter.window (served ++ call.now?.toList) queue (log ++ added) := by
  cases change with
  | kept call _ =>
      rw [List.append_nil]
      exact covers.keep _
  | pruned call now reads =>
      rw [List.append_nil, reads]
      exact covers.prune now
  | granted count now grants => exact (covers.prune now).record punctual grants
  | forgotten => exact absurd rfl remembers

/-- A run keeps every window within the limit, if no call comes late. -/
theorem spanned_admitted_le (calls : List Call) (remembers : .reset key ∉ calls)
    (covers : Covers limiter.limit limiter.window served (limiter.recorded key) log)
    (punctual : limiter.limit = 0 ∨ ¬ HasLateCall limiter.window (served ++ clocks calls))
    (last : Nat) :
    spanned limiter.window last (log ++ instants key (limiter.admitted calls)) ≤
      limiter.limit := by
  induction calls generalizing limiter served log with
  | nil =>
      rw [admitted_nil, instants_nil, List.append_nil]
      exact covers.within last
  | cons call calls ih =>
      obtain ⟨different, remembers⟩ := List.ne_and_not_mem_of_not_mem_cons remembers
      obtain ⟨limit, window⟩ := limiter.settings_step call
      have clock : served ++ clocks (call :: calls) =
          served ++ call.now?.toList ++ clocks calls := by
        rw [clocks, filterMap_cons_toList, List.append_assoc]
        rfl
      rw [clock] at punctual
      have next := (limiter.change_step key call).covers (Ne.symm different) covers
        (punctual.imp_right fun punctual late => punctual (late.append _))
      rw [← limit, ← window] at next punctual
      have rest := ih remembers next punctual
      rw [limit, window] at rest
      rwa [admitted_cons, instants_append, ← List.append_assoc]

/-- What matters of a limiter to the calls about one key. -/
structure Holds (limiter : Sliding) (key : String) (limit window : Nat) (events : List Nat) :
    Prop where
  limit : limiter.limit = limit
  window : limiter.window = window
  events : limiter.recorded key = events

namespace Holds

variable {limit window : Nat} {events : List Nat}

/-- Calls about another key leave the events of a key alone and admit none. -/
theorem idle (holds : limiter.Holds key limit window events) {other : String}
    (different : other ≠ key) (clock : List Nat) (rest : List Call) :
    ∃ next : Sliding, next.Holds key limit window events ∧
      limiter.admitted (clock.map (Call.remaining other) ++ rest) = next.admitted rest := by
  induction clock generalizing limiter with
  | nil => exact ⟨limiter, holds, rfl⟩
  | cons now clock ih =>
      have settings := limiter.settings_step (.remaining other now)
      have after : (limiter.step (.remaining other now)).2.Holds key limit window events := {
        limit := settings.1.trans holds.limit
        window := settings.2.trans holds.window
        events := by
          simp only [step]
          rw [recorded_remaining, recorded_pruneKey, if_neg different, holds.events] }
      obtain ⟨next, holds, admitted⟩ := ih after
      refine ⟨next, holds, ?_⟩
      rw [List.map_cons, List.cons_append, admitted_cons, admitted]
      rfl

/-- A key without events in the window gets as many as the limit and a queue have room for. -/
theorem allow (holds : limiter.Holds key limit window events) {count : Nat} (fits : count ≤ limit)
    (room : count ≤ longestQueue) (now : Nat) (rest : List Call)
    (free : prune window now events = []) :
    ∃ next : Sliding, next.Holds key limit window (List.replicate count now) ∧
      limiter.admitted (.allow key count now :: rest) =
        List.replicate count (key, now) ++ next.admitted rest := by
  obtain ⟨rfl, rfl, rfl⟩ := holds
  have grants : limiter.Grants key count now := by
    rwa [Grants, free, List.length_nil, Nat.sub_zero]
  have within : ¬ limiter.Overflows key count now := by
    rw [Overflows, free, List.length_nil, Nat.zero_add]
    exact fun overflows => absurd overflows.2.2 (Nat.not_lt.mpr room)
  obtain ⟨limit, window⟩ := limiter.settings_step (.allow key count now)
  refine ⟨_, ⟨limit, window, ?_⟩, ?_⟩
  · simp only [step]
    rw [recorded_allow, if_pos rfl, free, added, if_neg within, granted, if_pos grants,
      List.nil_append]
  · rw [admitted_cons]
    simp only [step]
    rw [allow_answer, if_neg within, decide_eq_true grants]
    rfl

/-- Asking what remains prunes the queue and admits nothing. -/
theorem remaining (holds : limiter.Holds key limit window events) (now : Nat)
    (rest : List Call) :
    ∃ next : Sliding, next.Holds key limit window (prune window now events) ∧
      limiter.admitted (.remaining key now :: rest) = next.admitted rest := by
  obtain ⟨rfl, rfl, rfl⟩ := holds
  obtain ⟨limit, window⟩ := limiter.settings_step (.remaining key now)
  refine ⟨_, ⟨limit, window, ?_⟩, ?_⟩
  · simp only [step]
    rw [recorded_remaining, recorded_pruneKey, if_pos rfl]
  · rw [admitted_cons]
    rfl

end Holds

section LateRun

variable (limit window created count event drop late : Nat) (before between pause after : List Nat)

/-- A run on clocks with a late one. One key gets as many events at once as are given, is asked for
when they are dropped, and gets as many again; calls about another key fill the other clocks. -/
def lateRun : List Call :=
  let idle := List.map (Call.remaining "b")
  idle before ++ .allow "a" count event :: (idle between ++ .remaining "a" drop ::
    (idle pause ++ .allow "a" count late :: idle after))

/-- The run reads the clocks it is made from. -/
theorem clocks_lateRun :
    clocks (lateRun count event drop late before between pause after) =
      before ++ event :: (between ++ drop :: (pause ++ late :: after)) := by
  simp [lateRun, clocks, Call.now?, Function.comp_def]

/-- The run never resets its key. -/
theorem reset_not_mem_lateRun :
    .reset "a" ∉ lateRun count event drop late before between pause after := by
  simp [lateRun]

/-- Once the first events are dropped, nothing holds the second ones back. -/
theorem admitted_lateRun (fits : count ≤ limit) (room : count ≤ longestQueue)
    (ended : event + window ≤ drop) :
    ∃ more, (Sliding.new limit window created).admitted
        (lateRun count event drop late before between pause after) =
      List.replicate count ("a", event) ++ (List.replicate count ("a", late) ++ more) := by
  have different : "b" ≠ "a" := by decide
  have dropped : prune window drop (List.replicate count event) = [] := by
    rw [prune, List.dropWhile_replicate, if_pos (by simpa using ended)]
  have start : (Sliding.new limit window created).Holds "a" limit window [] :=
    ⟨rfl, rfl, recorded_new "a" limit window created⟩
  obtain ⟨ready, holds, first⟩ := start.idle different before _
  obtain ⟨full, holds, second⟩ := holds.allow fits room event _ rfl
  obtain ⟨waiting, holds, third⟩ := holds.idle different between _
  obtain ⟨emptied, holds, fourth⟩ := holds.remaining drop _
  rw [dropped] at holds
  obtain ⟨rested, holds, fifth⟩ := holds.idle different pause _
  obtain ⟨again, -, sixth⟩ := holds.allow fits room late (after.map (Call.remaining "b")) rfl
  refine ⟨again.admitted (after.map (Call.remaining "b")), ?_⟩
  rw [← sixth, ← fifth, ← fourth, ← third, ← second, ← first]
  rfl

end LateRun

/-- With a late call, one key can be admitted two batches within one window. -/
theorem exists_exceeding {limit count : Nat} (window created : Nat) {clock : List Nat}
    (fits : count ≤ limit) (room : count ≤ longestQueue) (late : HasLateCall window clock) :
    ∃ calls, clocks calls = clock ∧ .reset "a" ∉ calls ∧ ∃ last,
      2 * count ≤ spanned window last
        (instants "a" ((Sliding.new limit window created).admitted calls)) := by
  obtain ⟨event, drop, late, three, ended, inside, reach⟩ := late
  obtain ⟨before, _, rfl, two⟩ := exists_split_of_sublist three
  obtain ⟨between, _, rfl, one⟩ := exists_split_of_sublist two
  obtain ⟨pause, after, rfl, -⟩ := exists_split_of_sublist one
  refine ⟨lateRun count event drop late before between pause after, clocks_lateRun ..,
    reset_not_mem_lateRun count event drop late before between pause after, max event late, ?_⟩
  obtain ⟨more, admitted⟩ := admitted_lateRun limit window created count event drop late before
    between pause after fits room ended
  rw [admitted, instants_append, instants_append, instants_replicate, instants_replicate,
    if_pos rfl, if_pos rfl, spanned, List.countP_append, List.countP_append, ← spanned,
    ← spanned, spanned_replicate, spanned_replicate, if_pos (by omega), if_pos (by omega)]
  omega

end Sliding

/-- Without late calls, every window keeps to the limit. -/
theorem admittedWithin_le_limit (limit window created : Nat) (calls : List Call) (key : String)
    (remembers : .reset key ∉ calls)
    (punctual : limit = 0 ∨ ¬ HasLateCall window (clocks calls)) (last : Nat) :
    admittedWithin key window last ((Sliding.new limit window created).admitted calls) ≤
      limit := by
  let limiter := Sliding.new limit window created
  have covers : Covers limiter.limit limiter.window [] (limiter.recorded key) [] := by
    rw [Sliding.recorded_new]
    exact Covers.empty limit window
  rw [admittedWithin_eq]
  exact Sliding.spanned_admitted_le calls remembers covers punctual last

/-- While clocks never go back, every window keeps to the limit. -/
theorem admittedWithin_le_limit_of_ordered (limit window created : Nat) (calls : List Call)
    (key : String) (remembers : .reset key ∉ calls) (ordered : (clocks calls).Pairwise (· ≤ ·))
    (last : Nat) :
    admittedWithin key window last ((Sliding.new limit window created).admitted calls) ≤
      limit :=
  admittedWithin_le_limit limit window created calls key remembers
    (.inr (not_hasLateCall_of_ordered window ordered)) last

/-- Every run on a sequence of clocks, in the order in which its calls are served, keeps to the
limit within every window if nothing is admitted at all or no call comes late. Where two full queues
hold more events than the limit, this is the only way to keep to it. -/
theorem admittedWithin_le_limit_iff (limit window created : Nat) (clock : List Nat) :
    let bounded := ∀ calls key, clocks calls = clock → .reset key ∉ calls → ∀ last,
      admittedWithin key window last ((Sliding.new limit window created).admitted calls) ≤ limit
    (limit = 0 ∨ ¬ HasLateCall window clock → bounded) ∧
      (limit < 2 * Sliding.longestQueue → (bounded ↔ limit = 0 ∨ ¬ HasLateCall window clock)) := by
  intro bounded
  have keeps : limit = 0 ∨ ¬ HasLateCall window clock → bounded := by
    intro punctual calls key read remembers last
    subst read
    exact admittedWithin_le_limit limit window created calls key remembers punctual last
  refine ⟨keeps, fun few => ⟨fun bound => ?_, keeps⟩⟩
  by_contra neither
  obtain ⟨positive, late⟩ := not_or.mp neither
  obtain ⟨calls, read, remembers, last, exceeds⟩ :=
    Sliding.exists_exceeding window created (Nat.min_le_left limit Sliding.longestQueue)
      (Nat.min_le_right ..) (not_not.mp late)
  have := bound calls "a" read remembers last
  rw [admittedWithin_eq] at this
  omega

/-- One event is admitted, a second clock drops it, and a call that read its clock a tick before
admits another. -/
theorem admittedWithin_exceeds_limit :
    let calls : List Call := [.allow "a" 1 0, .remaining "a" 10000000, .allow "a" 1 9999999]
    .reset "a" ∉ calls ∧
      ¬ admittedWithin "a" 10000000 9999999
        ((Sliding.new 1 10000000 0).admitted calls) ≤ 1 := by
  decide +kernel

end Backplane.RateLimit
