import Backplane.Proofs.RateLimit.Refinement
import Backplane.Proofs.RateLimit.Server
import Backplane.Span

namespace Backplane.RateLimit.Shared

open Redis

/-- The instant at which a clock in milliseconds reads the given time. -/
def instant (origin now : Int) : Nat := (now - origin).toNat * 1000000

/-- The call that a limiter in memory gets at the same instant. -/
def Request.toCall (origin : Int) : Request → Call
  | .allow key count now _ => .allow key count (instant origin now)
  | .remaining key now => .remaining key (instant origin now)
  | .reset key => .reset key

/-- A call to memory is about the key of the request. -/
theorem Request.key?_toCall (request : Request) (origin : Int) :
    (request.toCall origin).key? = some request.key := by
  cases request <;> rfl

/-- The number of members in the window that ends now. -/
def live (now : Int) (window : Nat) (entries : Entries Int) : Nat :=
  entries.countP fun entry => now - window < entry.2

/-- As many members are kept as lie in the window. -/
theorem length_kept (now : Int) (window : Nat) (set : SortedSet) :
    (kept now window set).length = live now window set.scores :=
  set.size_dropUpTo _

/-- New events lie in every window that does not end before they come. -/
theorem live_events (nonce : String) (now last : Int) (count window : Nat) :
    live last window (events nonce now count) = if last - window < now then count else 0 := by
  split
  next inside =>
    have all : ∀ event ∈ events nonce now count, decide (last - window < event.2) = true := by
      intro event added
      obtain ⟨index, -, rfl⟩ := mem_events.mp added
      exact decide_eq_true inside
    exact (List.countP_eq_length.mpr all).trans (length_events nonce now count)
  next outside =>
    apply List.countP_eq_zero.mpr
    intro event added
    obtain ⟨index, -, rfl⟩ := mem_events.mp added
    simpa using outside

/-- A member that counts later counts now as well. -/
theorem live_kept {now last : Int} (later : now ≤ last) (window : Nat) (set : SortedSet) :
    live last window (kept now window set) = live last window set.scores := by
  rw [live, kept, SortedSet.dropUpTo, List.countP_filter, live]
  apply List.countP_congr
  intro entry _
  simp only [Bool.and_eq_true, decide_eq_true_eq]
  omega

/-- Instants keep the window of the clocks. -/
theorem inWindow_replicate_instant {origin now last : Int} (started : origin ≤ now)
    (later : now ≤ last) (count window : Nat) :
    inWindow (window * 1000000) (instant origin last) (List.replicate count (instant origin now)) =
      if last - window < now then count else 0 := by
  have same : instant origin last < instant origin now + window * 1000000 ↔
      last - window < now := by
    unfold instant
    omega
  rw [inWindow, List.countP_replicate]
  simp only [decide_eq_true_eq, same]

/-- A set whose members count as a log of instants does, from the latest clock on. It is not
dropped before its members have left the window. -/
structure Matches (window : Nat) (origin latest : Int) (set : SortedSet) (log : List Nat) :
    Prop where
  past : ∀ entry ∈ set.scores, entry.2 ≤ latest
  lasting : ∀ time, set.deadline = some time → ∀ entry ∈ set.scores, entry.2 + window ≤ time
  counted : ∀ now, latest ≤ now →
    live now window set.scores = inWindow (window * 1000000) (instant origin now) log

namespace Matches

variable {window count : Nat} {origin latest now : Int} {nonce : String}
  {before after : SortedSet} {log : List Nat}

theorem empty (window : Nat) (origin latest : Int) : Matches window origin latest {} [] where
  past := nofun
  lasting := nofun
  counted := fun _ _ => rfl

/-- Time makes no difference to a set that matches. -/
theorem later (same : Matches window origin latest before log) (forward : latest ≤ now) :
    Matches window origin now before log where
  past := fun entry listed => Int.le_trans (same.past entry listed) forward
  lasting := same.lasting
  counted := fun last after => same.counted last (Int.le_trans forward after)

/-- When the time of a set has passed, its members have left the window. -/
theorem expired (same : Matches window origin latest before log) (forward : latest ≤ now)
    (passed : before.isOver now) : Matches window origin now {} log where
  past := nofun
  lasting := nofun
  counted := by
    intro last after
    rw [← same.counted last (Int.le_trans forward after)]
    obtain ⟨time, found, early⟩ := (Option.any_eq_true _ _).mp passed
    have early := of_decide_eq_true early
    symm
    apply List.countP_eq_zero.mpr
    intro entry listed
    have := same.lasting time found entry listed
    simp only [decide_eq_true_eq]
    omega

/-- The members that are kept are the events in the window. -/
theorem length_kept (same : Matches window origin latest before log) (forward : latest ≤ now) :
    (kept now window before).length = inWindow (window * 1000000) (instant origin now) log := by
  rw [Shared.length_kept, same.counted now forward]

/-- A set still matches without the members that have left the window. -/
theorem pruned (same : Matches window origin latest before log) (forward : latest ≤ now)
    (pruned : Pruned now window before after) : Matches window origin now after log := by
  have inside := before.dropUpTo_sublist (now - window)
  rw [← kept, ← pruned.members] at inside
  refine ⟨?_, ?_, ?_⟩
  · intro entry listed
    exact Int.le_trans (same.past entry (inside.subset listed)) forward
  · intro time found entry listed
    exact same.lasting time (pruned.deadline time found) entry (inside.subset listed)
  · intro last after
    rw [pruned.members, live_kept after, same.counted last (Int.le_trans forward after)]

/-- Members and events are added alike. -/
theorem extended (same : Matches window origin latest before log) (forward : latest ≤ now)
    (started : origin ≤ now) (extended : Extended nonce now count window before after) :
    Matches window origin now after (log ++ List.replicate count (instant origin now)) := by
  have early : ∀ entry ∈ after.scores, entry.2 ≤ now := by
    intro entry listed
    rcases List.mem_append.mp (extended.members.subset listed) with added | old
    · obtain ⟨index, -, rfl⟩ := mem_events.mp added
      exact Int.le_refl now
    · have inside := before.dropUpTo_sublist (now - window)
      exact Int.le_trans (same.past entry (inside.subset old)) forward
  refine ⟨early, ?_, ?_⟩
  · intro time found entry listed
    have := extended.deadline time found
    have := early entry listed
    omega
  · intro last after
    rw [live, extended.members.countP_eq, List.countP_append, ← live, ← live, live_events,
      live_kept after, same.counted last (Int.le_trans forward after), inWindow_append,
      inWindow_replicate_instant started after, Nat.add_comm]

end Matches

/-- Keys have places of their own. -/
theorem place_injective (limiter : Shared) {key other : String}
    (same : limiter.place key = limiter.place other) : key = other := by
  rw [place, place, placeKey, placeKey] at same
  split at same
  · exact same
  · exact String.append_right_inj _ |>.mp same

/-- What a server that drops sets as soon as their time has passed holds when a call comes. -/
def arrival (space : Keyspace) (request : Request) : Keyspace :=
  request.now?.elim space space.dropOver

/-- A run that drops sets, call by call. -/
theorem runDropping_cons (limiter : Shared) (space : Keyspace) (request : Request)
    (requests : List Request) :
    (limiter.runDropping space (request :: requests)).1 =
      (limiter.step (arrival space request) request).1 ::
        (limiter.runDropping (limiter.step (arrival space request) request).2 requests).1 := by
  cases request <;> rfl

/-- While texts are distinct, that of the next call is new, and so are those after it. -/
theorem distinct_cons {used : List String} {request : Request} {requests : List Request}
    (distinct : (used ++ (request :: requests).filterMap Request.nonce?).Nodup) :
    (∀ nonce, request.nonce? = some nonce → nonce ∉ used) ∧
      (used ++ request.nonce?.toList ++ requests.filterMap Request.nonce?).Nodup := by
  rw [filterMap_cons_toList, ← List.append_assoc] at distinct
  exact ⟨fresh_of_nodup (List.nodup_append.mp distinct).1, distinct⟩

/-- A server and a ledger that answer alike from the latest clock on. -/
structure Follows (origin latest : Int) (used : List String) (limiter : Shared)
    (space : Keyspace) (ledger : Ledger) : Prop where
  limit : ledger.limit = limiter.limit
  window : ledger.window = limiter.window * 1000000
  started : origin ≤ latest
  sound : ∀ place, Sound limiter.limit used (space.set place)
  same : ∀ key, Matches limiter.window origin latest (space.set (limiter.place key))
    (instants key ledger.admitted)

namespace Follows

variable {origin latest : Int} {used : List String} {limiter : Shared} {space : Keyspace}
  {ledger : Ledger}

/-- An empty keyspace follows a new ledger. -/
theorem new (limiter : Shared) (origin : Int) :
    Follows origin origin [] limiter ∅ (Ledger.new limiter.limit (limiter.window * 1000000)) where
  limit := rfl
  window := rfl
  started := Int.le_refl origin
  sound := by
    intro place
    rw [Keyspace.set_empty]
    exact Sound.empty _ _
  same := by
    intro key
    rw [Keyspace.set_empty]
    exact Matches.empty _ _ _

/-- A server counts for a key what the ledger counts. -/
theorem length_kept (follows : Follows origin latest used limiter space ledger) (key : String)
    {now : Int} (forward : latest ≤ now) :
    (kept now limiter.window (space.set (limiter.place key))).length =
      ledger.used key (instant origin now) := by
  rw [(follows.same key).length_kept forward, ledger.used_eq, follows.window]

/-- One request is answered as by the ledger. -/
theorem step_answer (follows : Follows origin latest used limiter space ledger)
    (request : Request) (forward : ∀ now, request.now? = some now → latest ≤ now)
    (fresh : ∀ nonce, request.nonce? = some nonce → nonce ∉ used) :
    (limiter.step space request).1 = (ledger.step (request.toCall origin)).1 := by
  cases request with
  | allow key count now nonce =>
      have new := (follows.sound (limiter.place key)).new_member (fresh nonce rfl)
      have used := follows.length_kept key (forward now rfl)
      simp only [step, allow, Request.toCall, Ledger.step, Ledger.allow]
      rcases allowScript_cases nonce now count (limiter.place key) limiter.window limiter.limit
        space new with ⟨room, one, -⟩ | ⟨full, zero, -⟩
      · rw [used, ← follows.limit] at room
        rw [one, if_pos (by omega)]
        rfl
      · rw [used, ← follows.limit] at full
        rw [zero, if_neg (by omega)]
        rfl
  | remaining key now =>
      simp only [step, remaining, Request.toCall, Ledger.step, Ledger.remaining]
      rw [countScript_answer, follows.length_kept key (forward now rfl), follows.limit]
  | reset key => rfl

/-- One call keeps the set of a key in step with the log. -/
theorem step_same (follows : Follows origin latest used limiter space ledger)
    (request : Request) (forward : ∀ now, request.now? = some now → latest ≤ now)
    (fresh : ∀ nonce, request.nonce? = some nonce → nonce ∉ used) (key : String) :
    Matches limiter.window origin (request.now?.getD latest)
      ((limiter.step space request).2.set (limiter.place key))
      (instants key (ledger.step (request.toCall origin)).2.admitted) := by
  have same := follows.same key
  by_cases own : request.key = key
  · -- Both sides give the same answer, so the ledger admits what the script adds.
    subst own
    rw [ledger.instants_step, ← follows.step_answer request forward fresh]
    cases request with
    | allow key count now nonce =>
        have new := (follows.sound (limiter.place key)).new_member (fresh nonce rfl)
        have forward := forward now rfl
        rw [if_neg (by simp [Request.toCall])]
        simp only [step, allow, Request.toCall, instants_admits]
        rcases allowScript_cases nonce now count (limiter.place key) limiter.window limiter.limit
          space new with ⟨-, one, extended⟩ | ⟨-, zero, pruned⟩
        · rw [one, if_pos ⟨rfl, rfl⟩]
          exact same.extended forward (Int.le_trans follows.started forward) extended
        · rw [zero, if_neg (by simp), List.append_nil]
          exact same.pruned forward pruned
    | remaining key now =>
        rw [if_neg (by simp [Request.toCall])]
        simp only [Request.toCall, Call.admits, instants_nil, List.append_nil]
        exact same.pruned (forward now rfl) (pruned_change now _ limiter.window space)
    | reset key =>
        simp only [step, reset, Request.toCall, Request.key, Keyspace.set_erase_self]
        exact Matches.empty _ _ _
  · -- Nothing happens to the set of another key, but time goes on for it as well.
    have apart : limiter.place key ≠ limiter.place request.key :=
      fun place => own (limiter.place_injective place).symm
    rw [limiter.set_step_of_ne space request apart, ledger.instants_step_of_ne]
    · cases reads : request.now? with
      | none => exact same
      | some now => exact same.later (forward now reads)
    · rw [request.key?_toCall]
      exact fun mine => own (Option.some.inj mine)

/-- A request keeps the keyspace behind the ledger. -/
theorem step (follows : Follows origin latest used limiter space ledger) (request : Request)
    (forward : ∀ now, request.now? = some now → latest ≤ now)
    (fresh : ∀ nonce, request.nonce? = some nonce → nonce ∉ used) :
    Follows origin (request.now?.getD latest) (used ++ request.nonce?.toList) limiter
      (limiter.step space request).2 (ledger.step (request.toCall origin)).2 where
  limit := (ledger.settings_step _).1.trans follows.limit
  window := (ledger.settings_step _).2.trans follows.window
  started := by
    cases reads : request.now? with
    | none => exact follows.started
    | some now => exact Int.le_trans follows.started (forward now reads)
  sound := sound_step request (Nat.le_refl limiter.limit) follows.sound fresh
  same := follows.step_same request forward fresh

/-- What a server drops when its time has passed does not count any more. -/
theorem dropOver (follows : Follows origin latest used limiter space ledger) {now : Int}
    (forward : latest ≤ now) : Follows origin now used limiter (space.dropOver now) ledger where
  limit := follows.limit
  window := follows.window
  started := Int.le_trans follows.started forward
  sound := by
    intro place
    rw [Keyspace.set_dropOver]
    split
    · exact Sound.empty _ _
    · exact follows.sound place
  same := by
    intro key
    rw [Keyspace.set_dropOver]
    split
    next passed => exact (follows.same key).expired forward passed
    next => exact (follows.same key).later forward

/-- A run of requests is answered as by the ledger. -/
theorem run_answers (follows : Follows origin latest used limiter space ledger)
    (requests : List Request)
    (ordered : (latest :: requests.filterMap Request.now?).Pairwise (· ≤ ·))
    (distinct : (used ++ requests.filterMap Request.nonce?).Nodup) :
    (limiter.run space requests).1 = (ledger.run (requests.map (Request.toCall origin))).1 := by
  induction requests generalizing latest used space ledger with
  | nil => rfl
  | cons request requests ih =>
      obtain ⟨forward, ordered⟩ := ordered_cons ordered
      obtain ⟨fresh, distinct⟩ := distinct_cons distinct
      have answer := follows.step_answer request forward fresh
      have answers := ih (follows.step request forward fresh) ordered distinct
      simp only [run, List.map_cons, Ledger.run]
      rw [answer, answers]

/-- The same holds of what a call finds on a server that drops sets in between. -/
theorem arrival (follows : Follows origin latest used limiter space ledger) (request : Request)
    (forward : ∀ now, request.now? = some now → latest ≤ now) :
    Follows origin (request.now?.getD latest) used limiter (arrival space request) ledger := by
  unfold Shared.arrival
  cases reads : request.now? with
  | none => exact follows
  | some now => exact follows.dropOver (forward now reads)

/-- It is answered so, too, where sets are dropped when their time has passed. -/
theorem runDropping_answers (follows : Follows origin latest used limiter space ledger)
    (requests : List Request)
    (ordered : (latest :: requests.filterMap Request.now?).Pairwise (· ≤ ·))
    (distinct : (used ++ requests.filterMap Request.nonce?).Nodup) :
    (limiter.runDropping space requests).1 =
      (ledger.run (requests.map (Request.toCall origin))).1 := by
  induction requests generalizing latest used space ledger with
  | nil => rfl
  | cons request requests ih =>
      obtain ⟨forward, ordered⟩ := ordered_cons ordered
      obtain ⟨fresh, distinct⟩ := distinct_cons distinct
      have follows := follows.arrival request forward
      have reached : ∀ now, request.now? = some now → request.now?.getD latest ≤ now := by
        intro now reads
        rw [reads]
        exact Int.le_refl now
      have answer := follows.step_answer request reached fresh
      have next := follows.step request reached fresh
      have same : request.now?.getD (request.now?.getD latest) = request.now?.getD latest := by
        cases request.now? <;> rfl
      rw [same] at next
      have answers := ih next ordered distinct
      simp only [runDropping_cons, List.map_cons, Ledger.run]
      rw [answer, answers]

end Follows

/-- The clocks of the calls are the instants of the requests. -/
theorem clocks_toCall (origin : Int) (requests : List Request) :
    clocks (requests.map (Request.toCall origin)) =
      (requests.filterMap Request.now?).map (instant origin) := by
  rw [clocks, List.filterMap_map, List.map_filterMap]
  apply List.filterMap_congr
  intro request _
  cases request <;> rfl

/-- While clocks never go back and texts are distinct, a shared limiter answers as a limiter in
memory does that has the same limit and window and is called at the same instants, where one queue
has room for the limit. It makes no difference whether the server drops sets whose time has passed.
-/
theorem run_eq_memory (limit milliseconds created : Nat) (space : String) (origin : Int)
    (requests : List Request) (small : limit ≤ Sliding.longestQueue)
    (short : milliseconds ≤ longestWindow)
    (ordered : (origin :: requests.filterMap Request.now?).Pairwise (· ≤ ·))
    (distinct : (requests.filterMap Request.nonce?).Nodup) :
    let window := Span.ofMilliseconds milliseconds
    let shared := Shared.new limit window space
    let memory := Sliding.new limit window.nanoseconds created
    let answers := (memory.run (requests.map (Request.toCall origin))).1
    (shared.run ∅ requests).1 = answers ∧ (shared.runDropping ∅ requests).1 = answers := by
  intro window shared memory answers
  have whole : shared.window = milliseconds := by
    have : window.milliseconds = milliseconds := Nat.mul_div_cancel milliseconds (by decide)
    simp only [shared, Shared.new, this]
    exact Nat.min_eq_left short
  have log : answers = ((Ledger.new limit (milliseconds * 1000000)).run
      (requests.map (Request.toCall origin))).1 := by
    apply (RateLimit.Agrees.new limit window.nanoseconds created 0).run_answers small
    rw [clocks_toCall]
    refine List.pairwise_cons.mpr ⟨fun now _ => Nat.zero_le now, ?_⟩
    refine (List.pairwise_cons.mp ordered).2.map (instant origin) ?_
    intro early late forward
    unfold instant
    omega
  have follows := Follows.new shared origin
  rw [whole] at follows
  rw [log]
  exact ⟨follows.run_answers requests ordered distinct,
    follows.runDropping_answers requests ordered distinct⟩

/-- A member that is exactly a window old, batches of zero and too many events, a reset, and a set
whose time passes. -/
theorem run_eq_memory_edges :
    let requests : List Request := [.allow "a" 1 1000 "1000:p", .allow "b" 3 1004 "1004:q",
      .allow "a" 1 1009 "1009:r", .allow "a" 1 1009 "1009:s", .allow "a" 1 1010 "1010:t",
      .allow "a" 0 1010 "1010:u", .remaining "a" 1019, .reset "a", .allow "a" 2 1019 "1019:v",
      .remaining "a" 3100]
    let answers : List Answer := [.admitted true, .admitted false, .admitted true,
      .admitted false, .admitted true, .admitted true, .left 1, .done, .admitted true, .left 2]
    let shared := Shared.new 2 (Span.ofMilliseconds 10) "kit"
    let memory := Sliding.new 2 (Span.ofMilliseconds 10).nanoseconds 0
    2 ≤ Sliding.longestQueue ∧ 10 ≤ longestWindow ∧
      (1000 :: requests.filterMap Request.now?).Pairwise (· ≤ ·) ∧
      (requests.filterMap Request.nonce?).Nodup ∧ (shared.run ∅ requests).1 = answers ∧
      (shared.runDropping ∅ requests).1 = answers ∧
      (memory.run (requests.map (Request.toCall 1000))).1 = answers := by
  intro requests answers shared memory
  have small : 2 ≤ Sliding.longestQueue := by decide
  have short : 10 ≤ longestWindow := by decide
  have ordered : (1000 :: requests.filterMap Request.now?).Pairwise (· ≤ ·) := by decide
  have distinct : (requests.filterMap Request.nonce?).Nodup := by decide
  obtain ⟨plain, dropping⟩ := run_eq_memory 2 10 0 "kit" 1000 requests small short
    ordered distinct
  have found : (shared.run ∅ requests).1 = answers := by decide +kernel
  exact ⟨small, short, ordered, distinct, found, dropping.trans (plain.symm.trans found),
    plain.symm.trans found⟩

end Backplane.RateLimit.Shared
