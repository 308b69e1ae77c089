import Backplane.Proofs.RateLimit.Scripts

namespace Backplane.RateLimit.Shared

open Redis

def Request.key : Request → String
  | .allow key _ _ _ => key
  | .remaining key _ => key
  | .reset key => key

def Request.nonce? : Request → Option String
  | .allow _ _ _ nonce => some nonce
  | _ => none

/-- A text that comes behind others without repeating one is new. -/
theorem fresh_of_nodup {used : List String} {next : Option String}
    (distinct : (used ++ next.toList).Nodup) (nonce : String) (named : next = some nonce) :
    nonce ∉ used := by
  intro known
  exact (List.nodup_append.mp distinct).2.2 nonce known nonce (by simp [named]) rfl

/-- What every set of a server satisfies once the given texts have named events. -/
structure Sound (limit : Nat) (used : List String) (set : SortedSet) : Prop where
  bounded : set.size ≤ limit
  distinct : set.scores.names.Nodup
  named : ∀ name ∈ set.scores.names, ∃ nonce ∈ used, ∃ index, name = member nonce index

namespace Sound

variable {limit window count : Nat} {now : Int} {nonce : String} {used : List String}
  {before after : SortedSet}

theorem empty (limit : Nat) (used : List String) : Sound limit used {} where
  bounded := Nat.zero_le limit
  distinct := .nil
  named := nofun

/-- A set stays sound when more texts have been used. -/
theorem later (sound : Sound limit used before) (more : List String) :
    Sound limit (used ++ more) before where
  bounded := sound.bounded
  distinct := sound.distinct
  named := by
    intro name listed
    obtain ⟨nonce, known, made⟩ := sound.named name listed
    exact ⟨nonce, List.mem_append_left more known, made⟩

/-- A text that named no event yet gives new names. -/
theorem new_member (sound : Sound limit used before) (fresh : nonce ∉ used) (index : Nat) :
    member nonce index ∉ before.scores.names := by
  intro listed
  obtain ⟨other, known, place, same⟩ := sound.named _ listed
  obtain ⟨rfl, -⟩ := member_injective same
  exact fresh known

/-- A set stays sound without the members that have left the window. -/
theorem pruned (sound : Sound limit used before) (pruned : Pruned now window before after) :
    Sound limit used after := by
  have inside := before.dropUpTo_sublist (now - window)
  rw [← kept, ← pruned.members] at inside
  exact {
    bounded := inside.length_le.trans sound.bounded
    distinct := sound.distinct.sublist (inside.map Prod.fst)
    named := fun name listed => sound.named name ((inside.map Prod.fst).subset listed) }

/-- A set stays sound with new members that fit, under a text that is new. -/
theorem extended (sound : Sound limit used before)
    (extended : Extended nonce now count window before after)
    (room : (kept now window before).length + count ≤ limit) (fresh : nonce ∉ used) :
    Sound limit (used ++ [nonce]) after := by
  have inside := before.dropUpTo_sublist (now - window)
  rw [← kept] at inside
  have names := Entries.names_perm extended.members
  rw [Entries.names, Entries.names, List.map_append, ← Entries.names, ← Entries.names,
    ← Entries.names] at names
  refine ⟨?_, ?_, ?_⟩
  · have size := extended.members.length_eq
    rw [List.length_append, length_events] at size
    rw [SortedSet.size]
    omega
  · rw [names.nodup_iff]
    refine List.nodup_append.mpr ⟨events_names_nodup nonce now count,
      sound.distinct.sublist (inside.map Prod.fst), ?_⟩
    -- A member that was there already would be named for another nonce.
    rintro name added other old rfl
    obtain ⟨event, mine, same⟩ := List.mem_map.mp added
    obtain ⟨index, -, rfl⟩ := mem_events.mp mine
    rw [← same] at old
    exact sound.new_member fresh (index + 1) ((inside.map Prod.fst).subset old)
  · intro name listed
    rcases List.mem_append.mp (names.subset listed) with added | old
    · obtain ⟨event, mine, same⟩ := List.mem_map.mp added
      obtain ⟨index, -, rfl⟩ := mem_events.mp mine
      exact ⟨nonce, by simp, index + 1, same.symm⟩
    · exact (sound.later [nonce]).named name ((inside.map Prod.fst).subset old)

end Sound

variable (limiter : Shared) (space : Keyspace)

/-- No script changes the set of another key. -/
theorem step_frame (request : Request) {place : String}
    (different : place ≠ limiter.place request.key) :
    (limiter.step space request).2[place]? = space[place]? := by
  cases request with
  | allow key count now nonce =>
      exact allowScript_frame nonce now count _ place limiter.window limiter.limit space
        (Ne.symm different)
  | remaining key now => exact space.getElem?_change_of_ne _ place _ (Ne.symm different)
  | reset key => exact space.getElem?_erase_of_ne _ place (Ne.symm different)

/-- A request leaves the sets of other keys alone. -/
theorem set_step_of_ne (request : Request) {place : String}
    (different : place ≠ limiter.place request.key) :
    (limiter.step space request).2.set place = space.set place := by
  rw [Keyspace.set, limiter.step_frame space request different, ← Keyspace.set]

variable {limiter space} {limit : Nat} {used : List String}

/-- Every script keeps every set sound. -/
theorem sound_step (request : Request) (limits : limiter.limit ≤ limit)
    (sound : ∀ place, Sound limit used (space.set place))
    (fresh : ∀ nonce, request.nonce? = some nonce → nonce ∉ used) (place : String) :
    Sound limit (used ++ request.nonce?.toList) ((limiter.step space request).2.set place) := by
  by_cases own : place = limiter.place request.key
  · subst own
    cases request with
    | allow key count now nonce =>
        have new := (sound (limiter.place key)).new_member (fresh nonce rfl)
        rcases allowScript_cases nonce now count (limiter.place key) limiter.window limiter.limit
          space new with ⟨room, -, extended⟩ | ⟨-, -, pruned⟩
        · exact (sound _).extended extended (room.trans limits) (fresh nonce rfl)
        · exact ((sound _).pruned pruned).later [nonce]
    | remaining key now =>
        exact ((sound _).pruned (pruned_change now _ limiter.window space)).later []
    | reset key =>
        simp only [step, reset, Request.key, Keyspace.set_erase_self]
        exact Sound.empty _ _
  · rw [limiter.set_step_of_ne space request own]
    exact (sound place).later _

/-- A server runs the script of one instance as a whole, or drops the sets whose time has
passed. -/
inductive Turn
  | script (limiter : Shared) (request : Request)
  | expire (now : Int)

namespace Turn

def run (space : Keyspace) : Turn → Keyspace
  | .script limiter request => (limiter.step space request).2
  | .expire now => space.dropOver now

def nonce? : Turn → Option String
  | .script _ request => request.nonce?
  | .expire _ => none

end Turn

/-- What an empty server holds after the given turns. -/
def serve (turns : List Turn) : Keyspace := turns.foldl Turn.run ∅

/-- The texts that name the events of the given turns. -/
def nonces (turns : List Turn) : List String := turns.filterMap Turn.nonce?

/-- The last turn runs on what the others left. -/
theorem serve_concat (turns : List Turn) (turn : Turn) :
    serve (turns ++ [turn]) = turn.run (serve turns) := by
  simp [serve]

/-- The last turn may use one more text. -/
theorem nonces_concat (turns : List Turn) (turn : Turn) :
    nonces (turns ++ [turn]) = nonces turns ++ turn.nonce?.toList := by
  rw [nonces, List.filterMap_append, ← nonces]
  cases named : turn.nonce? <;> simp [named]

/-- Whatever the turns are, every set of the server is sound. -/
theorem sound_serve (limit : Nat) (turns : List Turn)
    (limits : ∀ limiter request, .script limiter request ∈ turns → limiter.limit ≤ limit)
    (distinct : (nonces turns).Nodup) (place : String) :
    Sound limit (nonces turns) ((serve turns).set place) := by
  induction turns using List.reverseRecOn generalizing place with
  | nil =>
      rw [serve, List.foldl_nil, Keyspace.set_empty]
      exact Sound.empty limit _
  | append_singleton turns turn ih =>
      rw [nonces_concat] at distinct ⊢
      have sound := ih (fun limiter request sent =>
        limits limiter request (List.mem_append_left _ sent)) (List.nodup_append.mp distinct).1
      rw [serve_concat]
      cases turn with
      | script limiter request =>
          exact sound_step request (limits limiter request (by simp)) sound
            (fresh_of_nodup distinct) place
      | expire now =>
          rw [Turn.run, Keyspace.set_dropOver]
          split
          · exact Sound.empty limit _
          · exact (sound place).later _

/-- What the script of a request does to the set of its key. A granted call adds as many members
as it has events, all with its own clock and with names that the set does not have. Apart from
members that left the window nothing goes away. -/
inductive Effect (limiter : Shared) (space : Keyspace) : Request → Prop
  | granted {key : String} {count : Nat} {now : Int} {nonce : String} {next : Keyspace}
      (runs : allowScript (limiter.place key) now limiter.window limiter.limit count nonce space =
        (1, next))
      (added : Entries Int) (number : added.length = count)
      (new : ∀ event ∈ added,
        event.2 = now ∧ event.1 ∉ (space.set (limiter.place key)).scores.names)
      (members : (next.set (limiter.place key)).scores.Perm
        (added ++ kept now limiter.window (space.set (limiter.place key))))
      (distinct : (next.set (limiter.place key)).scores.names.Nodup) :
      Effect limiter space (.allow key count now nonce)
  | refused {key : String} {count : Nat} {now : Int} {nonce : String} {next : Keyspace}
      (runs : allowScript (limiter.place key) now limiter.window limiter.limit count nonce space =
        (0, next))
      (members : (next.set (limiter.place key)).scores =
        kept now limiter.window (space.set (limiter.place key))) :
      Effect limiter space (.allow key count now nonce)
  | counted {key : String} {now : Int} {count : Nat} {next : Keyspace}
      (runs : countScript (limiter.place key) now limiter.window space = (count, next))
      (members : (next.set (limiter.place key)).scores =
        kept now limiter.window (space.set (limiter.place key))) :
      Effect limiter space (.remaining key now)
  | forgotten {key : String}
      (members : ((limiter.reset key space).set (limiter.place key)).scores = []) :
      Effect limiter space (.reset key)

/-- A request for a sound keyspace has the effect that it should. -/
theorem effect_of_sound (request : Request) (limits : limiter.limit ≤ limit)
    (sound : ∀ place, Sound limit used (space.set place))
    (fresh : ∀ nonce, request.nonce? = some nonce → nonce ∉ used) :
    Effect limiter space request := by
  cases request with
  | allow key count now nonce =>
      have new := (sound (limiter.place key)).new_member (fresh nonce rfl)
      have after := sound_step (.allow key count now nonce) limits sound fresh (limiter.place key)
      rcases allowScript_cases nonce now count (limiter.place key) limiter.window limiter.limit
        space new with ⟨-, one, extended⟩ | ⟨-, zero, pruned⟩
      · refine .granted (Prod.ext one rfl) (events nonce now count) (length_events nonce now count)
          ?_ extended.members after.distinct
        intro event added
        obtain ⟨index, -, rfl⟩ := mem_events.mp added
        exact ⟨rfl, new (index + 1)⟩
      · exact .refused (Prod.ext zero rfl) pruned.members
  | remaining key now => exact .counted rfl (pruned_change now _ limiter.window space).members
  | reset key =>
      refine .forgotten ?_
      rw [reset, Keyspace.set_erase_self]

/-- After every turn every set is within the limit, and every script has its effect on the set of
its key and none on another. -/
theorem serve_keeps_limit_and_events (limit : Nat) (turns : List Turn)
    (limits : ∀ limiter request, .script limiter request ∈ turns → limiter.limit ≤ limit)
    (distinct : (nonces turns).Nodup) :
    (∀ past, past <+: turns → ∀ place, ((serve past).set place).size ≤ limit) ∧
      ∀ past limiter request, past ++ [.script limiter request] <+: turns →
        Effect limiter (serve past) request ∧
          ∀ place, place ≠ limiter.place request.key →
            (limiter.step (serve past) request).2[place]? = (serve past)[place]? := by
  have sound (past : List Turn) (early : past <+: turns) (place : String) :
      Sound limit (nonces past) ((serve past).set place) := by
    apply sound_serve limit past
    · intro limiter request sent
      exact limits limiter request (early.subset sent)
    · exact distinct.sublist (early.sublist.filterMap _)
  refine ⟨fun past early place => (sound past early place).bounded, ?_⟩
  intro past limiter request early
  have now := distinct.sublist (early.sublist.filterMap Turn.nonce?)
  rw [← nonces, nonces_concat] at now
  refine ⟨?_, fun place different => limiter.step_frame (serve past) request different⟩
  exact effect_of_sound request (limits limiter request (early.subset (by simp)))
    (sound past ((List.prefix_append past _).trans early)) (fresh_of_nodup now)

/-- Two instances share a set, one clock goes back, the server drops nothing too early, and the
last call finds the set full. -/
theorem serve_keeps_limit_and_events_shared :
    let wide : Shared := { limit := 2, window := 100, space := "kit" }
    let narrow : Shared := { limit := 2, window := 50, space := "kit" }
    let past : List Turn := [.script wide (.allow "k" 1 1000 "1000:a"), .expire 1500]
    let turns := past ++ [.script narrow (.allow "k" 1 900 "900:b"),
      .script wide (.allow "k" 1 950 "950:c"), .script narrow (.reset "other")]
    (∀ limiter request, .script limiter request ∈ turns → limiter.limit ≤ 2) ∧
      (nonces turns).Nodup ∧ ((serve turns).set "kit:k").size = 2 ∧
      (∀ past, past <+: turns → ∀ place, ((serve past).set place).size ≤ 2) ∧
      Effect narrow (serve past) (.allow "k" 1 900 "900:b") := by
  intro wide narrow past turns
  have limits : ∀ limiter request, .script limiter request ∈ turns → limiter.limit ≤ 2 := by
    intro limiter request sent
    simp only [turns, past, List.mem_append, List.mem_cons, Turn.script.injEq, reduceCtorEq,
      List.not_mem_nil, or_false] at sent
    rcases sent with ⟨rfl, -⟩ | ⟨rfl, -⟩ | ⟨rfl, -⟩ | ⟨rfl, -⟩ <;> decide
  have distinct : (nonces turns).Nodup := by decide
  obtain ⟨bounded, effects⟩ := serve_keeps_limit_and_events 2 turns limits distinct
  have early : past ++ [.script narrow (.allow "k" 1 900 "900:b")] <+: turns :=
    ⟨[.script wide (.allow "k" 1 950 "950:c"), .script narrow (.reset "other")], rfl⟩
  obtain ⟨effect, -⟩ := effects past narrow (.allow "k" 1 900 "900:b") early
  exact ⟨limits, distinct, by decide +kernel, bounded, effect⟩

end Backplane.RateLimit.Shared
