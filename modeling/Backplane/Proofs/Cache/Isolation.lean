import Backplane.Cache.Call
import Backplane.Proofs.RateLimit.Commands

namespace Backplane.Redis.Command

variable {name : String} {count : Nat} {words rest : List String}

/-- So many words behind the name of a command are its keys, and `rest` behind them is none. -/
def Leads (name : String) (count : Nat) (rest : List String) : Prop :=
  ∀ words : List String, words.length = count →
    (KeyRule.ofName name).span (words ++ rest) = (0, count)

/-- A command without keys leads with none. -/
theorem leads_none (rule : KeyRule.ofName name = .none) : Leads name 0 rest := by
  intro words _
  rw [rule, KeyRule.span]

/-- The key of a command with one stands behind the name. -/
theorem leads_first (rule : KeyRule.ofName name = .first) : Leads name 1 rest := by
  intro words _
  rw [rule, KeyRule.span]

/-- A command with many keys has nothing else. -/
theorem leads_all (rule : KeyRule.ofName name = .all) : Leads name count [] := by
  intro words length
  rw [rule, KeyRule.span, List.append_nil, length]

/-- The keys of a command are the words that lead it. -/
theorem Leads.keys_eq (leads : Leads name words.length rest) :
    keys (name :: (words ++ rest)) = words := by
  simp [keys, leads words rfl]

/-- Other keys take the place of the words that lead a command. -/
theorem Leads.mapKeys_eq (leads : Leads name words.length rest) (change : String → String) :
    mapKeys change (name :: (words ++ rest)) = name :: (words.map change ++ rest) := by
  simp [mapKeys, leads words rfl]

/-- A key is named if one of the commands has it. -/
theorem mem_named {commands : List (List String)} {key : String} :
    key ∈ named commands ↔ ∃ command ∈ commands, key ∈ keys command :=
  List.mem_flatMap

end Backplane.Redis.Command

namespace Backplane.Cache

open Redis

@[simp] theorem placeKey_none (key : String) : placeKey none key = key := by
  simp [placeKey]

@[simp] theorem placeKey_some (space key : String) : placeKey (some space) key = space ++ key := rfl

namespace Call

/-- A call sends nothing, or its keys in order right behind the name of its command. -/
inductive Layout (call : Call) : Prop
  | silent (idle : ∀ space, call.command? space = none)
  | sends (name : String) (rest : List String)
      (shape : ∀ space,
        call.command? space = some (name :: (call.keys.map (placeKey space) ++ rest)))
      (leads : Command.Leads name call.keys.length rest)

namespace Layout

variable {call : Call} {name key : String} {rest : List String}

/-- A call with one key that stands behind the name has a layout. -/
theorem ofFirst (shape : ∀ space, call.command? space = some (name :: placeKey space key :: rest))
    (one : call.keys = [key]) (rule : KeyRule.ofName name = .first) : call.Layout := by
  refine .sends name rest ?_ ?_
  · simpa [one] using shape
  · rw [one]
    exact Command.leads_first rule

/-- A call with a list besides its key sends nothing if the list is empty. -/
theorem ofFirstUnlessEmpty (shape : ∀ space, call.command? space =
      if rest.isEmpty then none else some (name :: placeKey space key :: rest))
    (one : call.keys = [key]) (rule : KeyRule.ofName name = .first) : call.Layout := by
  by_cases empty : rest.isEmpty
  · exact .silent fun space => by rw [shape, if_pos empty]
  · exact .ofFirst (fun space => by rw [shape, if_neg empty]) one rule

/-- A call with a list of keys sends nothing if the list is empty. -/
theorem ofAllUnlessEmpty (shape : ∀ space, call.command? space =
      if call.keys.isEmpty then none else some (name :: call.keys.map (placeKey space)))
    (rule : KeyRule.ofName name = .all) : call.Layout := by
  by_cases empty : call.keys.isEmpty
  · exact .silent fun space => by rw [shape, if_pos empty]
  · refine .sends name [] (fun space => ?_) (Command.leads_all rule)
    rw [shape, if_neg empty, List.append_nil]

end Layout

/-- Every call has one. -/
theorem layout (call : Call) : call.Layout := by
  -- The cases differ in how many keys there are and in whether a list may be empty.
  cases call with
  | setString key value life | setIfAbsent key value life =>
      cases life <;> exact .ofFirst (fun _ => rfl) rfl rfl
  | getMany | delete | countPresent => exact .ofAllUnlessEmpty (fun _ => rfl) rfl
  | deleteFields | addMembers | dropMembers | dropScored =>
      exact .ofFirstUnlessEmpty (fun _ => rfl) rfl rfl
  | ping => exact .sends "PING" [] (fun _ => rfl) (Command.leads_none rfl)
  | _ => exact .ofFirst (fun _ => rfl) rfl rfl

/-- A key space moves every key that is sent, and nothing else. -/
theorem command?_some (space : String) (call : Call) :
    call.command? (some space) = (call.command? none).map (Command.mapKeys (space ++ ·)) := by
  cases call.layout with
  | silent idle => rw [idle, idle, Option.map_none]
  | sends name rest shape leads =>
      rw [shape, shape, Option.map_some, Command.Leads.mapKeys_eq (by simpa using leads)]
      simp

/-- The keys of the command that is sent are the keys of the call in the key space. -/
theorem keys_of_command? {space : Option String} {call : Call} {command : List String}
    (sent : call.command? space = some command) :
    Command.keys command = call.keys.map (placeKey space) := by
  cases call.layout with
  | silent idle => simp [idle] at sent
  | sends name rest shape leads =>
      rw [shape, Option.some.injEq] at sent
      rw [← sent, Command.Leads.keys_eq (by simpa using leads)]

/-- Whatever a cache names lies in its key space. -/
theorem exists_of_mem_sent {space key : String} {calls : List Call}
    (named : key ∈ Command.named (sent (some space) calls)) : ∃ rest, space ++ rest = key := by
  obtain ⟨command, isSent, mine⟩ := Command.mem_named.mp named
  obtain ⟨call, -, sent⟩ := List.mem_filterMap.mp isSent
  rw [keys_of_command? sent] at mine
  obtain ⟨rest, -, moved⟩ := List.mem_map.mp mine
  exact ⟨rest, moved⟩

end Call

open RateLimit

/-- Two texts with some common continuation: one of them starts with the other. -/
theorem exists_append_eq_iff (one other : String) :
    (∃ rest last, one ++ rest = other ++ last) ↔
      one.toList <+: other.toList ∨ other.toList <+: one.toList := by
  constructor
  · rintro ⟨rest, last, same⟩
    have lists : one.toList ++ rest.toList = other.toList ++ last.toList := by
      rw [← String.toList_append, same, String.toList_append]
    have second : other.toList <+: one.toList ++ rest.toList := by
      rw [lists]
      exact List.prefix_append _ _
    exact List.prefix_or_prefix_of_prefix (List.prefix_append _ _) second
  · rintro (⟨rest, whole⟩ | ⟨rest, whole⟩)
    · refine ⟨String.ofList rest, "", ?_⟩
      simp [← String.toList_inj, whole]
    · refine ⟨"", String.ofList rest, ?_⟩
      simp [← String.toList_inj, whole]

/-- The keys that some run names are those of a key space. -/
def Fills {Run : Type} (space : String) (keys : Run → List String) : Prop :=
  ∀ key, (∃ run, key ∈ keys run) ↔ ∃ rest, space ++ rest = key

/-- Two parties that fill their key spaces keep apart if neither key space starts with the other. -/
theorem Fills.isolated_iff {Run Other : Type} {space beside : String} {keys : Run → List String}
    {others : Other → List String} (fills : Fills space keys) (filled : Fills beside others) :
    (∀ run other, ∀ key ∈ keys run, key ∉ others other) ↔
      ¬space.toList <+: beside.toList ∧ ¬beside.toList <+: space.toList := by
  rw [← not_or, ← exists_append_eq_iff]
  constructor
  · rintro apart ⟨rest, last, same⟩
    obtain ⟨run, named⟩ := (fills (space ++ rest)).mpr ⟨rest, rfl⟩
    obtain ⟨other, again⟩ := (filled (space ++ rest)).mpr ⟨last, same.symm⟩
    exact apart run other _ named again
  · intro apart run other key named again
    obtain ⟨rest, mine⟩ := (fills key).mp ⟨run, named⟩
    obtain ⟨last, theirs⟩ := (filled key).mp ⟨other, again⟩
    exact apart ⟨rest, last, mine.trans theirs.symm⟩

/-- A cache fills its key space. -/
theorem Call.fills (space : String) :
    Fills space fun calls => Command.named (Call.sent (some space) calls) := by
  intro key
  constructor
  · rintro ⟨calls, named⟩
    exact exists_of_mem_sent named
  · rintro ⟨rest, rfl⟩
    exact ⟨[.getString rest], List.mem_singleton_self _⟩

/-- A limiter fills its key space, behind the colon. -/
theorem fills_limiter {limiter : Shared} (scripts : Scripts) (given : limiter.space ≠ "") :
    Fills (limiter.space ++ ":") fun requests => Command.named (limiter.sent scripts requests) := by
  intro key
  constructor
  · rintro ⟨requests, named⟩
    obtain ⟨call, -, place⟩ := Shared.mem_named_sent.mp named
    exact ⟨call.2.key, by rw [place, Shared.place, placeKey_of_ne given]⟩
  · rintro ⟨rest, rfl⟩
    refine ⟨[(.known, .reset rest)], Shared.mem_named_sent.mpr ⟨_, List.mem_singleton_self _, ?_⟩⟩
    exact (placeKey_of_ne given rest).symm

/-- A cache with a key space sends what a cache without one sends, with the key space in front of
every key, each once and in order. Two caches never name a common key exactly if neither key space
starts with the other; so it is with a cache and a limiter, whose key space ends in a colon and
whose scripts leave every key alone that they do not name. -/
theorem caches_isolated :
    (∀ (space : String) (call : Call),
      call.command? (some space) = (call.command? none).map (Command.mapKeys (space ++ ·)) ∧
        ∀ command, call.command? (some space) = some command →
          Command.keys command = call.keys.map (space ++ ·)) ∧
      (∀ space beside : String,
        (∀ calls others, ∀ key ∈ Command.named (Call.sent (some space) calls),
          key ∉ Command.named (Call.sent (some beside) others)) ↔
            ¬space.toList <+: beside.toList ∧ ¬beside.toList <+: space.toList) ∧
      ∀ (space : String) (limiter : Shared) (scripts : Scripts),
        (limiter.space ≠ "" →
          ((∀ calls requests, ∀ key ∈ Command.named (Call.sent (some space) calls),
            key ∉ Command.named (limiter.sent scripts requests)) ↔
              ¬space.toList <+: (limiter.space ++ ":").toList ∧
                ¬(limiter.space ++ ":").toList <+: space.toList)) ∧
          ∀ requests key keyspace, key ∉ Command.named (limiter.sent scripts requests) →
            (limiter.run keyspace (requests.map Prod.snd)).2[key]? = keyspace[key]? := by
  refine ⟨fun space call => ⟨call.command?_some space, fun command sent => ?_⟩,
    fun space beside => (Call.fills space).isolated_iff (Call.fills beside),
    fun space limiter scripts => ⟨fun given => ?_, fun requests key keyspace other => ?_⟩⟩
  · exact Call.keys_of_command? sent
  · exact (Call.fills space).isolated_iff (fills_limiter scripts given)
  · exact Shared.run_frame requests keyspace other

/-- Two services and the limiter of a third on one server. -/
theorem caches_isolated_shop :
    let limiter : Shared := { space := "limits", limit := 2, window := 10000 }
    (∀ calls others, ∀ key ∈ Command.named (Call.sent (some "shop:") calls),
      key ∉ Command.named (Call.sent (some "shopping:") others)) ∧
      (∀ scripts calls requests, ∀ key ∈ Command.named (Call.sent (some "shop:") calls),
        key ∉ Command.named (limiter.sent scripts requests)) ∧
      Command.named (Call.sent (some "shop:") [.getString "a", .getString "b"]) =
        ["shop:a", "shop:b"] := by
  intro limiter
  obtain ⟨-, caches, limiters⟩ := caches_isolated
  refine ⟨(caches _ _).mpr (by decide), fun scripts => ?_, rfl⟩
  exact ((limiters "shop:" limiter scripts).1 (by decide)).mpr (by decide)

end Backplane.Cache
