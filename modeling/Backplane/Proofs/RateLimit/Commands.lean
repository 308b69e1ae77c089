import Backplane.Proofs.RateLimit.Server
import Backplane.RateLimit.Commands
import Backplane.Redis.Command

namespace Backplane.RateLimit

open Redis

variable {scripts : Scripts} {reception : Reception} {place : String}

/-- The call of a script has one key. -/
theorem keys_evaluate (digest key : String) (arguments : List String) :
    Command.keys ("EVALSHA" :: digest :: "1" :: key :: arguments) = [key] := rfl

/-- Loading a script has none. -/
theorem keys_load (text : String) : Command.keys ["SCRIPT", "LOAD", text] = [] := rfl

/-- However the server meets a script, its call names its one key. -/
theorem Scripts.mem_named_call {script : Script} {key : String} {arguments : List String} :
    place ∈ Command.named (scripts.call script reception key arguments) ↔ place = key := by
  cases reception <;> simp [Scripts.call, Command.named, keys_evaluate, keys_load]

namespace Shared

variable {limiter : Shared}

/-- A call names the place of its key and nothing else. -/
theorem mem_named_commands {request : Request} :
    place ∈ Command.named (limiter.commands scripts reception request) ↔
      place = limiter.place request.key := by
  cases request with
  | allow key count now nonce => exact Scripts.mem_named_call
  | remaining key now => exact Scripts.mem_named_call
  | reset key => exact List.mem_singleton

/-- A run names the places of its keys. -/
theorem mem_named_sent {requests : List (Reception × Request)} :
    place ∈ Command.named (limiter.sent scripts requests) ↔
      ∃ call ∈ requests, place = limiter.place call.2.key := by
  rw [Command.named, sent, List.flatMap_assoc, List.mem_flatMap]
  exact exists_congr fun call => and_congr_right fun _ => mem_named_commands

/-- A run leaves every key alone that it does not name. -/
theorem run_frame (requests : List (Reception × Request)) (keyspace : Keyspace)
    (other : place ∉ Command.named (limiter.sent scripts requests)) :
    (limiter.run keyspace (requests.map Prod.snd)).2[place]? = keyspace[place]? := by
  induction requests generalizing keyspace with
  | nil => rfl
  | cons call requests ih =>
      have elsewhere : ∀ next ∈ call :: requests, place ≠ limiter.place next.2.key :=
        fun next listed same => other (mem_named_sent.mpr ⟨next, listed, same⟩)
      rw [List.map_cons, run, ih,
        limiter.step_frame keyspace call.2 (elsewhere call (List.mem_cons_self ..))]
      intro named
      obtain ⟨next, listed, same⟩ := mem_named_sent.mp named
      exact elsewhere next (List.mem_cons_of_mem _ listed) same

end Shared

/-- A key space stands in front of a key, with a colon between them. -/
theorem placeKey_of_ne {space : String} (given : space ≠ "") (key : String) :
    placeKey space key = space ++ ":" ++ key := by
  simp [placeKey, given]

end Backplane.RateLimit
