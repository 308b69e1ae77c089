import Backplane.Cache.Call
import Backplane.Redis.Command

namespace Backplane.Cache

open Redis

/-- Nothing is found, or nothing is counted. -/
def Answer.IsVoid : Answer → Prop
  | .found values => values = []
  | .count value => value = 0
  | _ => False

namespace Call

/-- The list that a call takes, if it takes one. -/
def list? : Call → Option (List String)
  | .getMany list | .delete list | .countPresent list | .deleteFields _ list | .pushFront _ list
  | .pushBack _ list | .addMembers _ list | .dropMembers _ list | .dropScored _ list => some list
  | _ => none

/-- The elements of the list as the server gets them. Keys are placed in the key space. -/
def placedList (space : Option String) (call : Call) : List String :=
  match call with
  | .getMany keys | .delete keys | .countPresent keys => keys.map (placeKey space)
  | _ => call.list?.getD []

def isPush : Call → Bool
  | .pushFront .. | .pushBack .. => true
  | _ => false

/-- A call hands its list over as it should. An empty list is answered without a command, and any
other goes out whole and in order in one command. -/
structure HandsOver (space : Option String) (call : Call) (list : List String) : Prop where
  silent : list = [] → sent space [call] = [] ∧
    ∀ send, ∃ answer, call.run space send = .ok answer ∧ answer.IsVoid
  whole : list ≠ [] → ∃ words, sent space [call] = [words] ∧
    Command.elements? words = some (call.placedList space)

variable {space : Option String} {call : Call} {list words : List String}

/-- Placing keys makes no list empty. -/
theorem placedList_eq_nil_iff (given : call.list? = some list) :
    call.placedList space = [] ↔ list = [] := by
  cases call <;> simp_all [list?, placedList]

/-- The list of a call stands at the end of its command, behind the key if there is one. Without
elements only a push is sent. -/
def SendsList (space : Option String) (call : Call) (list : List String) : Prop :=
  ∃ (name : String) (front : List String), Command.listPlace? name = some front.length ∧
    call.command? space = if list = [] ∧ call.isPush = false then none
      else some (name :: (front ++ call.placedList space))

/-- A call that sends nothing without elements, and otherwise ends with them. -/
theorem SendsList.ofWaiting {name : String} (front : List String)
    (shape : call.command? space =
      if list.isEmpty then none else some (name :: (front ++ call.placedList space)))
    (waits : call.isPush = false) (place : Command.listPlace? name = some front.length) :
    SendsList space call list :=
  ⟨name, front, place, by simp [shape, waits]⟩

/-- A call that is sent in any case, and ends with its elements. -/
theorem SendsList.ofPush {name : String} (front : List String)
    (shape : call.command? space = some (name :: (front ++ call.placedList space)))
    (push : call.isPush = true) (place : Command.listPlace? name = some front.length) :
    SendsList space call list :=
  ⟨name, front, place, by simp [shape, push]⟩

/-- Every call with a list sends it in one of these two ways. -/
theorem sendsList (given : call.list? = some list) (space : Option String) :
    SendsList space call list := by
  cases call with
  | getMany | delete | countPresent =>
      obtain rfl := Option.some.inj given
      exact .ofWaiting [] rfl rfl rfl
  | deleteFields key | addMembers key | dropMembers key | dropScored key =>
      obtain rfl := Option.some.inj given
      exact .ofWaiting [placeKey space key] rfl rfl rfl
  | pushFront key | pushBack key => exact .ofPush [placeKey space key] rfl rfl rfl
  | _ => cases given

/-- A call stays unsent exactly if it has no elements and does not push. -/
theorem command?_eq_none_iff (given : call.list? = some list) :
    call.command? space = none ↔ list = [] ∧ call.isPush = false := by
  obtain ⟨name, front, -, shape⟩ := sendsList given space
  simp [shape]

/-- A server finds in a command the elements that the call placed there. -/
theorem elements?_of_list (given : call.list? = some list)
    (sent : call.command? space = some words) :
    Command.elements? words = some (call.placedList space) := by
  obtain ⟨name, front, place, shape⟩ := sendsList given space
  rw [shape] at sent
  split at sent
  · cases sent
  · obtain rfl := Option.some.inj sent
    simp [Command.elements?, place]

/-- The command of a call without a list takes none. -/
theorem elements?_of_no_list (other : call.list? = none) (sent : call.command? space = some words) :
    Command.elements? words = none := by
  cases call with
  | getMany | delete | countPresent | deleteFields | pushFront | pushBack | addMembers | dropMembers
  | dropScored => cases other
  | setString key value life | setIfAbsent key value life =>
      cases life <;> (obtain rfl := Option.some.inj sent; rfl)
  | _ =>
      obtain rfl := Option.some.inj sent
      rfl

/-- One call sends its command or none. -/
theorem sent_singleton (space : Option String) (call : Call) :
    sent space [call] = (call.command? space).toList := by
  cases command : call.command? space <;> simp [sent, command]

/-- A call that is not sent is answered with nothing. -/
theorem emptyAnswer_isVoid (call : Call) : call.emptyAnswer.IsVoid := by
  cases call <;> rfl

/-- A call hands its list over unless it pushes an empty one. -/
theorem handsOver_iff (given : call.list? = some list) :
    HandsOver space call list ↔ ¬(list = [] ∧ call.isPush = true) := by
  constructor
  · rintro hands ⟨empty, push⟩
    have silent := (hands.silent empty).1
    rw [sent_singleton, Option.toList_eq_nil_iff, command?_eq_none_iff given, push] at silent
    cases silent.2
  · intro proper
    refine ⟨fun empty => ?_, fun filled => ?_⟩
    · have silent : call.command? space = none :=
        (command?_eq_none_iff given).mpr ⟨empty, by simpa [empty] using proper⟩
      refine ⟨by rw [sent_singleton, silent, Option.toList_none], fun send => ?_⟩
      exact ⟨call.emptyAnswer, by rw [run, silent], emptyAnswer_isVoid call⟩
    · cases command : call.command? space with
      | none => exact absurd ((command?_eq_none_iff given).mp command).1 filled
      | some words =>
          exact ⟨words, by rw [sent_singleton, command, Option.toList_some],
            elements?_of_list given command⟩

/-- A push is sent in any case. -/
theorem exists_command?_of_push (push : call.isPush = true) (space : Option String) :
    ∃ words, call.command? space = some words := by
  cases call with
  | pushFront | pushBack => exact ⟨_, rfl⟩
  | _ => cases push

/-- A command without elements comes from a push of nothing. -/
theorem elements?_eq_nil_iff (sent : call.command? space = some words) :
    Command.elements? words = some [] ↔ call.list? = some [] ∧ call.isPush = true := by
  cases given : call.list? with
  | none => simp [elements?_of_no_list given sent]
  | some list =>
      rw [elements?_of_list given sent, Option.some.injEq, placedList_eq_nil_iff given,
        Option.some.injEq]
      refine ⟨fun empty => ⟨empty, ?_⟩, And.left⟩
      cases push : call.isPush with
      | true => rfl
      | false => simp [(command?_eq_none_iff given).mpr ⟨empty, push⟩] at sent

/-- No command of a run lacks elements exactly if no call pushes an empty list. -/
theorem forall_mem_sent_iff {calls : List Call} :
    (∀ words ∈ sent space calls, Command.elements? words ≠ some []) ↔
      ∀ call ∈ calls, call.list? = some [] → call.isPush = false := by
  simp only [sent, List.mem_filterMap]
  constructor
  · intro full call listed empty
    cases push : call.isPush with
    | false => rfl
    | true =>
        obtain ⟨words, command⟩ := exists_command?_of_push push space
        have lacking := (elements?_eq_nil_iff command).mpr ⟨empty, push⟩
        exact absurd lacking (full words ⟨call, listed, command⟩)
  · rintro proper words ⟨call, listed, command⟩ lacking
    obtain ⟨empty, push⟩ := (elements?_eq_nil_iff command).mp lacking
    rw [proper call listed empty] at push
    cases push

/-- A failure that the server reports is passed on. -/
theorem read_failure (call : Call) (text : String) :
    call.read (.failure text) = .error (Reply.refusal text) := by
  cases call <;> rfl

/-- A cache hands over every list as it should unless it is asked to push nothing, and a run sends a
command without elements exactly if it pushes nothing. Where the server refuses such commands the
push fails. -/
theorem lists_handed_over_iff (space : Option String) :
    (∀ (call : Call) (list : List String), call.list? = some list →
      (HandsOver space call list ↔ ¬(list = [] ∧ call.isPush = true))) ∧
    (∀ calls : List Call,
      (∀ words ∈ sent space calls, Command.elements? words ≠ some []) ↔
        ∀ call ∈ calls, call.list? = some [] → call.isPush = false) ∧
    ∀ (send : List String → Reply) (call : Call),
      (∀ words, Command.elements? words = some [] → ∃ text, send words = .failure text) →
        call.list? = some [] → call.isPush = true → ∃ error, call.run space send = .error error := by
  refine ⟨fun call list => handsOver_iff, fun calls => forall_mem_sent_iff, ?_⟩
  intro send call refuses empty push
  obtain ⟨words, command⟩ := exists_command?_of_push push space
  obtain ⟨text, refused⟩ := refuses words ((elements?_eq_nil_iff command).mpr ⟨empty, push⟩)
  refine ⟨Reply.refusal text, ?_⟩
  rw [run, command]
  simp only [refused, read_failure]

/-- A server that refuses commands without elements and counts one element in all others. -/
def strict (words : List String) : Reply :=
  if Command.elements? words = some [] then .failure "ERR wrong number of arguments"
  else .integer 1

/-- A server that asks for elements refuses a command without them. -/
theorem strict_of_no_elements (words : List String) (lacking : Command.elements? words = some []) :
    ∃ text, strict words = .failure text :=
  ⟨_, if_pos lacking⟩

/-- A list that names one key twice is handed over, and a push of nothing is refused. -/
theorem lists_handed_over_iff_repeated :
    (Call.delete ["a", "a"]).list? = some ["a", "a"] ∧
      HandsOver (some "app:") (.delete ["a", "a"]) ["a", "a"] ∧
      (Call.pushBack "jobs" []).list? = some [] ∧ (Call.pushBack "jobs" []).isPush = true ∧
      (∀ words, Command.elements? words = some [] → ∃ text, strict words = .failure text) ∧
      ∃ error, Call.run none strict (.pushBack "jobs" []) = .error error :=
  ⟨rfl, ((lists_handed_over_iff (some "app:")).1 _ _ rfl).mpr (by simp), rfl, rfl,
    strict_of_no_elements,
    (lists_handed_over_iff none).2.2 strict _ strict_of_no_elements rfl rfl⟩

/-- A push of nothing is sent as a command without elements, and its answer is the refusal. -/
theorem empty_push_sent :
    ¬HandsOver none (.pushFront "jobs" []) [] ∧
      sent none [.pushFront "jobs" []] = [["LPUSH", "jobs"]] ∧
      Command.elements? ["LPUSH", "jobs"] = some [] ∧
      Call.run none strict (.pushFront "jobs" []) =
        .error ⟨.serverResponse, some "ERR", "wrong number of arguments"⟩ := by
  refine ⟨?_, rfl, rfl, rfl⟩
  rw [handsOver_iff rfl]
  exact fun proper => proper ⟨rfl, rfl⟩

end Call

end Backplane.Cache
