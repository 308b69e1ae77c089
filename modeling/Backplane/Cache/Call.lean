/-
This file defines the calls of a cache, the command that each sends to a server, and what the
reply means. Every key is placed in the key space of the cache.
-/

import Backplane.Bits
import Backplane.Cache.Key
import Backplane.Decimal.Layout
import Backplane.Redis.Reply

namespace Backplane.Cache

/-- A call of a cache. -/
inductive Call
  | getString (key : String)
  | setString (key value : String) (life : Option Span)
  | setIfAbsent (key value : String) (life : Option Span)
  | getMany (keys : List String)
  | delete (keys : List String)
  | countPresent (keys : List String)
  | expire (key : String) (life : Span)
  | lifeLeft (key : String)
  | increment (key : String)
  | decrement (key : String)
  | incrementBy (key : String) (delta : Int)
  | setField (key field value : String)
  | getField (key field : String)
  | getFields (key : String)
  | deleteFields (key : String) (fields : List String)
  | pushFront (key : String) (values : List String)
  | pushBack (key : String) (values : List String)
  | popFront (key : String)
  | popBack (key : String)
  | length (key : String)
  | addMembers (key : String) (members : List String)
  | dropMembers (key : String) (members : List String)
  | allMembers (key : String)
  | isMember (key member : String)
  | addScored (key member : String) (score : Float)
  | dropScored (key : String) (members : List String)
  | range (key : String) (start stop : Int)
  | rangeScored (key : String) (start stop : Int)
  | ping

/-- What a call answers. -/
inductive Answer
  | done
  | flag (yes : Bool)
  | count (value : Nat)
  | number (value : Int)
  | text (value : Option String)
  | texts (values : List String)
  | found (values : List (Option String))
  | life (value : Option Span)
  | fields (entries : Entries String)
  | scored (members : List (String × Float))

namespace Call

/-- The largest time that a server reads. -/
def longestExpiry : Nat := Bits.most 63

def milliseconds (life : Span) : String := toString (lifetime life)

/-- The words of the command that a call sends to the server, if it sends one. -/
def command? (space : Option String) : Call → Option (List String)
  | .getString key => some ["GET", placeKey space key]
  | .setString key value none => some ["SET", placeKey space key, value]
  | .setString key value (some life) =>
      some ["PSETEX", placeKey space key, milliseconds life, value]
  | .setIfAbsent key value none => some ["SET", placeKey space key, value, "NX"]
  | .setIfAbsent key value (some life) =>
      some ["SET", placeKey space key, value, "NX", "PX", milliseconds life]
  | .getMany keys => if keys.isEmpty then none else some ("MGET" :: keys.map (placeKey space))
  | .delete keys => if keys.isEmpty then none else some ("DEL" :: keys.map (placeKey space))
  | .countPresent keys =>
      if keys.isEmpty then none else some ("EXISTS" :: keys.map (placeKey space))
  | .expire key life =>
      some ["PEXPIRE", placeKey space key, toString (min (lifetime life) longestExpiry)]
  | .lifeLeft key => some ["PTTL", placeKey space key]
  | .increment key => some ["INCRBY", placeKey space key, "1"]
  | .decrement key => some ["DECRBY", placeKey space key, "1"]
  | .incrementBy key delta => some ["INCRBY", placeKey space key, toString delta]
  | .setField key field value => some ["HSET", placeKey space key, field, value]
  | .getField key field => some ["HGET", placeKey space key, field]
  | .getFields key => some ["HGETALL", placeKey space key]
  | .deleteFields key fields =>
      if fields.isEmpty then none else some ("HDEL" :: placeKey space key :: fields)
  | .pushFront key values => some ("LPUSH" :: placeKey space key :: values)
  | .pushBack key values => some ("RPUSH" :: placeKey space key :: values)
  | .popFront key => some ["LPOP", placeKey space key]
  | .popBack key => some ["RPOP", placeKey space key]
  | .length key => some ["LLEN", placeKey space key]
  | .addMembers key members =>
      if members.isEmpty then none else some ("SADD" :: placeKey space key :: members)
  | .dropMembers key members =>
      if members.isEmpty then none else some ("SREM" :: placeKey space key :: members)
  | .allMembers key => some ["SMEMBERS", placeKey space key]
  | .isMember key member => some ["SISMEMBER", placeKey space key, member]
  | .addScored key member score =>
      some ["ZADD", placeKey space key, Decimal.Layout.score.float score, member]
  | .dropScored key members =>
      if members.isEmpty then none else some ("ZREM" :: placeKey space key :: members)
  | .range key start stop => some ["ZRANGE", placeKey space key, toString start, toString stop]
  | .rangeScored key start stop =>
      some ["ZRANGE", placeKey space key, toString start, toString stop, "WITHSCORES"]
  | .ping => some ["PING"]

/-- The commands that a run of calls sends. -/
def sent (space : Option String) (calls : List Call) : List (List String) :=
  calls.filterMap (command? space)

/-- The answer to a call that has nothing to send. -/
def emptyAnswer : Call → Answer
  | .getMany _ => .found []
  | _ => .count 0

/-- The answer that a reply of the server means. -/
def read (call : Call) (reply : Redis.Reply) : Except Redis.Error Answer :=
  match call with
  | .getString _ | .getField .. | .popFront _ | .popBack _ =>
      .text <$> reply.toOption Redis.Reply.toText
  | .setString .. => (fun _ => .done) <$> reply.toUnit
  | .setField .. => (fun _ => .done) <$> reply.toInt
  | .ping => (fun _ => .done) <$> reply.toText
  | .setIfAbsent .. => (fun text => .flag text.isSome) <$> reply.toOption Redis.Reply.toText
  | .getMany _ => .found <$> reply.toList (fun element => element.toOption Redis.Reply.toText)
  | .delete _ | .countPresent _ | .deleteFields .. | .pushFront .. | .pushBack .. | .length _
  | .addMembers .. | .dropMembers .. | .addScored .. | .dropScored .. => .count <$> reply.toCount
  | .expire .. => (fun value => .flag (Int.bmod value (Bits.size 32) == 1)) <$> reply.toInt
  | .lifeLeft _ =>
      (fun value => .life (if value < 0 then none else some (.ofMilliseconds value.toNat))) <$>
        reply.toInt
  | .increment _ | .decrement _ | .incrementBy .. => .number <$> reply.toInt
  | .getFields _ =>
      (fun entries => .fields (Entries.ofList entries)) <$>
        reply.toPairs Redis.Reply.toText Redis.Reply.toText
  | .allMembers _ | .range .. => .texts <$> reply.toList Redis.Reply.toText
  | .isMember .. => .flag <$> reply.toBool
  | .rangeScored .. => .scored <$> reply.toPairs Redis.Reply.toText Redis.Reply.toFloat

/-- Sends what there is to send, and reads the reply. -/
def run (space : Option String) (send : List String → Redis.Reply) (call : Call) :
    Except Redis.Error Answer :=
  match call.command? space with
  | none => .ok call.emptyAnswer
  | some words => call.read (send words)

/-- The answer of a cache that stores nothing: writing succeeds and reading finds nothing. -/
def discard : Call → Answer
  | .getString _ | .getField .. | .popFront _ | .popBack _ => .text none
  | .setString .. | .setField .. | .ping => .done
  | .setIfAbsent .. | .expire .. => .flag true
  | .getMany keys => .found (List.replicate keys.length none)
  | .lifeLeft _ => .life none
  | .increment _ => .number 1
  | .decrement _ => .number (-1)
  | .incrementBy _ delta => .number delta
  | .getFields _ => .fields []
  | .allMembers _ | .range .. => .texts []
  | .isMember .. => .flag false
  | .rangeScored .. => .scored []
  | _ => .count 0

/-- The keys that a call names. -/
def keys : Call → List String
  | .getMany keys | .delete keys | .countPresent keys => keys
  | .getString key | .setString key .. | .setIfAbsent key .. | .expire key _ | .lifeLeft key
  | .increment key | .decrement key | .incrementBy key _ | .setField key .. | .getField key _
  | .getFields key | .deleteFields key _ | .pushFront key _ | .pushBack key _ | .popFront key
  | .popBack key | .length key | .addMembers key _ | .dropMembers key _ | .allMembers key
  | .isMember key _ | .addScored key .. | .dropScored key _ | .range key .. | .rangeScored key .. =>
      [key]
  | .ping => []

end Call

end Backplane.Cache
