/-
This file tells the keys of a command from its other words, and finds the list and the time to live
that some commands carry.
-/

import Backplane.Decimal.Read

namespace Backplane.Redis

/-- Which words behind the name of a command are keys. -/
inductive KeyRule
  | none
  | first
  | all
  /-- As many as the second word says, behind it. -/
  | counted

namespace KeyRule

/-- The rule of a command. -/
def ofName (name : String) : KeyRule :=
  if name ∈ ["PING", "SCRIPT"] then .none
  else if name ∈ ["MGET", "DEL", "EXISTS"] then .all
  else if name = "EVALSHA" then .counted
  else .first

/-- How many words stand in front of the keys, and how many keys there are. -/
def span (words : List String) : KeyRule → Nat × Nat
  | .none => (0, 0)
  | .first => (0, 1)
  | .all => (0, words.length)
  | .counted => (2, (words[1]?.bind fun word => Decimal.natural? word.toList).getD 0)

end KeyRule

namespace Command

/-- The keys of a command in order. -/
def keys : List String → List String
  | [] => []
  | name :: words =>
      let (front, count) := (KeyRule.ofName name).span words
      (words.drop front).take count

/-- The same command on other keys. -/
def mapKeys (change : String → String) : List String → List String
  | [] => []
  | name :: words =>
      let (front, count) := (KeyRule.ofName name).span words
      let behind := words.drop front
      name :: (words.take front ++ (behind.take count).map change ++ behind.drop count)

/-- The keys that a run of commands names. -/
def named (commands : List (List String)) : List String := commands.flatMap keys

/-- How many words stand between the name of a command and its list, if it takes a list. -/
def listPlace? (name : String) : Option Nat :=
  if name ∈ ["MGET", "DEL", "EXISTS"] then some 0
  else if name ∈ ["HDEL", "LPUSH", "RPUSH", "SADD", "SREM", "ZREM"] then some 1
  else none

/-- The elements of the list that a command takes, if it takes one. Without elements the server
refuses the command. -/
def elements? : List String → Option (List String)
  | [] => none
  | name :: words => (listPlace? name).map fun place => words.drop place

/-- The word that says how many milliseconds a key is to live. -/
def lifeWord? : List String → Option String
  | ["PSETEX", _, word, _] => some word
  | ["PEXPIRE", _, word] => some word
  | "SET" :: _ :: _ :: options => (options.dropWhile (· ≠ "PX"))[1]?
  | _ => none

/-- The integer that the server reads in a word. It has 64 bits with a sign, and its digits are
written in one way only. -/
def integer? (word : String) : Option Int :=
  (Decimal.int64? word).filter fun number => toString number = word

end Command

end Backplane.Redis
