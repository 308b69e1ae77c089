import Backplane.Cache.Call
import Backplane.Redis.Command
import Mathlib

namespace Backplane.Decimal

/-- The digits that are read are the digits of the library. -/
theorem isDigit_eq (character : Char) : isDigit character = character.isDigit := rfl

/-- Digits have the value that the library gives them. -/
theorem digitsValue_eq_ofDigitChars (digits : List Char) :
    digitsValue digits = Nat.ofDigitChars 10 digits 0 := by
  simp only [digitsValue, Nat.ofDigitChars_eq_foldl, digitValue, Nat.mul_comm]

/-- A written number is read back. -/
theorem natural?_toString (number : Nat) : natural? (toString number).toList = some number := by
  have digits : ∀ digit ∈ Nat.toDigits 10 number, isDigit digit = true := by
    intro digit listed
    rw [isDigit_eq]
    exact Nat.isDigit_of_mem_toDigits (by decide) (by decide) listed
  have value : digitsValue (Nat.toDigits 10 number) = number := by
    rw [digitsValue_eq_ofDigitChars, Nat.ofDigitChars_ten_toDigits]
  rw [Nat.toString_eq_ofList_toDigits, String.toList_ofList, natural?, value]
  simpa using digits

variable {characters : List Char} {number : Nat}

/-- A number without a sign is read as such, if it lies between the bounds. -/
theorem signed?_of_natural? (found : natural? characters = some number) (least most : Int) :
    signed? least most characters =
      (some (number : Int)).filter fun value => least ≤ value && value ≤ most := by
  have unsigned (sign : Char) (rest : List Char) (other : isDigit sign = false) :
      characters ≠ sign :: rest := by
    rintro rfl
    simp [natural?, other] at found
  rw [signed?, found]
  · rfl
  · exact fun rest => unsigned '-' rest rfl
  · exact fun rest => unsigned '+' rest rfl

/-- A server reads a written number if it has no more than 63 bits. -/
theorem int64?_toString (number : Nat) :
    int64? (toString number) = if number ≤ Bits.most 63 then some (number : Int) else none := by
  rw [int64?, signed?_of_natural? (natural?_toString number), Option.filter_some]
  have below : Bits.leastSigned 64 ≤ (number : Int) := by
    have negative : Bits.leastSigned 64 ≤ 0 := by decide
    omega
  have above : (number : Int) ≤ Bits.mostSigned 64 ↔ number ≤ Bits.most 63 := by
    have same : Bits.mostSigned 64 = (Bits.most 63 : Nat) := by decide
    omega
  simp [below, above]

end Backplane.Decimal

namespace Backplane.Redis.Command

/-- The server reads a number that is written in the usual way if it is in range. -/
theorem integer?_toString (number : Nat) :
    integer? (toString number) = if number ≤ Bits.most 63 then some (number : Int) else none := by
  rw [integer?, Decimal.int64?_toString]
  split
  · have usual : toString (number : Int) = toString number := rfl
    rw [Option.filter_some, if_pos (decide_eq_true usual)]
  · rfl

end Backplane.Redis.Command

namespace Backplane.Cache

open Redis

variable {life longer : Span}

/-- An entry that is to live longer is not given less time. -/
theorem lifetime_mono (order : life.nanoseconds ≤ longer.nanoseconds) :
    lifetime life ≤ lifetime longer := by
  have whole : life.milliseconds ≤ longer.milliseconds := Nat.div_le_div_right order
  rw [lifetime, lifetime]
  omega

namespace Call

/-- The number of milliseconds is one that the server reads, and is that of the life unless this has
less than one or more than the server reads. -/
structure Lives (life : Span) (time : Nat) : Prop where
  positive : 1 ≤ time
  readable : time ≤ longestExpiry
  exact : 1 ≤ life.milliseconds → life.milliseconds ≤ longestExpiry → time = life.milliseconds

/-- The calls that let a key live for some time. -/
def timed (key value : String) (life : Span) : List Call :=
  [.setString key value (some life), .setIfAbsent key value (some life), .expire key life]

/-- The word of a call's command that says how many milliseconds the key is to live. -/
def lifeWord? (space : Option String) (call : Call) : Option String :=
  (call.command? space).bind Command.lifeWord?

variable (space : Option String) (key value : String)

/-- A text is stored with the whole time that it lives. -/
theorem lifeWord?_setString (life : Span) :
    (setString key value (some life)).lifeWord? space = some (toString (lifetime life)) := rfl

/-- A text that is stored where there is none gets its whole time, too. -/
theorem lifeWord?_setIfAbsent (life : Span) :
    (setIfAbsent key value (some life)).lifeWord? space = some (toString (lifetime life)) := rfl

/-- Only an entry that is there already is given less than its time at most. -/
theorem lifeWord?_expire (life : Span) :
    (expire key life).lifeWord? space = some (toString (min (lifetime life) longestExpiry)) := rfl

/-- The number of milliseconds that the server reads in a call's command. -/
def lifeRead? (space : Option String) (call : Call) : Option Int :=
  (call.lifeWord? space).bind Command.integer?

/-- What a server reads of a time that is sent. -/
theorem lifeRead?_eq {call : Call} {time : Nat}
    (word : call.lifeWord? space = some (toString time)) :
    call.lifeRead? space = if time ≤ longestExpiry then some (time : Int) else none := by
  rw [lifeRead?, word, Option.bind_some, Command.integer?_toString]
  rfl

/-- More time is sent than a server can read. -/
theorem longestExpiry_lt_longestLife : longestExpiry < longestLife := by decide

/-- The time that is sent to an entry that is there already is one that it may live. -/
theorem lives_min (life : Span) : Lives life (min (lifetime life) longestExpiry) := by
  have room : 1 ≤ longestExpiry := by decide
  have wider := longestExpiry_lt_longestLife
  constructor <;> rw [lifetime] <;> omega

/-- The time of an entry can be read if its span is short enough. -/
theorem lifetime_le_longestExpiry_iff :
    lifetime life ≤ longestExpiry ↔ life.milliseconds ≤ longestExpiry := by
  have room : 1 ≤ longestExpiry := by decide
  have wider := longestExpiry_lt_longestLife
  rw [lifetime]
  omega

/-- All three calls send one time if it is both the whole time and the cut one. -/
theorem forall_timed_iff {time : Nat} :
    (∀ call ∈ timed key value life, call.lifeWord? space = some (toString time)) ↔
      lifetime life = time ∧ min (lifetime life) longestExpiry = time := by
  simp [timed, lifeWord?_setString, lifeWord?_setIfAbsent, lifeWord?_expire]

/-- The calls agree on a time that the entry may live exactly for spans that can be read. -/
theorem exists_lives_iff :
    (∃ time, Lives life time ∧
      ∀ call ∈ timed key value life, call.lifeWord? space = some (toString time)) ↔
        life.milliseconds ≤ longestExpiry := by
  rw [← lifetime_le_longestExpiry_iff]
  constructor
  · rintro ⟨time, lives, asked⟩
    obtain ⟨rfl, -⟩ := (forall_timed_iff space key value).mp asked
    exact lives.readable
  · intro fits
    have same : min (lifetime life) longestExpiry = lifetime life := Nat.min_eq_left fits
    exact ⟨_, lives_min life, (forall_timed_iff space key value).mpr ⟨same.symm, rfl⟩⟩

/-- The calls that let a key live for some time ask for the same number of milliseconds, which the
server reads and which is right, exactly if the life has no more than the server reads. Of a longer
life the server reads nothing in the calls that store a value, and the most that it can in the
other. A longer life is never asked for with a smaller number. -/
theorem lives_agree_iff (space : Option String) (key value : String) (life : Span) :
    ((∃ time, Lives life time ∧
      ∀ call ∈ timed key value life, call.lifeWord? space = some (toString time)) ↔
        life.milliseconds ≤ longestExpiry) ∧
    (longestExpiry < life.milliseconds →
      (setString key value (some life)).lifeRead? space = none ∧
      (setIfAbsent key value (some life)).lifeRead? space = none ∧
      (expire key life).lifeRead? space = some (longestExpiry : Int)) ∧
    ∀ longer : Span, life.nanoseconds ≤ longer.nanoseconds →
      ∀ pair ∈ (timed key value life).zip (timed key value longer),
        ∃ time later : Nat, pair.1.lifeWord? space = some (toString time) ∧
          pair.2.lifeWord? space = some (toString later) ∧ time ≤ later := by
  refine ⟨exists_lives_iff space key value, fun long => ?_, fun longer order pair listed => ?_⟩
  · have refused : ¬lifetime life ≤ longestExpiry := by
      rw [lifetime_le_longestExpiry_iff]
      omega
    have most : min (lifetime life) longestExpiry = longestExpiry := by omega
    refine ⟨?_, ?_, ?_⟩
    · rw [lifeRead?_eq space (lifeWord?_setString space key value life), if_neg refused]
    · rw [lifeRead?_eq space (lifeWord?_setIfAbsent space key value life), if_neg refused]
    · rw [lifeRead?_eq space (lifeWord?_expire space key life), most, if_pos (Nat.le_refl _)]
  · have later := lifetime_mono order
    have which : pair = (setString key value (some life), setString key value (some longer)) ∨
        pair = (setIfAbsent key value (some life), setIfAbsent key value (some longer)) ∨
        pair = (expire key life, expire key longer) := by
      simpa [timed] using listed
    rcases which with rfl | rfl | rfl
    · exact ⟨_, _, rfl, rfl, later⟩
    · exact ⟨_, _, rfl, rfl, later⟩
    · exact ⟨_, _, rfl, rfl, by omega⟩

/-- A life of one millisecond more than the server reads. -/
def endless : Span := .ofMilliseconds 9223372036854775808

/-- A span that no server can read, and one that is rounded up to a millisecond. -/
theorem lives_agree_iff_endless :
    longestExpiry < endless.milliseconds ∧
      (setString "k" "v" (some endless)).lifeRead? none = none ∧
      (expire "k" endless).lifeRead? none = some (longestExpiry : Int) ∧
      (Span.ofParts 0 999999).nanoseconds ≤ endless.nanoseconds ∧
      ∃ time later : Nat,
        (setString "k" "v" (some (.ofParts 0 999999))).lifeWord? none = some (toString time) ∧
        (setString "k" "v" (some endless)).lifeWord? none = some (toString later) ∧
        time ≤ later := by
  have long : longestExpiry < endless.milliseconds := by decide +kernel
  have order : (Span.ofParts 0 999999).nanoseconds ≤ endless.nanoseconds := by decide +kernel
  obtain ⟨stored, -, set⟩ := (lives_agree_iff none "k" "v" endless).2.1 long
  exact ⟨long, stored, set, order,
    (lives_agree_iff none "k" "v" _).2.2 endless order _ (List.mem_cons_self ..)⟩

/-- A value is stored with a number that the server does not read, and the life of the same key is
set with another. -/
theorem endless_life_unreadable :
    (setString "k" "v" (some endless)).command? none =
        some ["PSETEX", "k", "9223372036854775808", "v"] ∧
      (setIfAbsent "k" "v" (some endless)).command? none =
        some ["SET", "k", "v", "NX", "PX", "9223372036854775808"] ∧
      (expire "k" endless).command? none = some ["PEXPIRE", "k", "9223372036854775807"] ∧
      Command.integer? "9223372036854775808" = none ∧
      ¬∃ time, Lives endless time ∧
        ∀ call ∈ timed "k" "v" endless, call.lifeWord? none = some (toString time) := by
  refine ⟨by decide +kernel, by decide +kernel, by decide +kernel, by decide +kernel, ?_⟩
  rw [exists_lives_iff]
  decide +kernel

end Call

end Backplane.Cache
