import Calculator.CommandLine
import Mathlib.Data.List.Forall2

/-!
Command lines with flags around a command.

Flags may stand before the command and behind its operands. `FlagSet.Takes` says which words are
flags with their values, and what set of flags they come to. Words that do take no part in anything
else: reading goes on behind those in front of the command as if they were not there, and those at
the end add no operand.

* `readFront_of_takes`, `readOperands_of_takes`: flags on the two levels of a command line.
* `read_of_operands`: a command line with flags around a command and operands that are plain words.
-/

namespace Calculator

namespace CommandLine

/-- Words that are flags with their values, and the set of flags that they make of another. -/
inductive FlagSet.Takes : FlagSet → List String → FlagSet → Prop where
  | none (set : FlagSet) : Takes set [] set
  /-- A flag or a cluster of flags. -/
  | flags {set mid last : FlagSet} {word : String} {words : List String} {flags : List Flag}
      (isFlags : classify false word = .flags flags)
      (added : flags.foldlM FlagSet.add set = .ok mid)
      (rest : Takes mid words last) : Takes set (word :: words) last
  /-- The value of a flag that awaits one. -/
  | value {set mid last : FlagSet} {word : String} {words : List String}
      (plain : classify false word = .plain) (awaiting : set.awaiting = true)
      (given : set.give word = .ok mid) (rest : Takes mid words last) :
      Takes set (word :: words) last

/-- The flags of a level, all of them given with their values and none against another. -/
structure FlagSet.IsLevel (words : List String) (set : FlagSet) : Prop where
  takes : FlagSet.Takes {} words set
  finish : set.finish = .ok set

/-- No flags at all. -/
theorem FlagSet.isLevel_nil : FlagSet.IsLevel [] {} := ⟨.none _, rfl⟩

theorem FlagSet.awaiting_of_finish {set : FlagSet} (finish : set.finish = .ok set) :
    set.awaiting = false := by
  unfold FlagSet.finish at finish
  cases awaiting : set.awaiting
  · rfl
  · simp [awaiting] at finish

/-- A level that ends with flags is read up to the plain word behind them. -/
theorem readFront_of_takes {set last : FlagSet} {flags : List String} {name : String}
    (takes : set.Takes flags last) (finish : last.finish = .ok last)
    (plain : classify false name = .plain) (words : List String) :
    readFront set (flags ++ name :: words) = .ok (last, name, words) := by
  induction takes with
  | none set =>
    simp only [List.nil_append, readFront, plain, FlagSet.awaiting_of_finish finish, finish,
      Bool.false_eq_true, if_false]
    rfl
  | flags isFlags added _ ih =>
    simp only [List.cons_append, readFront, isFlags, added]
    exact ih finish
  | value plain awaiting given _ ih =>
    simp only [List.cons_append, readFront, plain, awaiting, given, if_true]
    exact ih finish

/-- Flags at the end of a level add no operand, wherever no operand may begin with hyphens. -/
theorem readOperands_of_takes {set last : FlagSet} {flags : List String} {places : List Bool}
    (takes : set.Takes flags last) (finish : last.finish = .ok last)
    (hyphens : places.head?.getD false = false) :
    readOperands places set false flags = .ok (last, []) := by
  induction takes with
  | none set =>
    simp only [readOperands, finish]
    rfl
  | flags isFlags added _ ih =>
    simp only [readOperands, hyphens, isFlags, added, Bool.false_eq_true, if_false]
    exact ih finish
  | value plain awaiting given _ ih =>
    simp only [readOperands, hyphens, plain, awaiting, given, Bool.false_eq_true, if_false, if_true]
    exact ih finish

/-- Operands that are plain words in their places, and flags behind them. -/
theorem readOperands_of_fits {set last : FlagSet} {places more : List Bool}
    {operands flags : List String}
    (fits : List.Forall₂ (fun hyphens word => classify hyphens word = .plain) places operands)
    (settled : set.awaiting = false) (takes : set.Takes flags last)
    (finish : last.finish = .ok last) (hyphens : more.head?.getD false = false) :
    readOperands (places ++ more) set false (operands ++ flags) = .ok (last, operands) := by
  induction fits with
  | nil => exact readOperands_of_takes takes finish hyphens
  | cons plain _ ih =>
    simp only [List.cons_append, readOperands, List.head?_cons, Option.getD_some, plain, settled,
      ih, Bool.false_eq_true, if_false]
    rfl

/-- The name of a command is a plain word. -/
theorem classify_name {name : String} {places : List Bool} (known : places? name = some places) :
    classify false name = .plain := by
  unfold places? at known
  split at known
  case h_4 => cases known
  all_goals decide

/-- **Flags do not get in the way of a command.** A command line with flags in front of the command
and behind its operands asks for the command on these operands. The configuration is the one named
behind it or else the one named in front. -/
theorem read_of_operands {name : String} {operands before after : List String}
    {places more : List Bool} {front back : FlagSet} {action : Command}
    (isFront : FlagSet.IsLevel before front) (isBack : FlagSet.IsLevel after back)
    (known : places? name = some (places ++ more))
    (fits : List.Forall₂ (fun hyphens word => classify hyphens word = .plain) places operands)
    (hyphens : more.head?.getD false = false) (command : command name operands = .ok action) :
    read (before ++ name :: (operands ++ after)) =
      .ok ⟨back.config.or front.config, action⟩ := by
  have readName := readFront_of_takes isFront.takes isFront.finish (classify_name known)
    (operands ++ after)
  have readBehind := readOperands_of_fits fits rfl isBack.takes isBack.finish hyphens
  simp only [read, readName, known, readBehind, command, bind, Except.bind, Except.mapError]
  rfl

end CommandLine

end Calculator
