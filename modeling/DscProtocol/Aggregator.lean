import DscProtocol.HelperConfig
import DscProtocol.Lib.Archive

set_option autoImplicit false

/- `MockV3Aggregator.sol`: a price feed that anyone may write, with all the rounds it keeps. -/
namespace DscProtocol

/-- What a feed keeps of one round. -/
structure Report where
  answer : BitVec 256
  startedAt : Nat
  updatedAt : Nat
  deriving DecidableEq

namespace Report

/-- A round never written. -/
def blank : Report := ⟨0, 0, 0⟩

/-- A report as a feed returns it; the number of the round is a `uint80`. -/
def round (report : Report) (number : Nat) : Round where
  roundId := number % 2 ^ 80
  answer := report.answer
  startedAt := report.startedAt
  updatedAt := report.updatedAt
  answeredInRound := number % 2 ^ 80

end Report

/-- Storage of `MockV3Aggregator.sol`. -/
structure Aggregator where
  latestAnswer : BitVec 256
  latestTimestamp : Nat
  latestRound : Nat
  getAnswer : Nat → BitVec 256
  getTimestamp : Nat → Nat
  getStartedAt : Nat → Nat

namespace Aggregator

/-- Before the constructor has run. -/
def zeroed : Aggregator where
  latestAnswer := 0
  latestTimestamp := 0
  latestRound := 0
  getAnswer := fun _ => 0
  getTimestamp := fun _ => 0
  getStartedAt := fun _ => 0

def updateAnswer (aggregator : Aggregator) (answer : BitVec 256) (timestamp : Nat) :
    Except Revert Aggregator := do
  let latestRound ← checkedAdd aggregator.latestRound 1
  .ok { latestAnswer := answer
        latestTimestamp := timestamp
        latestRound := latestRound
        getAnswer := Function.update aggregator.getAnswer latestRound answer
        getTimestamp := Function.update aggregator.getTimestamp latestRound timestamp
        getStartedAt := Function.update aggregator.getStartedAt latestRound timestamp }

/-- Any round, any time, and an older round may become the latest. -/
def updateRoundData (aggregator : Aggregator) (roundId : BitVec 80) (answer : BitVec 256)
    (timestamp startedAt : Nat) : Aggregator where
  latestRound := roundId.toNat
  latestAnswer := answer
  latestTimestamp := timestamp
  getAnswer := Function.update aggregator.getAnswer roundId.toNat answer
  getTimestamp := Function.update aggregator.getTimestamp roundId.toNat timestamp
  getStartedAt := Function.update aggregator.getStartedAt roundId.toNat startedAt

def getRoundData (aggregator : Aggregator) (roundId : BitVec 80) : Round where
  roundId := roundId.toNat
  answer := aggregator.getAnswer roundId.toNat
  startedAt := aggregator.getStartedAt roundId.toNat
  updatedAt := aggregator.getTimestamp roundId.toNat
  answeredInRound := roundId.toNat

/-- `uint80(latestRound)` drops the high bits, the mappings are read at the whole word. -/
def latestRoundData (aggregator : Aggregator) : Round where
  roundId := aggregator.latestRound % 2 ^ 80
  answer := aggregator.getAnswer aggregator.latestRound
  startedAt := aggregator.getStartedAt aggregator.latestRound
  updatedAt := aggregator.getTimestamp aggregator.latestRound
  answeredInRound := aggregator.latestRound % 2 ^ 80

/-- The constructor without the decimals, which the engine never asks for. -/
def construct (initialAnswer : BitVec 256) (timestamp : Nat) : Except Revert Aggregator :=
  zeroed.updateAnswer initialAnswer timestamp

/-- What the constructor leaves. -/
def deployed (initialAnswer : BitVec 256) (timestamp : Nat) : Aggregator where
  latestAnswer := initialAnswer
  latestTimestamp := timestamp
  latestRound := 1
  getAnswer := Function.update (fun _ => 0) 1 initialAnswer
  getTimestamp := Function.update (fun _ => 0) 1 timestamp
  getStartedAt := Function.update (fun _ => 0) 1 timestamp

theorem construct_eq (initialAnswer : BitVec 256) (timestamp : Nat) :
    construct initialAnswer timestamp = .ok (deployed initialAnswer timestamp) := by
  have first : checkedAdd zeroed.latestRound 1 = .ok 1 := by decide
  unfold construct updateAnswer
  rw [first]
  rfl

theorem deployed_latestRoundData (initialAnswer : BitVec 256) (timestamp : Nat) :
    (deployed initialAnswer timestamp).latestRoundData =
      MockV3Aggregator.deployed initialAnswer timestamp := by
  unfold deployed latestRoundData MockV3Aggregator.deployed
  simp only [Function.update_self]
  rfl

/-- What the storage holds under a round. -/
def report (aggregator : Aggregator) (number : Nat) : Report where
  answer := aggregator.getAnswer number
  startedAt := aggregator.getStartedAt number
  updatedAt := aggregator.getTimestamp number

variable {aggregator after : Aggregator}

theorem latestRoundData_eq :
    aggregator.latestRoundData =
      (aggregator.report aggregator.latestRound).round aggregator.latestRound := rfl

theorem getRoundData_eq (roundId : BitVec 80) :
    aggregator.getRoundData roundId =
      (aggregator.report roundId.toNat).round roundId.toNat := by
  have small : roundId.toNat % 2 ^ 80 = roundId.toNat := Nat.mod_eq_of_lt roundId.isLt
  unfold getRoundData report Report.round
  rw [small]

end Aggregator

/-- What anyone may call on a feed. -/
inductive AggregatorCall where
  | updateAnswer (answer : BitVec 256)
  | updateRoundData (roundId : BitVec 80) (answer : BitVec 256) (timestamp startedAt : Nat)
  deriving DecidableEq

namespace AggregatorCall

def exec (timestamp : Nat) (call : AggregatorCall) (aggregator : Aggregator) :
    Except Revert Aggregator :=
  match call with
  | updateAnswer answer => aggregator.updateAnswer answer timestamp
  | updateRoundData roundId answer updatedAt startedAt =>
      .ok (aggregator.updateRoundData roundId answer updatedAt startedAt)

/-- What a call files, and under which round. -/
def entry (timestamp : Nat) (call : AggregatorCall) (aggregator : Aggregator) : Nat × Report :=
  match call with
  | updateAnswer answer => (aggregator.latestRound + 1, ⟨answer, timestamp, timestamp⟩)
  | updateRoundData roundId answer updatedAt startedAt =>
      (roundId.toNat, ⟨answer, startedAt, updatedAt⟩)

variable {aggregator after : Aggregator} {call : AggregatorCall} {timestamp : Nat}

/-- Either call files its entry, makes it the latest and touches no other round. -/
theorem exec_files (returned : call.exec timestamp aggregator = .ok after) :
    after.latestRound = (call.entry timestamp aggregator).1 ∧
      after.latestAnswer = (call.entry timestamp aggregator).2.answer ∧
      after.latestTimestamp = (call.entry timestamp aggregator).2.updatedAt ∧
      after.report = Function.update aggregator.report (call.entry timestamp aggregator).1
        (call.entry timestamp aggregator).2 := by
  have files : ∀ (number : Nat) (report : Report),
      after.getAnswer = Function.update aggregator.getAnswer number report.answer →
      after.getTimestamp = Function.update aggregator.getTimestamp number report.updatedAt →
      after.getStartedAt = Function.update aggregator.getStartedAt number report.startedAt →
      after.report = Function.update aggregator.report number report := by
    intro number report answers timestamps starts
    funext other
    unfold Aggregator.report
    rw [answers, timestamps, starts]
    by_cases same : other = number
    · subst same
      simp only [Function.update_self]
    · simp only [Function.update_of_ne same]
  cases call with
  | updateAnswer answer =>
      simp only [exec, Aggregator.updateAnswer, Checked.bind_eq_ok, Checked.add_eq_ok,
        Except.ok.injEq] at returned
      obtain ⟨_, ⟨_, rfl⟩, rfl⟩ := returned
      exact ⟨rfl, rfl, rfl, files _ ⟨answer, timestamp, timestamp⟩ rfl rfl rfl⟩
  | updateRoundData roundId answer updatedAt startedAt =>
      cases returned
      exact ⟨rfl, rfl, rfl, files _ ⟨answer, startedAt, updatedAt⟩ rfl rfl rfl⟩

end AggregatorCall

namespace Aggregator

variable {aggregator after : Aggregator} {call : AggregatorCall} {timestamp : Nat}
  {records : List (Nat × Report)}

/-- The storage after these reports, in the order in which they were filed. -/
structure Keeps (aggregator : Aggregator) (records : List (Nat × Report)) : Prop where
  reports : ∀ number, aggregator.report number = (Archive.newest records number).getD .blank
  latest : records.getLast? =
    some (aggregator.latestRound, aggregator.report aggregator.latestRound)
  answer : aggregator.latestAnswer = (aggregator.report aggregator.latestRound).answer
  timestamp : aggregator.latestTimestamp = (aggregator.report aggregator.latestRound).updatedAt

theorem Keeps.exec (keeps : aggregator.Keeps records)
    (returned : call.exec timestamp aggregator = .ok after) :
    after.Keeps (records ++ [call.entry timestamp aggregator]) := by
  obtain ⟨latest, answer, updatedAt, filed⟩ := AggregatorCall.exec_files returned
  have top : after.report after.latestRound = (call.entry timestamp aggregator).2 := by
    rw [filed, latest, Function.update_self]
  constructor
  · intro number
    rw [filed, Archive.newest_append]
    by_cases same : number = (call.entry timestamp aggregator).1
    · subst same
      simp only [Function.update_self, Option.getD_some]
    · simp only [Function.update_of_ne same]
      exact keeps.reports number
  · rw [List.getLast?_append, List.getLast?_singleton, Option.some_or, top, latest]
  · rw [top, answer]
  · rw [top, updatedAt]

theorem deployed_keeps (initialAnswer : BitVec 256) (timestamp : Nat) :
    (deployed initialAnswer timestamp).Keeps
      [(1, ⟨initialAnswer, timestamp, timestamp⟩)] := by
  have top : (deployed initialAnswer timestamp).report 1 =
      ⟨initialAnswer, timestamp, timestamp⟩ := by
    simp only [report, deployed, Function.update_self]
  constructor
  · intro number
    by_cases first : number = 1
    · subst first
      exact top
    · simp only [report, deployed, Function.update_of_ne first, Archive.newest,
        List.reverse_singleton, List.lookup_cons, List.lookup_nil,
        beq_eq_false_iff_ne.mpr first]
      rfl
  · exact congrArg (fun report => some (1, report)) top.symm
  · exact congrArg Report.answer top.symm
  · exact congrArg Report.updatedAt top.symm

end Aggregator

end DscProtocol
