/-
This file proves when the operations of the power chip tell their callers of an
error of the bus. A read that fails goes on as one that succeeds, with the low
byte of the error, so that only what is done with that byte can end in an error.
-/

import PinePhonePkg.Power.Axp81X
import PinePhonePkg.Power.SupplyNames

namespace PinePhonePkg

open Library

/-! ### Accesses that fail -/

/-- A call of the secure monitor with its reply -/
abbrev PmuExchange : Type := Exchange PmuRequest (fun _ => U32)

/-- The secure monitor returns a negative number. -/
def FailedRead : PmuExchange → Prop
  | ⟨.readPmu _, reply⟩ => reply.slt 0 = true
  | ⟨.writePmu _ _, _⟩ => False

/-- A write that the monitor refuses -/
def FailedWrite : PmuExchange → Prop
  | ⟨.readPmu _, _⟩ => False
  | ⟨.writePmu _ _, reply⟩ => reply ≠ 0

/-- A write, and not a read -/
def IsWrite : PmuRequest → Prop
  | .readPmu _ => False
  | .writePmu _ _ => True

/-- An operation that succeeds has made no access that failed, and none writes after a read that
failed. -/
structure ErrorsTold (trace : List PmuExchange) (success : Prop) : Prop where
  told : success → ∀ exchange ∈ trace, ¬FailedRead exchange ∧ ¬FailedWrite exchange
  careful : trace.Pairwise fun exchange later => FailedRead exchange → ¬IsWrite later.request

theorem errorsTold_nil (success : Prop) : ErrorsTold [] success :=
  ⟨fun _ _ member => absurd member List.not_mem_nil, .nil⟩

/-- An access that succeeds tells nothing. -/
theorem errorsTold_cons_iff {exchange : PmuExchange} {trace : List PmuExchange} {success : Prop}
    (read : ¬FailedRead exchange) (write : ¬FailedWrite exchange) :
    ErrorsTold (exchange :: trace) success ↔ ErrorsTold trace success := by
  constructor
  · rintro ⟨told, careful⟩
    exact ⟨fun succeeded later member => told succeeded later (List.mem_cons_of_mem _ member),
      (List.pairwise_cons.mp careful).2⟩
  · rintro ⟨told, careful⟩
    refine ⟨fun succeeded later member => ?_,
      List.pairwise_cons.mpr ⟨fun _ _ failed => absurd failed read, careful⟩⟩
    rcases List.mem_cons.mp member with rfl | member
    · exact ⟨read, write⟩
    · exact told succeeded later member

/-! ### Programs that swallow a failed read -/

section Programs

variable {Result : Type} (succeeds : Result → Prop)

/-- In every run of the program, errors are told exactly if no read fails. -/
def Exact (program : Pmu Result) : Prop :=
  ∀ trace result, program.Run trace result →
    (ErrorsTold trace (succeeds result) ↔ ∀ exchange ∈ trace, ¬FailedRead exchange)

/-- Every run of the program succeeds or writes. -/
def GoesOn (program : Pmu Result) : Prop :=
  ∀ trace result, program.Run trace result →
    succeeds result ∨ ∃ exchange ∈ trace, IsWrite exchange.request

/-- No run of the program succeeds or writes. -/
abbrev GivesUp (program : Pmu Result) : Prop :=
  Program.Always (fun _ => True) (fun request => ¬IsWrite request) (fun result => ¬succeeds result)
    program

/-- What follows a read that fails, so that it is not told. -/
structure Swallows (program : Pmu Result) : Prop where
  exact : Exact succeeds program
  goesOn : GoesOn succeeds program

variable {succeeds}

theorem exact_pure (result : Result) : Exact succeeds (pure result) := by
  rintro trace other run
  obtain ⟨rfl, rfl⟩ := Program.run_pure_iff.mp run
  exact iff_of_true (errorsTold_nil _) fun _ member => absurd member List.not_mem_nil

theorem swallows_pure {result : Result} (success : succeeds result) :
    Swallows succeeds (pure result) := by
  refine ⟨exact_pure result, fun trace other run => .inl ?_⟩
  obtain ⟨-, rfl⟩ := Program.run_pure_iff.mp run
  exact success

variable {addr data : U8} {error : Result}

/-- A write that fails ends the operation with an error. -/
theorem swallows_writeOr (fails : ¬succeeds error) {next : Pmu Result}
    (exact : Exact succeeds next) : Swallows succeeds (writeOr addr data error next) := by
  rw [writeOr_eq]
  refine ⟨fun trace result run => ?_, fun trace result run => .inr ?_⟩
  · obtain ⟨reply, rest, rfl, behind⟩ := Program.run_call_iff.mp run
    rw [List.forall_mem_cons]
    by_cases failed : reply ≠ 0
    · rw [if_pos failed] at behind
      obtain ⟨rfl, rfl⟩ := Program.run_pure_iff.mp behind
      refine iff_of_true ⟨fun succeeded => absurd succeeded fails, List.pairwise_singleton _ _⟩ ?_
      exact ⟨id, fun _ member => absurd member List.not_mem_nil⟩
    · have written : ¬FailedWrite ⟨.writePmu (addr.setWidth 32) (data.setWidth 32), reply⟩ := failed
      have notRead : ¬FailedRead ⟨.writePmu (addr.setWidth 32) (data.setWidth 32), reply⟩ := id
      rw [if_neg failed] at behind
      rw [errorsTold_cons_iff notRead written, exact rest result behind]
      exact (and_iff_right notRead).symm
  · obtain ⟨reply, rest, rfl, -⟩ := Program.run_call_iff.mp run
    exact ⟨_, List.mem_cons_self, trivial⟩

/-- A read followed by programs that give up or swallow, as the byte says: an error is told exactly
if no read fails or the program gives up. -/
theorem told_readOr_iff (rejects : U8 → Prop) {next : U8 → Pmu Result}
    (givesUp : ∀ value, rejects value → GivesUp succeeds (next value))
    (swallows : ∀ value, ¬rejects value → Swallows succeeds (next value))
    {trace : List PmuExchange} {result : Result}
    (run : (readOr addr error next).Run trace result) :
    ErrorsTold trace (succeeds result) ↔
      (∀ exchange ∈ trace, ¬FailedRead exchange) ∨
        ∃ first rest, trace = first :: rest ∧ rejects (first.reply.setWidth 8) := by
  rw [readOr_eq] at run
  obtain ⟨reply, rest, rfl, behind⟩ := Program.run_call_iff.mp run
  by_cases rejected : rejects (reply.setWidth 8)
  · have quiet := (givesUp _ rejected).run behind fun _ _ => trivial
    refine iff_of_true ⟨fun succeeded => absurd succeeded quiet.2, ?_⟩
      (.inr ⟨_, rest, rfl, rejected⟩)
    refine List.pairwise_cons.mpr ⟨fun later member _ => quiet.1 later member, ?_⟩
    exact List.pairwise_of_forall_mem_list fun _ _ later member _ => quiet.1 later member
  · have other : ¬∃ first rest', (⟨.readPmu (addr.setWidth 32), reply⟩ : PmuExchange) :: rest =
        first :: rest' ∧ rejects (first.reply.setWidth 8) := by
      rintro ⟨first, rest', same, rejects⟩
      cases same
      exact rejected rejects
    obtain ⟨exact, goesOn⟩ := swallows _ rejected
    rw [or_iff_left other, List.forall_mem_cons]
    by_cases failed : FailedRead ⟨.readPmu (addr.setWidth 32), reply⟩
    · refine iff_of_false ?_ fun none => none.1 failed
      rintro ⟨told, careful⟩
      rcases goesOn rest result behind with succeeded | ⟨later, member, write⟩
      · exact (told succeeded _ List.mem_cons_self).1 failed
      · exact (List.pairwise_cons.mp careful).1 later member failed write
    · rw [errorsTold_cons_iff failed id, exact rest result behind]
      exact (and_iff_right failed).symm

theorem swallows_readOr {next : U8 → Pmu Result}
    (swallows : ∀ value, Swallows succeeds (next value)) :
    Swallows succeeds (readOr addr error next) := by
  refine ⟨fun trace result run => ?_, fun trace result run => ?_⟩
  · refine (told_readOr_iff (fun _ => False) nofun
      (fun value _ => swallows value) run).trans (or_iff_left ?_)
    rintro ⟨_, _, _, rejected⟩
    exact rejected
  · rw [readOr_eq] at run
    obtain ⟨reply, rest, rfl, behind⟩ := Program.run_call_iff.mp run
    refine ((swallows _).goesOn rest result behind).imp_right ?_
    rintro ⟨later, member, write⟩
    exact ⟨later, List.mem_cons_of_mem _ member, write⟩

theorem exact_map {Other : Type} {succeedsOther : Other → Prop} {change : Result → Other}
    {program : Pmu Result} (exact : Exact (fun result => succeedsOther (change result)) program) :
    Exact succeedsOther (change <$> program) := by
  intro trace other run
  obtain ⟨result, inner, rfl⟩ := Program.run_map_iff.mp run
  exact exact trace result inner

/-! ### Loops over registers -/

/-- A read goes on with what comes behind it. -/
theorem bind_readOr {Other : Type} (next : U8 → Pmu Result) (last : Result → Pmu Other)
    (other : Other) :
    readOr addr error next >>= last = readOr addr other fun value => next value >>= last := by
  rw [readOr_eq, readOr_eq]
  rfl

theorem bind_writeOr {Other : Type} {other : Other} (next : Pmu Result)
    {last : Result → Pmu Other} (ends : last error = pure other) :
    writeOr addr data error next >>= last = writeOr addr data other (next >>= last) := by
  rw [writeOr_eq, writeOr_eq]
  refine congrArg (Program.call _) (funext fun reply => ?_)
  show (if reply ≠ 0 then pure error else next) >>= last = _
  by_cases failed : reply ≠ 0
  · rw [if_pos failed, if_pos failed, pure_bind, ends]
  · rw [if_neg failed, if_neg failed]

theorem swallows_readEach {next : Ulong × List U8 → Pmu Result} (other : Result) (count : Nat)
    (swallows : ∀ bytes, Swallows succeeds (next (efiSuccess, bytes))) :
    Swallows succeeds (readEach addr count >>= next) := by
  induction count generalizing addr next with
  | zero => exact swallows []
  | succ count inductionHypothesis =>
    unfold readEach
    rw [bind_readOr _ _ other]
    refine swallows_readOr fun value => ?_
    rw [bind_assoc]
    simp only [pure_bind]
    exact inductionHypothesis fun bytes => swallows (value :: bytes)

variable (error) in
theorem swallows_writeEach {next : Ulong → Pmu Result} (swallows : Swallows succeeds (next efiSuccess))
    (ends : next efiDeviceError = pure error) (fails : ¬succeeds error) (values : List U8) :
    Swallows succeeds (writeEach addr values >>= next) := by
  induction values generalizing addr with
  | nil => exact swallows
  | cons value rest inductionHypothesis =>
    unfold writeEach
    rw [bind_writeOr _ ends]
    exact swallows_writeOr fails inductionHypothesis.exact

variable (error) in
/-- All five pending bytes are read, and then all are cleared. -/
theorem swallows_intPending {next : Ulong × List U8 → Pmu Result}
    (swallows : ∀ bytes, Swallows succeeds (next (efiSuccess, bytes)))
    (ends : ∀ bytes, next (efiDeviceError, bytes) = pure error) (fails : ¬succeeds error) :
    Swallows succeeds (rawAxp81XProbeIntPending >>= next) := by
  unfold rawAxp81XProbeIntPending
  rw [bind_assoc]
  refine swallows_readEach error 5 fun bytes => ?_
  dsimp only
  rw [if_neg (fun other => other rfl), bind_assoc]
  simp only [pure_bind]
  exact swallows_writeEach error (swallows bytes) (ends bytes) fails _

end Programs

/-! ### Each operation -/

/-- In every run, errors are told exactly if no read fails or the byte of the first is rejected. -/
def ExactBut {Result : Type} (succeeds : Result → Prop) (rejects : U8 → Prop)
    (program : Pmu Result) : Prop :=
  ∀ trace result, program.Run trace result →
    (ErrorsTold trace (succeeds result) ↔
      (∀ exchange ∈ trace, ¬FailedRead exchange) ∨
        ∃ first rest, trace = first :: rest ∧ rejects (first.reply.setWidth 8))

section Operations

variable {Result : Type} {succeeds : Result → Prop}

theorem Exact.exactBut {program : Pmu Result} (exact : Exact succeeds program) :
    ExactBut succeeds (fun _ => False) program := by
  intro trace result run
  refine (exact trace result run).trans (or_iff_left ?_).symm
  rintro ⟨_, _, _, rejected⟩
  exact rejected

theorem exactBut_map {Other : Type} {succeedsOther : Other → Prop} {change : Result → Other}
    {rejects : U8 → Prop} {program : Pmu Result}
    (exact : ExactBut (fun result => succeedsOther (change result)) rejects program) :
    ExactBut succeedsOther rejects (change <$> program) := by
  intro trace other run
  obtain ⟨result, inner, rfl⟩ := Program.run_map_iff.mp run
  exact exact trace result inner

theorem exactBut_readOr {addr : U8} {error : Result} {rejects : U8 → Prop} {next : U8 → Pmu Result}
    (givesUp : ∀ value, rejects value → GivesUp succeeds (next value))
    (swallows : ∀ value, ¬rejects value → Swallows succeeds (next value)) :
    ExactBut succeeds rejects (readOr addr error next) :=
  fun _ _ run => told_readOr_iff _ givesUp swallows run

theorem givesUp_pure {result : Result} (fails : ¬succeeds result) :
    GivesUp succeeds (pure result) := fails

/-- The status is success. -/
def IsSuccess (status : Ulong) : Prop := status = efiSuccess

/-- The status beside a value is success. -/
def IsSuccessWith (found : Ulong × Ulong) : Prop := IsSuccess found.1

theorem deviceError_fails : ¬IsSuccess efiDeviceError := by
  unfold IsSuccess
  decide

theorem success_succeeds : IsSuccess efiSuccess := rfl

theorem swallows_changeOr {addr : U8} {change : U8 → U8} {next : Pmu Ulong}
    (exact : Exact IsSuccess next) : Swallows IsSuccess (changeOr addr change next) :=
  swallows_readOr fun _ => swallows_writeOr deviceError_fails exact

end Operations

/-! ### Supplies -/

/-- What takes the errors and the voltages of the supplies for failures, and nothing else has to be
known of a test of a status. -/
structure StatusTest (succeeds : Ulong → Prop) : Prop where
  success : succeeds efiSuccess
  deviceError : ¬succeeds efiDeviceError
  minusOne : ¬succeeds PinePhonePkg.minusOne
  voltage : ∀ value ∈ Set.Ioo (0 : Int) (2 ^ 31), ¬succeeds (BitVec.ofInt 64 value)

theorem statusTest_success : StatusTest IsSuccess where
  success := success_succeeds
  deviceError := deviceError_fails
  minusOne := by
    unfold IsSuccess
    decide
  voltage := fun _ inside => (throughInt_ofInt inside).2

/-- The errors stay errors when they go through an int. -/
theorem StatusTest.throughInt {succeeds : Ulong → Prop} (test : StatusTest succeeds) :
    StatusTest fun status => succeeds (throughInt status) where
  success := test.success
  deviceError := test.voltage 7 (by decide)
  minusOne := test.minusOne
  voltage := fun value inside => by
    rw [(throughInt_ofInt inside).1]
    exact test.voltage value inside

theorem swallows_setSwitch {succeeds : Ulong → Prop} {field : StateField} {error : Ulong}
    (fails : ¬succeeds error) (onoff : Int) : Swallows succeeds (setSwitch field error onoff) :=
  swallows_readOr fun _ => swallows_writeOr fails (exact_pure _)

section Supplies

variable {succeeds : Ulong → Prop} (test : StatusTest succeeds)
include test

theorem StatusTest.setSupply (regulator : Regulator) (setVol onoff : Int) :
    Swallows succeeds (setSupply regulator.setter setVol onoff) := by
  have error : ∀ error, error = efiDeviceError ∨ error = PinePhonePkg.minusOne →
      ¬succeeds error := by
    rintro error (rfl | rfl)
    · exact test.deviceError
    · exact test.minusOne
  have voltageFails : ¬succeeds regulator.setter.voltageError := by
    refine error _ ?_
    cases regulator <;> decide
  have stateFails : ¬succeeds regulator.setter.stateWriteError := by
    refine error _ ?_
    cases regulator <;> decide
  have state : Swallows succeeds (regulator.setter.onOff onoff) := by
    unfold SupplySetter.onOff
    split
    · exact swallows_pure test.success
    · exact swallows_readOr fun _ => swallows_writeOr stateFails (exact_pure _)
  unfold PinePhonePkg.setSupply
  split
  · exact swallows_readOr fun _ => swallows_writeOr voltageFails state.exact
  · exact state

theorem StatusTest.setLevel (field : StateField) (level : Int) :
    Swallows succeeds (setLevel field level) := by
  unfold PinePhonePkg.setLevel
  split
  · exact swallows_pure test.success
  · exact swallows_setSwitch test.minusOne level

theorem StatusTest.voltageGivesUp (regulator : Regulator) (byte : U8) :
    GivesUp succeeds
      (pure (BitVec.ofInt 64
        (regulator.prober.voltage (byte &&& regulator.prober.voltageMask).toNat))) :=
  givesUp_pure (test.voltage _ (regulator.voltage_mem byte))

end Supplies

/-- Errors of a call are told exactly if no read fails. -/
theorem exact_rule (setVol onoff : Int) :
    SupplyRule setVol onoff fun program _ =>
      ∀ succeeds, StatusTest succeeds → Exact succeeds program where
  regulator := fun regulator _ test => (test.setSupply regulator setVol onoff).exact
  dc1sw := fun _ test => (swallows_setSwitch test.deviceError onoff).exact
  dc5ldo := fun _ test => (swallows_setSwitch test.deviceError onoff).exact
  pin := fun pin _ test => (test.setLevel pin.state onoff).exact
  missing := fun status _ _ => exact_pure status
  throughInt := fun _ _ exact _ test => exact_map (exact _ test.throughInt)

/-- The bytes of the first read that end a probe with a status other than success -/
def Named.rejects : Option Named → U8 → Prop
  | some (.supply (.regulator which)), byte => which.AtPin ∨ byte &&& which.prober.stateMask ≠ 0
  | some (.pin _), byte => byte &&& 7 ≠ 0
  | _, _ => False

theorem exactBut_probeLevel {succeeds : Ulong → Prop} (test : StatusTest succeeds) (register : U8) :
    ExactBut succeeds (fun byte => byte &&& 7 ≠ 0) (probeLevel register) := by
  refine exactBut_readOr (fun value some => ?_) fun value none => ?_
  · dsimp only
    split
    · next level =>
      have one : value &&& 7 = 1 := level.resolve_left some
      rw [one]
      exact givesUp_pure (test.voltage 1 (by decide))
    · exact givesUp_pure test.minusOne
  · have zero : value &&& 7 = 0 := not_not.mp none
    dsimp only
    rw [zero, if_pos (.inl rfl)]
    exact swallows_pure test.success

theorem exactBut_probe {succeeds : Ulong → Prop} (test : StatusTest succeeds)
    (regulator : Regulator) :
    ExactBut succeeds (Named.rejects (some (.regulator regulator))) regulator.probe := by
  have voltage := test.voltageGivesUp regulator
  unfold Regulator.probe Named.rejects
  by_cases atPin : regulator.AtPin
  · rw [if_pos atPin]
    exact exactBut_readOr (fun value _ => voltage value) fun value kept => absurd (.inl atPin) kept
  · rw [if_neg atPin]
    refine exactBut_readOr (fun value rejected => ?_) fun value kept => ?_
    · rw [if_neg (rejected.resolve_left atPin)]
      unfold SupplyProber.readVoltage
      rw [readOr_eq]
      exact ⟨id, fun reply _ => voltage _⟩
    · rw [if_pos (not_not.mp fun some => kept (.inr some))]
      exact swallows_pure test.success

/-- Errors of a probe are told exactly if no read fails or the first byte is rejected. -/
theorem exactBut_rule :
    ProbeRule fun program named =>
      ∀ succeeds, StatusTest succeeds → ExactBut succeeds (Named.rejects named) program where
  regulator := fun regulator _ test => exactBut_probe test regulator
  gpio0 := fun _ test => exactBut_probeLevel test gpio0Ctl
  gpio1 := fun _ test => exactBut_probeLevel test gpio1Ctl
  missing := fun status _ _ => (exact_pure status).exactBut
  throughInt := fun _ _ exact _ test => exactBut_map (exact _ test.throughInt)

/-! ### All operations -/

/-- The operations of the protocol, with what a pointer of the caller holds before -/
inductive AxpOperation : Type where
  | probe
  | setSupplyStatus (voltageIndex voltage onOff : Ulong)
  | setSupplyStatusByName (voltageName : List U8) (voltage onOff : Ulong)
  | probeSupplyStatus (voltageIndex voltage onOff : Ulong)
  | probeSupplyStatusByName (volName : List U8)
  | setNextSysMode (status : Ulong)
  | probePreSysMode (status : Ulong)
  | probeThisPowerOnCause (status : Ulong)
  | probePowerBusExistance
  | probeBatteryVoltage (voltage : Ulong)
  | probeBatteryRatio (ratio : Ulong)
  | probeBatteryExistance
  | probePowerKey (pressed : Ulong)
  | setPowerOff
  | setPowerOnoffVoltage (voltage stage : Ulong)
  | setChargerOnOff (onOff : Ulong)
  | setVbusCurrentLimit (current : Ulong)
  | probeVbusCurrentLimit (current : Ulong)
  | setVbusVoltagelimit (voltage : Ulong)
  | setChargeCurrent (current : Ulong)
  | probeChargeCurrent (current : Ulong)
  | probeIntPending
  | probeIntEnable (intMask : Ulong)
  | setIntEnable (intMask : Ulong)
  | setIntDisable (intMask : Ulong)
  | setCoulombmeterOnOff (onOff : Ulong)

/-- The status of the operation -/
def AxpOperation.status : AxpOperation → Pmu Ulong
  | .probe => axp81XProbe
  | .setSupplyStatus voltageIndex voltage onOff => axp81XSetSupplyStatus voltageIndex voltage onOff
  | .setSupplyStatusByName voltageName voltage onOff =>
    axp81XSetSupplyStatusByName voltageName voltage onOff
  | .probeSupplyStatus voltageIndex voltage onOff =>
    Prod.fst <$> axp81XProbeSupplyStatus voltageIndex voltage onOff
  | .probeSupplyStatusByName volName => Prod.fst <$> axp81XProbeSupplyStatusByName volName
  | .setNextSysMode status => axp81XSetNextSysMode status
  | .probePreSysMode status => Prod.fst <$> axp81XProbePreSysMode status
  | .probeThisPowerOnCause status => Prod.fst <$> axp81XProbeThisPowerOnCause status
  | .probePowerBusExistance => Prod.fst <$> axp81XProbePowerBusExistance
  | .probeBatteryVoltage voltage => Prod.fst <$> axp81XProbeBatteryVoltage voltage
  | .probeBatteryRatio ratio => Prod.fst <$> axp81XProbeBatteryRatio ratio
  | .probeBatteryExistance => Prod.fst <$> axp81XProbeBatteryExistance
  | .probePowerKey pressed => Prod.fst <$> axp81XProbePowerKey pressed
  | .setPowerOff => axp81XSetPowerOff
  | .setPowerOnoffVoltage voltage stage => axp81XSetPowerOnoffVoltage voltage stage
  | .setChargerOnOff onOff => axp81XSetChargerOnOff onOff
  | .setVbusCurrentLimit current => axp81XSetVbusCurrentLimit current
  | .probeVbusCurrentLimit current => Prod.fst <$> axp81XProbeVbusCurrentLimit current
  | .setVbusVoltagelimit voltage => axp81XSetVbusVoltagelimit voltage
  | .setChargeCurrent current => axp81XSetChargeCurrent current
  | .probeChargeCurrent current => Prod.fst <$> axp81XProbeChargeCurrent current
  | .probeIntPending => Prod.fst <$> axp81XProbeIntPending
  | .probeIntEnable intMask => Prod.fst <$> axp81XProbeIntEnable intMask
  | .setIntEnable intMask => axp81XSetIntEnable intMask
  | .setIntDisable intMask => axp81XSetIntDisable intMask
  | .setCoulombmeterOnOff onOff => axp81XSetCoulombmeterOnOff onOff

/-- The operation takes the byte of its first read for that of another chip, for no battery, or
ends a probe of a supply with a status other than success. -/
def AxpOperation.rejects : AxpOperation → U8 → Prop
  | .probe, byte => byte &&& 0xCF ≠ 0x41
  | .probeBatteryExistance, byte => byte &&& 0x10 = 0
  | .probeSupplyStatusByName volName, byte => Named.rejects (probedByName volName) byte
  | _, _ => False

section Each

variable {Result : Type} {addr : U8}

/-- A program over pairs, by its status -/
theorem exactBut_fst {rejects : U8 → Prop} {program : Pmu (Ulong × Ulong)}
    (exact : ExactBut IsSuccessWith rejects program) :
    ExactBut IsSuccess rejects (Prod.fst <$> program) := by
  intro trace status run
  obtain ⟨found, inner, rfl⟩ := Program.run_map_iff.mp run
  exact exact trace found inner

/-- A probe of one register that always succeeds -/
theorem exactBut_probeOne (error : Ulong × Ulong) (result : U8 → Ulong) :
    ExactBut IsSuccess (fun _ => False)
      (Prod.fst <$> readOr addr error fun value => pure (efiSuccess, result value)) :=
  have swallows : Swallows IsSuccessWith
      (readOr addr error fun value => pure (efiSuccess, result value)) :=
    swallows_readOr fun _ => swallows_pure success_succeeds
  exactBut_fst swallows.exact.exactBut

theorem exactBut_changeOne (change : U8 → U8) :
    ExactBut IsSuccess (fun _ => False) (changeOr addr change (pure efiSuccess)) :=
  (swallows_changeOr (exact_pure efiSuccess)).exact.exactBut

theorem exactBut_axp81XProbe :
    ExactBut IsSuccess (fun byte => byte &&& 0xCF ≠ 0x41) axp81XProbe := by
  refine exactBut_readOr (fun value other => ?_) fun value same => ?_
  · rw [if_neg other]
    exact givesUp_pure deviceError_fails
  · rw [if_pos (not_not.mp same)]
    refine swallows_writeEach efiDeviceError ?_ ?_ deviceError_fails _
    · rw [if_neg (fun other => other rfl)]
      exact swallows_intPending efiDeviceError (fun _ => swallows_pure success_succeeds)
        (fun _ => rfl) deviceError_fails
    · rfl

theorem swallows_probeBatteryVoltage (voltage : Ulong) :
    Swallows IsSuccessWith (axp81XProbeBatteryVoltage voltage) := by
  refine swallows_readOr fun valueH => swallows_readOr fun valueL => ?_
  exact swallows_pure success_succeeds

theorem swallows_setChargerOnOff (onOff : Ulong) :
    Swallows IsSuccess (axp81XSetChargerOnOff onOff) := by
  unfold axp81XSetChargerOnOff
  refine swallows_changeOr (swallows_changeOr ?_).exact
  exact exact_pure efiSuccess

theorem swallows_probePowerKey (pressed : Ulong) :
    Swallows IsSuccessWith (axp81XProbePowerKey pressed) := by
  refine swallows_readOr fun value => ?_
  dsimp only
  split
  · have fails : ¬IsSuccessWith (efiDeviceError, pressed) := deviceError_fails
    exact swallows_writeOr fails (exact_pure _)
  · exact swallows_pure success_succeeds

theorem exactBut_probeBatteryExistance :
    ExactBut IsSuccessWith (fun byte => byte &&& 0x10 = 0) axp81XProbeBatteryExistance := by
  refine exactBut_readOr (fun value none => ?_) fun value some => ?_
  · rw [if_neg (fun some => some none)]
    exact givesUp_pure deviceError_fails
  · rw [if_pos some]
    exact swallows_pure success_succeeds

theorem swallows_probeIntPending : Swallows IsSuccessWith axp81XProbeIntPending := by
  have fails : ¬IsSuccessWith (efiDeviceError, 0) := deviceError_fails
  refine swallows_intPending (efiDeviceError, 0) (fun bytes => ?_) (fun bytes => rfl) fails
  exact swallows_pure success_succeeds

theorem swallows_probeIntEnable (intMask : Ulong) :
    Swallows IsSuccessWith (axp81XProbeIntEnable intMask) := by
  refine swallows_readEach (efiDeviceError, intMask) 5 fun bytes => ?_
  exact swallows_pure success_succeeds

theorem swallows_setInts (change : List U8 → List U8) :
    Swallows IsSuccess (do
      let (status, intEnable) ← rawAxp81XProbeIntEnable
      if status ≠ 0 then
        return status
      rawAxp81XSetIntEnable (change intEnable)) := by
  refine swallows_readEach efiDeviceError 5 fun bytes => ?_
  dsimp only
  rw [if_neg (fun other => other rfl)]
  unfold rawAxp81XSetIntEnable
  rw [← bind_pure (writeEach inten1 (change bytes))]
  exact swallows_writeEach efiDeviceError (swallows_pure success_succeeds) rfl deviceError_fails _

theorem AxpOperation.exactBut (operation : AxpOperation) :
    ExactBut IsSuccess operation.rejects operation.status := by
  cases operation with
  | probe => exact exactBut_axp81XProbe
  | setSupplyStatus voltageIndex voltage onOff =>
    exact ((exact_rule _ _).index voltageIndex _ statusTest_success).exactBut
  | setSupplyStatusByName voltageName voltage onOff =>
    exact ((exact_rule _ _).name voltageName _ statusTest_success).exactBut
  | probeSupplyStatus voltageIndex voltage onOff =>
    exact (exact_map (exact_pure _)).exactBut
  | probeSupplyStatusByName volName =>
    have same : Prod.fst <$> axp81XProbeSupplyStatusByName volName = probedStatus volName := by
      simp [axp81XProbeSupplyStatusByName]
    show ExactBut IsSuccess _ (Prod.fst <$> axp81XProbeSupplyStatusByName volName)
    rw [same]
    exact exactBut_rule.name volName _ statusTest_success
  | setNextSysMode status =>
    exact (swallows_writeOr deviceError_fails (exact_pure _)).exact.exactBut
  | probePreSysMode | probeThisPowerOnCause | probePowerBusExistance => exact exactBut_probeOne _ _
  | probeBatteryVoltage voltage =>
    exact exactBut_fst (swallows_probeBatteryVoltage voltage).exact.exactBut
  | probeBatteryRatio ratio => exact exactBut_probeOne _ _
  | probeBatteryExistance => exact exactBut_fst exactBut_probeBatteryExistance
  | probePowerKey pressed => exact exactBut_fst (swallows_probePowerKey pressed).exact.exactBut
  | setPowerOff =>
    unfold AxpOperation.status axp81XSetPowerOff
    exact exactBut_changeOne _
  | setPowerOnoffVoltage voltage stage =>
    unfold AxpOperation.status axp81XSetPowerOnoffVoltage
    exact exactBut_changeOne _
  | setChargerOnOff onOff => exact (swallows_setChargerOnOff onOff).exact.exactBut
  | setVbusCurrentLimit current =>
    unfold AxpOperation.status axp81XSetVbusCurrentLimit
    exact exactBut_changeOne _
  | probeVbusCurrentLimit current => exact exactBut_probeOne _ _
  | setVbusVoltagelimit voltage =>
    unfold AxpOperation.status axp81XSetVbusVoltagelimit
    exact exactBut_changeOne _
  | setChargeCurrent current =>
    unfold AxpOperation.status axp81XSetChargeCurrent
    exact exactBut_changeOne _
  | probeChargeCurrent current => exact exactBut_probeOne _ _
  | probeIntPending => exact exactBut_fst swallows_probeIntPending.exact.exactBut
  | probeIntEnable intMask => exact exactBut_fst (swallows_probeIntEnable intMask).exact.exactBut
  | setIntEnable intMask => exact (swallows_setInts (enableInts intMask)).exact.exactBut
  | setIntDisable intMask => exact (swallows_setInts (disableInts intMask)).exact.exactBut
  | setCoulombmeterOnOff onOff =>
    unfold AxpOperation.status axp81XSetCoulombmeterOnOff
    exact exactBut_changeOne _

end Each

/-- Errors of the bus are told exactly if no read of the run fails or the operation rejects the
byte of the first. -/
theorem bus_errors_told_iff (operation : AxpOperation) {trace : List PmuExchange} {status : Ulong}
    (run : operation.status.Run trace status) :
    ErrorsTold trace (status = efiSuccess) ↔
      (∀ exchange ∈ trace, ¬FailedRead exchange) ∨
        ∃ first rest, trace = first :: rest ∧ operation.rejects (first.reply.setWidth 8) :=
  operation.exactBut trace status run

/-- dcdc1 is switched on and its register cannot be read: the low byte of -1 is written back. -/
def failedReadTrace : List PmuExchange :=
  [⟨.readPmu 0x10, 0xffffffff⟩, ⟨.writePmu 0x10 0xff, 0⟩]

/-- No register can be read, and every one can be written. -/
def serveFailedReads : (request : PmuRequest) → Unit → U32 × Unit
  | .readPmu _, state => (0xffffffff, state)
  | .writePmu _ _, state => (0, state)

/-- Every register reads as 16, and none can be written. -/
def serveFailedWrites : (request : PmuRequest) → Unit → U32 × Unit
  | .readPmu _, state => (0x10, state)
  | .writePmu _ _, state => (0xffffffff, state)

/-- A write that fails is told, and so is a failed read of the chip's type, as no chip has the type of
its low byte. -/
theorem bus_errors_told_iff_failures :
    ErrorsTold [⟨.readPmu 0x10, 0x10⟩, ⟨.writePmu 0x10 0x11, 0xffffffff⟩]
        (efiDeviceError = efiSuccess) ∧
      ErrorsTold [⟨.readPmu 0x03, 0xffffffff⟩] (efiDeviceError = efiSuccess) := by
  constructor
  · have run : (AxpOperation.setSupplyStatus 0x00010001 0 1).status.Run
        [⟨.readPmu 0x10, 0x10⟩, ⟨.writePmu 0x10 0x11, 0xffffffff⟩] efiDeviceError :=
      Program.run_exec serveFailedWrites (AxpOperation.setSupplyStatus 0x00010001 0 1).status ()
    refine (bus_errors_told_iff (.setSupplyStatus 0x00010001 0 1) run).mpr (.inl ?_)
    intro exchange member
    rcases List.mem_pair.mp member with rfl | rfl
    · exact Bool.false_ne_true
    · exact id
  · have run : AxpOperation.probe.status.Run [⟨.readPmu 0x03, 0xffffffff⟩] efiDeviceError :=
      Program.run_exec serveFailedReads AxpOperation.probe.status ()
    have rejected : (0xff : U8) &&& 0xCF ≠ 0x41 := by decide
    exact (bus_errors_told_iff .probe run).mpr (.inr ⟨_, [], rfl, rejected⟩)

theorem bus_errors_not_told :
    (AxpOperation.setSupplyStatus 0x00010001 0 1).status.Run failedReadTrace efiSuccess ∧
      ¬ErrorsTold failedReadTrace (efiSuccess = efiSuccess) := by
  refine ⟨?_, fun told => ?_⟩
  · exact Program.run_exec serveFailedReads (AxpOperation.setSupplyStatus 0x00010001 0 1).status ()
  · have failed : FailedRead ⟨.readPmu 0x10, 0xffffffff⟩ := rfl
    exact (told.told rfl _ List.mem_cons_self).1 failed

end PinePhonePkg
