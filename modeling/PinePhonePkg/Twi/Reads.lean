/-
This file follows the bytes that a transfer reads: each one is stored at its place, and
all but the last are acknowledged. For a length that fits into 32 bits, the loop ends.
A single byte is acknowledged as the control register says.
-/

import PinePhonePkg.Twi.Steps

namespace PinePhonePkg

open Library Program

namespace Twi

/-! ### One byte -/

/-- The program performs the expected step and stores its byte at a place, or returns an error. The
rest of the buffer stays as it is. -/
def Fetches (program : TwiProgram (Ulong × Memory U8)) (expected : Expected) (place : Nat)
    (data : Memory U8) (controller : TwiController) : Prop :=
  (∃ after, exec serveTwi program controller =
      ((0, Function.update data place controller.answer.byte), after) ∧
    Took expected controller after) ∨
  ∃ ret left after, exec serveTwi program controller = ((ret, left), after) ∧ ret ≠ 0 ∧
    Failed expected controller after ∧ ∀ other, other ≠ place → left other = data other

section Bytes

variable {acking : Bool} {received : List U8} {controller : TwiController} (data : Memory U8)

theorem byte_of_word (byte : U8) : (byte.setWidth 32 : U32).setWidth 8 = byte := by
  rw [BitVec.setWidth_setWidth_of_le _ (by decide), BitVec.setWidth_eq]

/-- The bit that acknowledges a byte is the one that the control register has. -/
theorem fetches_single (talking : Talking .receive acking received controller) :
    Fetches (getSingleData data) (.receive acking twiDatareadNack) 0 data controller := by
  obtain ⟨flag, stop, start, bit⟩ := flag_written talking.ready
  have way := underWay_receive talking.ready talking.mode flag stop start talking.clears
    talking.clears twiDatareadNack
  rw [bit, talking.acking] at way
  have long : 3 ≤ 0xffff := by decide
  unfold Fetches getSingleData
  rw [exec_readCtl, exec_writeCtl, tick_up talking.ready.phase, exec_bind]
  rcases way.waited (Nat.le_refl 1) long with
    ⟨after, ran, took, word⟩ | ⟨after, ran, other, failed⟩ | ⟨after, ran, failed⟩
  · have right : after.status = twiDatareadNack := took.status
    rw [ran]
    dsimp only
    rw [if_neg (by decide), exec_readData, word, byte_of_word, exec_readStatus,
      if_neg (not_not.mpr right)]
    exact .inl ⟨after, rfl, took⟩
  · have wrong : after.status ≠ twiDatareadNack := other
    rw [ran]
    dsimp only
    rw [if_neg (by decide), exec_readData, exec_readStatus, if_pos wrong]
    exact .inr ⟨_, _, after, rfl, by decide, failed,
      fun other beside => Function.update_of_ne beside _ _⟩
  · rw [ran]
    exact .inr ⟨_, _, after, rfl, by decide, failed, fun _ _ => rfl⟩

/-- The bits that are written to acknowledge a byte -/
theorem ack_written (ready : Ready controller) :
    ((controller.shownCtl &&& 0xf7) ||| 0x04).getLsbD 3 = false ∧
      ((controller.shownCtl &&& 0xf7) ||| 0x04).getLsbD 4 = false ∧
      ((controller.shownCtl &&& 0xf7) ||| 0x04).getLsbD 5 = false ∧
      ((controller.shownCtl &&& 0xf7) ||| 0x04).getLsbD 2 = true := by
  refine ⟨?_, ?_, ?_, ?_⟩
  · rw [BitVec.getLsbD_or, BitVec.getLsbD_and]
    exact congrArg (· || false) (Bool.and_false _)
  · rw [BitVec.getLsbD_or, BitVec.getLsbD_and, shown_stop, ready.stop]
    rfl
  · rw [BitVec.getLsbD_or, BitVec.getLsbD_and, shown_start, ready.start]
    rfl
  · rw [BitVec.getLsbD_or]
    exact Bool.or_true _

/-- The bits that are written so that a byte is not acknowledged, at first -/
theorem nack_written (ready : Ready controller) :
    (controller.shownCtl &&& 0xfb).getLsbD 3 = true ∧
      (controller.shownCtl &&& 0xfb).getLsbD 4 = false ∧
      (controller.shownCtl &&& 0xfb).getLsbD 5 = false ∧
      (controller.shownCtl &&& 0xfb).getLsbD 2 = false := by
  refine ⟨?_, ?_, ?_, ?_⟩
  · rw [BitVec.getLsbD_and, shown_flag ready.phase]
    rfl
  · rw [BitVec.getLsbD_and, shown_stop, ready.stop]
    rfl
  · rw [BitVec.getLsbD_and, shown_start, ready.start]
    rfl
  · rw [BitVec.getLsbD_and]
    exact Bool.and_false _

/-- The last byte of more than one -/
theorem fetches_last (talking : Talking .receive acking received controller) (count : Ulong) :
    Fetches (getLastData count data) (.receive false twiDatareadNack) (count - 1).toNat data
      controller := by
  obtain ⟨flag, stop, start, bit⟩ := nack_written talking.ready
  have first := underWay_receive talking.ready talking.mode flag stop start talking.clears
    talking.clears twiDatareadNack
  rw [bit] at first
  have way := first.again
  have long : 3 ≤ 0xffff := by decide
  unfold Fetches getLastData
  rw [exec_readCtl, exec_writeCtl, tick_up talking.ready.phase, exec_readCtl, exec_writeCtl,
    exec_bind]
  rcases way.waited (Nat.zero_le 1) long with
    ⟨after, ran, took, word⟩ | ⟨after, ran, other, failed⟩ | ⟨after, ran, failed⟩
  · rw [ran]
    dsimp only
    rw [if_neg (by decide), exec_readData, word, byte_of_word, exec_bind,
      exec_waitStatus _ (by decide : 2 ≤ 100), took.status]
    exact .inl ⟨after, rfl, took⟩
  · have wrong : after.status ≠ twiDatareadNack := other
    rw [ran]
    dsimp only
    rw [if_neg (by decide), exec_readData, exec_bind,
      exec_waitStatus _ (by decide : 2 ≤ 100), decide_eq_true wrong]
    exact .inr ⟨_, _, after, rfl, by decide, failed,
      fun other beside => Function.update_of_ne beside _ _⟩
  · rw [ran]
    exact .inr ⟨_, _, after, rfl, by decide, failed, fun _ _ => rfl⟩

/-! ### The loop -/

/-- One round: it stores a byte and goes on, or it sees an error. -/
theorem exec_getDataLoop (talking : Talking .receive acking received controller)
    (fresh : controller.clears false = true ∨ controller.status ≠ twiDatareadAck)
    {count : Ulong} {i : U32} (inside : i.setWidth 64 < count - 1) (rounds : Nat) :
    (∃ after, exec serveTwi (getDataLoop count (rounds + 1) i data) controller =
        exec serveTwi (getDataLoop count rounds (i + 1)
          (Function.update data i.toNat controller.answer.byte)) after ∧
      Took (.receive true twiDatareadAck) controller after ∧ controller.clears false = true) ∨
    ∃ left after, exec serveTwi (getDataLoop count (rounds + 1) i data) controller =
        (some (false, left), after) ∧ Failed (.receive true twiDatareadAck) controller after ∧
      ∀ other, other ≠ i.toNat → left other = data other := by
  obtain ⟨flag, stop, start, bit⟩ := ack_written talking.ready
  have long : 3 ≤ 0xffff := by decide
  have up := talking.ready.phase
  rw [getDataLoop, if_pos inside, exec_readCtl, tick_up up, exec_readCtl, exec_writeCtl,
    tick_up up, exec_bind]
  cases clears : controller.clears false with
  | true =>
    have way := underWay_receive talking.ready talking.mode flag stop start clears
      talking.clears twiDatareadAck
    rw [bit] at way
    rcases way.waited (Nat.le_refl 1) long with
      ⟨after, ran, took, word⟩ | ⟨after, ran, other, failed⟩ | ⟨after, ran, failed⟩
    · rw [ran]
      dsimp only
      rw [if_neg (by decide), exec_readData, word, byte_of_word, exec_bind,
        exec_waitStatus _ (by decide : 2 ≤ 0xffff), took.status]
      exact .inl ⟨after, rfl, took, rfl⟩
    · have wrong : after.status ≠ twiDatareadAck := other
      rw [ran]
      dsimp only
      rw [if_neg (by decide), exec_readData, exec_bind,
        exec_waitStatus _ (by decide : 2 ≤ 0xffff), decide_eq_true wrong]
      exact .inr ⟨_, after, rfl, failed, fun other beside => Function.update_of_ne beside _ _⟩
    · rw [ran]
      exact .inr ⟨_, after, rfl, failed, fun _ _ => rfl⟩
  | false =>
    obtain ⟨⟨shown, status⟩, failed⟩ := failed_of_still (.receive true twiDatareadAck)
      talking.ready flag stop start clears controller.data
    have other : controller.status ≠ twiDatareadAck :=
      fresh.resolve_left fun taken => Bool.false_ne_true (clears.symm.trans taken)
    rw [exec_waitFlag_up shown (by decide : 2 ≤ 0xffff)]
    dsimp only
    rw [if_neg (by decide), exec_readData, exec_bind,
      exec_waitStatus _ (by decide : 2 ≤ 0xffff)]
    dsimp only
    rw [status, decide_eq_true other]
    exact .inr ⟨_, _, rfl, failed, fun other beside => Function.update_of_ne beside _ _⟩

/-- The controller behind a byte that was received -/
theorem Took.talking_receive {acknowledged : Bool} {status : U32} {after : TwiController}
    (took : Took (.receive acknowledged status) controller after)
    (talking : Talking .receive acking received controller) :
    Talking .receive acknowledged (received ++ [controller.answer.byte]) after where
  ready := took.ready
  mode := took.mode.trans talking.mode
  clears := by rw [took.clears]; exact talking.clears
  acking := took.acking
  received := by
    rw [took.received, talking.received]
    rfl

/-- The loop over all bytes but the last, from a byte on: it ends, and if every byte is
acknowledged, they are in the buffer. -/
theorem exec_getDataLoop_all {count : Ulong} (short : (count - 1).toNat < 2 ^ 32) {left i : Nat}
    (there : i + left = (count - 1).toNat) (talking : Talking .receive acking received controller)
    (fresh : controller.clears false = true ∨ controller.status ≠ twiDatareadAck) :
    ∃ well stored after, exec serveTwi
        (getDataLoop count (left + 1) (BitVec.ofNat 32 i) data) controller =
          (some (well, stored), after) ∧
      Script Took Failed (List.replicate left (.receive true twiDatareadAck)) controller after
        well ∧
      (∀ place, place < i ∨ (count - 1).toNat ≤ place → stored place = data place) ∧
      (well = true → ∃ bit,
        Talking .receive bit (received ++ (List.range' i left).map stored) after) := by
  have index : ∀ {place : Nat}, place ≤ (count - 1).toNat →
      ((BitVec.ofNat 32 place : U32).setWidth 64 : Ulong).toNat = place := by
    intro place inside
    rw [BitVec.toNat_setWidth, BitVec.toNat_ofNat]
    omega
  induction left generalizing i data controller acking received with
  | zero =>
    have ended : ¬((BitVec.ofNat 32 i : U32).setWidth 64 : Ulong) < count - 1 := by
      rw [BitVec.lt_def, index (by omega)]
      omega
    refine ⟨true, data, controller, ?_, .nil controller, fun _ _ => rfl, fun _ => ⟨acking, ?_⟩⟩
    · rw [getDataLoop, if_neg ended]
      rfl
    · rw [List.range'_zero, List.map_nil, List.append_nil]
      exact talking
  | succ left inductionHypothesis =>
    have inside : ((BitVec.ofNat 32 i : U32).setWidth 64 : Ulong) < count - 1 := by
      rw [BitVec.lt_def, index (by omega)]
      omega
    have here : (BitVec.ofNat 32 i : U32).toNat = i := by
      rw [BitVec.toNat_ofNat]
      omega
    have next : (BitVec.ofNat 32 i + 1 : U32) = BitVec.ofNat 32 (i + 1) :=
      (BitVec.ofNat_add i 1).symm
    rw [List.replicate_succ]
    rcases exec_getDataLoop data talking fresh inside (left + 1) with
      ⟨between, ran, took, clears⟩ | ⟨stored, after, ran, failed, kept⟩
    · rw [here, next] at ran
      have clears' : between.clears false = true := by rw [took.clears]; exact clears
      have later : i + 1 + left = (count - 1).toNat := by omega
      obtain ⟨well, stored, after, rest, script, kept, right⟩ :=
        inductionHypothesis (Function.update data i controller.answer.byte) later
          (took.talking_receive talking) (.inl clears')
      refine ⟨well, stored, after, ran.trans rest, .takes took script, fun place beside => ?_,
        fun went => ?_⟩
      · have apart : place ≠ i := by omega
        rw [kept place (by omega), Function.update_of_ne apart]
      · obtain ⟨bit, there⟩ := right went
        have first : stored i = controller.answer.byte := by
          rw [kept i (by omega), Function.update_self]
        rw [List.append_assoc, List.singleton_append, ← first] at there
        refine ⟨bit, ?_⟩
        rw [List.range'_succ, List.map_cons]
        exact there
    · refine ⟨false, stored, after, ran, .fails failed, fun place beside => ?_,
        fun went => Bool.noConfusion went⟩
      refine kept place ?_
      rw [here]
      omega

/-! ### All bytes -/

theorem receivedBytes_succ (left : Nat) :
    receivedBytes (left + 1) =
      List.replicate left (.receive true twiDatareadAck) ++ [.receive false twiDatareadNack] := by
  have first : (List.range left).map (fun i => if i + 1 < left + 1 then
        Expected.receive true twiDatareadAck else .receive false twiDatareadNack) =
      List.replicate left (.receive true twiDatareadAck) := by
    refine List.eq_replicate_iff.mpr ⟨by rw [List.length_map, List.length_range], ?_⟩
    intro item member
    obtain ⟨i, inside, rfl⟩ := List.mem_map.mp member
    exact if_pos (Nat.succ_lt_succ (List.mem_range.mp inside))
  unfold receivedBytes
  rw [List.range_succ, List.map_append, first]
  exact congrArg _ (congrArg (· :: []) (if_neg (Nat.lt_irrefl _)))

/-- The program comes to an end: it performs the expected steps until it returns an error. It stores
so many bytes at most, and if it returns no error, they are all that was received. -/
def Delivers (program : TwiProgram (Option (Ulong × Memory U8))) (items : List Expected)
    (length : Nat) (received : List U8) (controller : TwiController) : Prop :=
  ∃ ret stored after, exec serveTwi program controller = (some (ret, stored), after) ∧
    Script Took Failed items controller after (decide (ret = 0)) ∧
    (∀ place, length ≤ place → stored place = data place) ∧
    (ret = 0 → after.received = received ++ (List.range length).map stored)

theorem delivers_single (talking : Talking .receive false received controller) (rounds : Nat) :
    Delivers data (sunxiTwiGetData rounds data 1) (receivedBytes 1) 1 received controller := by
  unfold Delivers
  rw [sunxiTwiGetData, if_pos rfl, exec_bind]
  rcases fetches_single data talking with
    ⟨after, ran, took⟩ | ⟨ret, stored, after, ran, wrong, failed, kept⟩
  · rw [ran]
    refine ⟨0, _, after, rfl, .single took, fun place beyond => ?_, fun _ => ?_⟩
    · exact Function.update_of_ne (Nat.ne_of_gt beyond) _ _
    · have last : Function.update data 0 controller.answer.byte 0 = controller.answer.byte :=
        Function.update_self 0 _ data
      rw [(took.talking_receive talking).received, List.range_one, List.map_singleton, last]
  · rw [ran]
    refine ⟨ret, stored, after, rfl, ?_, fun place beyond => ?_, fun right => absurd right wrong⟩
    · rw [decide_eq_false wrong]
      exact .fails failed
    · exact kept place (Nat.ne_of_gt beyond)

theorem delivers_more {count : Ulong} {left : Nat} (length : count.toNat = left + 1)
    (more : count ≠ 1) (short : left < 2 ^ 32)
    (talking : Talking .receive acking received controller)
    (fresh : controller.clears false = true ∨ controller.status ≠ twiDatareadAck) :
    Delivers data (sunxiTwiGetData (left + 1) data count) (receivedBytes (left + 1)) (left + 1)
      received controller := by
  have highest : (count - 1).toNat = left := by
    have one : (1 : Ulong).toNat = 1 := rfl
    rw [BitVec.toNat_sub_of_le (by rw [BitVec.le_def]; omega), length, one, Nat.add_sub_cancel]
  have there : 0 + left = (count - 1).toNat := by omega
  obtain ⟨well, stored, between, ran, script, kept, right⟩ :=
    exec_getDataLoop_all data (by omega) there talking fresh
  unfold Delivers
  rw [sunxiTwiGetData, if_neg more, receivedBytes_succ, exec_bind]
  have start : (BitVec.ofNat 32 0 : U32) = 0 := rfl
  rw [start] at ran
  rw [ran]
  dsimp only
  cases well with
  | false =>
    refine ⟨-twiNokTout, stored, between, rfl, script.append_fails _, fun place beyond => ?_,
      fun right => absurd right (by decide)⟩
    exact kept place (.inr (by omega))
  | true =>
    obtain ⟨bit, turned⟩ := right rfl
    have bytes : (List.range' 0 left).map stored = (List.range left).map stored := by
      rw [List.range_eq_range']
    rw [bytes] at turned
    rw [if_neg (by decide), exec_bind]
    rcases fetches_last stored turned count with
      ⟨after, ends, took⟩ | ⟨ret, rest, after, ends, wrong, failed, others⟩
    · rw [ends, highest]
      refine ⟨0, _, after, rfl, script.append (.single took), fun place beyond => ?_, fun _ => ?_⟩
      · rw [Function.update_of_ne (Nat.ne_of_gt beyond)]
        exact kept place (.inr (by omega))
      · have before : (List.range left).map (Function.update stored left between.answer.byte) =
            (List.range left).map stored := by
          refine List.map_congr_left fun place inside => ?_
          exact Function.update_of_ne (Nat.ne_of_lt (List.mem_range.mp inside)) _ _
        have last : Function.update stored left between.answer.byte left = between.answer.byte :=
          Function.update_self left _ stored
        rw [(took.talking_receive turned).received, List.range_succ, List.map_append, before,
          List.append_assoc, List.map_singleton, last]
    · rw [ends]
      refine ⟨ret, rest, after, rfl, ?_, fun place beyond => ?_, fun right => absurd right wrong⟩
      · rw [decide_eq_false wrong]
        exact script.append (.fails failed)
      · rw [others place (by omega)]
        exact kept place (.inr (by omega))

end Bytes

/-! ### The beginning of a read -/

/-- The program performs the expected steps and goes on as the one that reads, or it returns an
error with the buffer as it is. -/
def Begins (program reads : TwiProgram (Option (Ulong × Memory U8))) (buffer : Memory U8)
    (items : List Expected) (afterwards : TwiController → Prop) (controller : TwiController) :
    Prop :=
  ∃ ret between, Script Took Failed items controller between (decide (ret = 0)) ∧
    exec serveTwi program controller =
      (if ret = 0 then exec serveTwi reads between else (some (ret, buffer), between)) ∧
    (ret = 0 → afterwards between)

section Begin

variable {program : TwiProgram Ulong} {next reads : TwiProgram (Option (Ulong × Memory U8))}
  {buffer : Memory U8} {items more : List Expected} {middle afterwards : TwiController → Prop}
  {controller : TwiController}

theorem begins_self (holds : afterwards controller) :
    Begins reads reads buffer [] afterwards controller :=
  ⟨0, controller, .nil controller, (if_pos rfl).symm, fun _ => holds⟩

/-- `if (ret) goto` behind a part that does not read -/
theorem Leads.begins (first : Leads program items middle controller)
    (rest : ∀ between, middle between → Begins next reads buffer more afterwards between) :
    Begins
      (do
        let ret ← program
        if ret ≠ 0 then
          return some (ret, buffer)
        next)
      reads buffer (items ++ more) afterwards controller := by
  obtain ⟨ret, between, ran, script, post⟩ := first
  unfold Begins
  rw [exec_bind, ran]
  dsimp only
  by_cases right : ret = 0
  · obtain ⟨last, after, later, ends, posts⟩ := rest between (post right)
    rw [decide_eq_true right] at script
    rw [if_neg (not_not.mpr right)]
    exact ⟨last, after, script.append later, ends, posts⟩
  · rw [decide_eq_false right] at script
    rw [if_pos right]
    refine ⟨ret, between, ?_, (if_neg right).symm, fun zero => absurd zero right⟩
    rw [decide_eq_false right]
    exact script.append_fails more

/-- A read talks to the chip in both directions before the first byte. -/
theorem begins_readSteps (rounds : Nat) (chip addr : Ulong) {addrLen : Ulong}
    (some : 1 ≤ addrLen.toNat) (few : addrLen.toNat ≤ 3) (buffer : Memory U8) (length : Ulong)
    (controller : TwiController) :
    Begins (readSteps rounds chip addr addrLen buffer length)
      (sunxiTwiGetData rounds buffer length) buffer
      (addressed chip addr addrLen.toNat ++ turned chip)
      (fun between =>
        Talking .receive (controller.ctl.getLsbD 2) controller.received between ∧
          between.status = twiAddrreadAck) controller := by
  refine (leads_sendAddress controller chip addr some few).begins fun between talking => ?_
  have restart : Leads sunxiTwiSendRestart [.start twiRestartTransmit]
      (Took (.start twiRestartTransmit) between) between :=
    (performs_sendRestart talking.ready).leads fun after took => took
  refine restart.begins fun restarted took => ?_
  have fresh : restarted.status ≠ twiAddrreadAck := by
    rw [took.status]
    decide
  have same : restarted.received = controller.received := by
    rw [took.received, talking.received]
    exact List.append_nil _
  have bit : restarted.ctl.getLsbD 2 = controller.ctl.getLsbD 2 :=
    took.acking.trans talking.acking
  have turning := leads_sendSlaveAddr took.ready took.mode chip true fresh
  rw [same, bit] at turning
  exact turning.begins fun between talks => begins_self talks

end Begin

/-- A read ends if it is of one byte at least, and of not more than the index of the loop can count,
and if a single byte is not to be acknowledged. -/
theorem delivers_readSteps (chip addr : Ulong) {addrLen : Ulong} (some : 1 ≤ addrLen.toNat)
    (few : addrLen.toNat ≤ 3) (buffer : Memory U8) {length : Ulong} {controller : TwiController}
    (any : 1 ≤ length.toNat) (short : length.toNat ≤ 2 ^ 32)
    (single : length = 1 → controller.ctl.getLsbD 2 = false) :
    Delivers buffer (readSteps length.toNat chip addr addrLen buffer length)
      (addressed chip addr addrLen.toNat ++ turned chip ++ receivedBytes length.toNat)
      length.toNat controller.received controller := by
  obtain ⟨ret, between, addressing, ran, talks⟩ :=
    begins_readSteps length.toNat chip addr some few buffer length controller
  unfold Delivers
  rw [ran]
  by_cases right : ret = 0
  · obtain ⟨talking, status⟩ := talks right
    rw [if_pos right]
    rw [decide_eq_true right] at addressing
    have reads : Delivers buffer (sunxiTwiGetData length.toNat buffer length)
        (receivedBytes length.toNat) length.toNat controller.received between := by
      obtain ⟨left, more⟩ := Nat.exists_eq_add_of_le' any
      by_cases one : length = 1
      · subst one
        rw [single rfl] at talking
        exact delivers_single buffer talking 1
      · have fresh : between.status ≠ twiDatareadAck := by
          rw [status]
          decide
        rw [more]
        exact delivers_more buffer more one (by omega) talking (.inr fresh)
    obtain ⟨last, stored, after, ends, script, kept, received⟩ := reads
    exact ⟨last, stored, after, ends, addressing.append script, kept, received⟩
  · rw [if_neg right]
    rw [decide_eq_false right] at addressing
    refine ⟨ret, buffer, between, rfl, ?_, fun _ _ => rfl, fun zero => absurd zero right⟩
    rw [decide_eq_false right]
    exact addressing.append_fails _

end Twi

end PinePhonePkg
