/-
This file settles what a command that the host driver reports as done has seen.
The registers may read as anything: every value of the raw interrupts, the
status, the flags of the descriptors and the FIFO. A success still means that the
command, its data and the card were seen to be done in this order, without an
error in between, and that the processor moved each word once.
-/

import PinePhonePkg.Host.KeptSettings

namespace PinePhonePkg

open Library Program

/-! ### Traces -/

/-- The requests of a run with their replies -/
abbrev HostTrace : Type := List HostExchange

/-- The data register of the FIFO, and the buffer that is filled from it -/
def HostRequest.ofFifo : HostRequest → Bool
  | .readl .database => true
  | .writel _ .database => true
  | .storeWord _ _ => true
  | _ => false

/-- The accesses to the FIFO and the buffer, in order -/
def fifo (trace : HostTrace) : HostTrace :=
  trace.filter fun exchange => exchange.request.ofFifo

/-- No reading of the raw interrupts has an error. -/
def NoError (trace : HostTrace) : Prop :=
  ∀ status : U32, ⟨.readl .rint, status⟩ ∈ trace → status &&& sdxcIntErrBit = 0

/-- The requests that neither read the raw interrupts nor move a word -/
def HostRequest.Still (request : HostRequest) : Prop :=
  request ≠ .readl .rint ∧ request.ofFifo = false

/-- Whatever it reads, the program neither reads the raw interrupts nor moves a word. -/
abbrev Still {Result : Type} (program : HostProgram Result) : Prop :=
  Always (fun _ => True) HostRequest.Still (fun _ => True) program

theorem fifo_append (before after : HostTrace) : fifo (before ++ after) = fifo before ++ fifo after :=
  List.filter_append _ _

theorem NoError.append {before after : HostTrace} (first : NoError before) (rest : NoError after) :
    NoError (before ++ after) := by
  intro status member
  rcases List.mem_append.mp member with earlier | later
  · exact first status earlier
  · exact rest status later

theorem NoError.cons {exchange : HostExchange} (other : exchange.request ≠ .readl .rint)
    {rest : HostTrace} (noError : NoError rest) : NoError (exchange :: rest) := by
  intro status member
  rcases List.mem_cons.mp member with rfl | among
  · exact absurd rfl other
  · exact noError status among

theorem noError_nil : NoError [] := fun _ member => absurd member List.not_mem_nil

/-- A part of a run without an error and without a word moved -/
structure Uneventful (trace : HostTrace) : Prop where
  noError : NoError trace
  fifo : fifo trace = []

theorem Uneventful.append {before after : HostTrace} (first : Uneventful before)
    (rest : Uneventful after) : Uneventful (before ++ after) :=
  ⟨first.noError.append rest.noError, by rw [fifo_append, first.fifo, rest.fifo]; rfl⟩

theorem uneventful_nil : Uneventful [] := ⟨noError_nil, rfl⟩

theorem uneventful_of_still {Result : Type} {program : HostProgram Result} (still : Still program)
    {trace : HostTrace} {result : Result} (run : Program.Run program trace result) :
    Uneventful trace := by
  have all := (still.run run fun _ _ => trivial).1
  refine ⟨fun status member => absurd rfl (all _ member).1, ?_⟩
  refine List.filter_eq_nil_iff.mpr fun exchange member => ?_
  rw [(all exchange member).2]
  exact Bool.false_ne_true

/-- Setting up a transfer and waiting for the card is still. -/
theorem still_transfer : AllowsTransfer HostRequest.Still where
  readl reg other := by
    simp only [List.mem_cons, List.not_mem_nil, or_false, not_or] at other
    refine ⟨fun same => other.2.1 (HostRequest.readl.inj same), ?_⟩
    cases reg <;> first | rfl | exact absurd rfl other.2.2
  writel _ reg _ other := by
    refine ⟨HostRequest.noConfusion, ?_⟩
    cases reg <;> first | rfl | exact absurd rfl other
  setDes _ _ := ⟨HostRequest.noConfusion, rfl⟩

/-! ### The words the processor moves -/

/-- Each word is read from the FIFO and stored at its place. -/
def readMoves (values : List U32) (index : Nat) : HostTrace :=
  (values.zipIdx index).flatMap fun (value, place) =>
    [⟨.readl .database, value⟩, ⟨.storeWord place value, ()⟩]

/-- Each word of the buffer is written to the FIFO. -/
def writeMoves (src : Buffer) (index count : Nat) : HostTrace :=
  (List.range' index count).map fun place =>
    ⟨.writel (BitVec.ofNat 32 (Memory.word src (4 * place) 4)) .database, ()⟩

section Moves

variable {trace : HostTrace}

/-- A word is only moved when the FIFO is ready for it. -/
theorem run_whenReady {mask : U32} {timeout : Nat} {next : HostProgram Int}
    (run : Program.Run (do if ← awaitFifo mask timeout then next else return -1) trace 0) :
    ∃ before rest, trace = before ++ rest ∧ Uneventful before ∧ Program.Run next rest 0 := by
  obtain ⟨before, ready, rest, rfl, waited, follows⟩ := run_bind_iff.mp run
  have waiting := uneventful_of_still (still_transfer.awaitFifo _ _) waited
  cases ready with
  | false =>
    obtain ⟨-, failed⟩ := run_pure_iff.mp follows
    exact absurd failed (by decide)
  | true => exact ⟨before, rest, rfl, waiting, follows⟩

theorem run_readWords {index count : Nat} (run : Program.Run (readWords index count) trace 0) :
    NoError trace ∧ ∃ values : List U32, values.length = count ∧
      fifo trace = readMoves values index := by
  induction count generalizing index trace with
  | zero =>
    obtain ⟨rfl, -⟩ := run_pure_iff.mp run
    exact ⟨noError_nil, [], rfl, rfl⟩
  | succ count inductionHypothesis =>
    obtain ⟨before, rest, rfl, waiting, follows⟩ := run_whenReady run
    obtain ⟨value, stores, rfl, storing⟩ := run_call_iff.mp follows
    obtain ⟨stored, later, rfl, remaining⟩ := run_call_iff.mp storing
    obtain ⟨noError, values, length, moved⟩ := inductionHypothesis remaining
    have other : HostRequest.readl .database ≠ .readl .rint := by decide
    refine ⟨waiting.noError.append (.cons other (.cons HostRequest.noConfusion noError)),
      value :: values, congrArg Nat.succ length, ?_⟩
    rw [fifo_append, waiting.fifo, List.nil_append]
    unfold readMoves at moved ⊢
    rw [List.zipIdx_cons, List.flatMap_cons, ← moved]
    rfl

theorem run_writeWords {src : Buffer} {index count : Nat}
    (run : Program.Run (writeWords src index count) trace 0) :
    NoError trace ∧ fifo trace = writeMoves src index count := by
  induction count generalizing index trace with
  | zero =>
    obtain ⟨rfl, -⟩ := run_pure_iff.mp run
    exact ⟨noError_nil, rfl⟩
  | succ count inductionHypothesis =>
    obtain ⟨before, rest, rfl, waiting, follows⟩ := run_whenReady run
    obtain ⟨written, later, rfl, remaining⟩ := run_call_iff.mp follows
    obtain ⟨noError, moved⟩ := inductionHypothesis remaining
    refine ⟨waiting.noError.append (.cons HostRequest.noConfusion noError), ?_⟩
    rw [fifo_append, waiting.fifo, List.nil_append]
    unfold writeMoves at moved ⊢
    rw [List.range'_succ, List.map_cons, ← moved]
    rfl

/-- The moves of a transfer by the processor: all words of the buffer, each once and in order -/
def Moves (data : HostData) (moved : HostTrace) : Prop :=
  if data.reads then
    ∃ values : List U32, values.length = (data.bytes >>> 2).toNat ∧ moved = readMoves values 0
  else moved = writeMoves data.src 0 (data.bytes >>> 2).toNat

theorem run_mmcTransDataByCpu {data : HostData}
    (run : Program.Run (mmcTransDataByCpu data) trace 0) :
    NoError trace ∧ Moves data (fifo trace) := by
  unfold mmcTransDataByCpu at run
  unfold Moves
  cases reads : data.reads with
  | true =>
    rw [reads] at run
    exact run_readWords run
  | false =>
    rw [reads] at run
    exact run_writeWords run

end Moves

/-! ### The waits -/

section Waits

variable {trace : HostTrace}

theorem errorOf_ne_zero (status : U32) : errorOf status ≠ 0 := by
  unfold errorOf
  split
  · decide
  · assumption

/-- A reading of the raw interrupts without an error, in front of a part that has none -/
theorem Uneventful.cons_rint {status : U32} (clear : status &&& sdxcIntErrBit = 0)
    {rest : HostTrace} (uneventful : Uneventful rest) :
    Uneventful (⟨.readl .rint, status⟩ :: rest) := by
  refine ⟨fun other member => ?_, uneventful.fifo⟩
  rcases List.mem_cons.mp member with same | among
  · cases same
    exact clear
  · exact uneventful.noError other among

/-- The reading of the raw interrupts behind the last turn of a loop always fails. -/
theorem not_run_timedOut : ¬Program.Run (do return errorOf (← readl .rint)) trace 0 := by
  intro run
  obtain ⟨status, rest, rfl, failed⟩ := run_call_iff.mp run
  exact errorOf_ne_zero status (run_pure_iff.mp failed).2.symm

/-- A turn that is not the last one has read the raw interrupts without an error. -/
theorem run_readRint {next : U32 → HostProgram U32}
    (run : Program.Run (do
      let status ← readl .rint
      if status &&& sdxcIntErrBit ≠ 0 then return errorOf status else next status) trace 0) :
    ∃ status rest, trace = ⟨.readl .rint, status⟩ :: rest ∧ status &&& sdxcIntErrBit = 0 ∧
      Program.Run (next status) rest 0 := by
  obtain ⟨status, rest, rfl, follows⟩ := run_call_iff.mp run
  change Program.Run (if status &&& sdxcIntErrBit ≠ 0 then pure (errorOf status) else next status)
    rest 0 at follows
  by_cases failed : status &&& sdxcIntErrBit ≠ 0
  · rw [if_pos failed] at follows
    exact absurd (run_pure_iff.mp follows).2.symm (errorOf_ne_zero status)
  · rw [if_neg failed] at follows
    exact ⟨status, rest, rfl, not_not.mp failed, follows⟩

/-- The command was seen to be done. -/
def SeesCommand (trace : HostTrace) : Prop :=
  ∃ status : U32, ⟨.readl .rint, status⟩ ∈ trace ∧ status &&& bit 2 ≠ 0

theorem run_awaitCommand {timeout : Nat} (run : Program.Run (awaitCommand timeout) trace 0) :
    Uneventful trace ∧ SeesCommand trace := by
  induction timeout generalizing trace with
  | zero => exact absurd run not_run_timedOut
  | succ timeout inductionHypothesis =>
    obtain ⟨status, rest, rfl, clear, follows⟩ := run_readRint run
    change Program.Run (if status &&& bit 2 ≠ 0 then pure 0 else awaitCommand timeout) rest 0
      at follows
    by_cases done : status &&& bit 2 ≠ 0
    · rw [if_pos done] at follows
      obtain ⟨rfl, -⟩ := run_pure_iff.mp follows
      exact ⟨uneventful_nil.cons_rint clear, status, List.mem_cons_self, done⟩
    · rw [if_neg done] at follows
      obtain ⟨uneventful, later, member, laterDone⟩ := inductionHypothesis follows
      exact ⟨uneventful.cons_rint clear, later, List.mem_cons_of_mem _ member, laterDone⟩

/-- The data was seen to be over, with descriptors right before one of their flags was. -/
def SeesData (usedma : Bool) (flag : U32) (trace : HostTrace) : Prop :=
  ∃ status : U32, status &&& flag ≠ 0 ∧
    if usedma then ∃ flags : U32, flags &&& 3 ≠ 0 ∧
      [⟨.readl .rint, status⟩, ⟨.readl .idst, flags⟩] <:+: trace
    else ⟨.readl .rint, status⟩ ∈ trace

theorem SeesData.append {usedma : Bool} {flag : U32} (sees : SeesData usedma flag trace)
    (before : HostTrace) : SeesData usedma flag (before ++ trace) := by
  obtain ⟨status, done, seen⟩ := sees
  refine ⟨status, done, ?_⟩
  cases usedma with
  | false => exact List.mem_append_right before seen
  | true =>
    obtain ⟨flags, set, inside⟩ := seen
    exact ⟨flags, set, inside.trans (List.suffix_append before trace).isInfix⟩

theorem run_awaitData {usedma giveUp : Bool} {flag : U32} {timeout : Nat}
    (run : Program.Run (awaitData usedma giveUp flag timeout) trace 0) :
    Uneventful trace ∧ SeesData usedma flag trace := by
  induction timeout generalizing trace with
  | zero => exact absurd run not_run_timedOut
  | succ timeout inductionHypothesis =>
    obtain ⟨status, rest, rfl, clear, follows⟩ := run_readRint run
    change Program.Run (if timeout = 0xff0000 ∧ giveUp then pure 0xffffffff
      else if status &&& flag ≠ 0 then
        if usedma then do
          if (← readl .idst) &&& 3 ≠ 0 then return 0
          awaitData usedma giveUp flag timeout
        else pure 0
      else awaitData usedma giveUp flag timeout) rest 0 at follows
    by_cases givenUp : timeout = 0xff0000 ∧ giveUp
    · rw [if_pos givenUp] at follows
      exact absurd (run_pure_iff.mp follows).2 (by decide)
    rw [if_neg givenUp] at follows
    by_cases done : status &&& flag ≠ 0
    · rw [if_pos done] at follows
      cases usedma with
      | false =>
        obtain ⟨rfl, -⟩ := run_pure_iff.mp follows
        exact ⟨uneventful_nil.cons_rint clear, status, done, List.mem_cons_self⟩
      | true =>
        obtain ⟨flags, later, rfl, ends⟩ := run_call_iff.mp follows
        change Program.Run (if flags &&& 3 ≠ 0 then pure 0
          else awaitData true giveUp flag timeout) later 0 at ends
        have still : Uneventful [⟨HostRequest.readl .idst, flags⟩] :=
          ⟨noError_nil.cons (show HostRequest.readl .idst ≠ .readl .rint by decide), rfl⟩
        by_cases set : flags &&& 3 ≠ 0
        · rw [if_pos set] at ends
          obtain ⟨rfl, -⟩ := run_pure_iff.mp ends
          exact ⟨still.cons_rint clear, status, done, flags, set, List.infix_refl _⟩
        · rw [if_neg set] at ends
          obtain ⟨uneventful, sees⟩ := inductionHypothesis ends
          exact ⟨(still.append uneventful).cons_rint clear,
            sees.append [⟨.readl .rint, status⟩, ⟨.readl .idst, flags⟩]⟩
    · rw [if_neg done] at follows
      obtain ⟨uneventful, sees⟩ := inductionHypothesis follows
      exact ⟨uneventful.cons_rint clear, sees.append [_]⟩

/-- The card was seen not to be busy. -/
def SeesIdle (trace : HostTrace) : Prop :=
  ∃ status : U32, ⟨.readl .status, status⟩ ∈ trace ∧ status &&& bit 9 = 0

theorem run_awaitIdle {timeout : Nat} (run : Program.Run (awaitIdle timeout) trace 0) :
    SeesIdle trace := by
  induction timeout generalizing trace with
  | zero =>
    obtain ⟨status, rest, rfl, failed⟩ := run_call_iff.mp run
    exact absurd (run_pure_iff.mp failed).2 (by decide)
  | succ timeout inductionHypothesis =>
    obtain ⟨status, rest, rfl, follows⟩ := run_call_iff.mp run
    change Program.Run (if status &&& bit 9 ≠ 0 then awaitIdle timeout else pure 0) rest 0
      at follows
    by_cases busy : status &&& bit 9 ≠ 0
    · rw [if_pos busy] at follows
      obtain ⟨later, member, idle⟩ := inductionHypothesis follows
      exact ⟨later, List.mem_cons_of_mem _ member, idle⟩
    · exact ⟨status, List.mem_cons_self, not_not.mp busy⟩

/-- The response words are those that the response registers gave. -/
def Responds (cmd : HostCmd) (response : Vector U32 4) (trace : HostTrace) : Prop :=
  if cmd.respType &&& mmcRsp136 ≠ 0 then
    ∃ first second third fourth : U32,
      response = ⟨#[first, second, third, fourth], size_words first second third fourth⟩ ∧
      trace = [⟨.readl .resp3, first⟩, ⟨.readl .resp2, second⟩, ⟨.readl .resp1, third⟩,
        ⟨.readl .resp0, fourth⟩]
  else ∃ first : U32, response = cmd.response.set 0 first zero_lt_words ∧
    trace = [⟨.readl .resp0, first⟩]

theorem run_readResponse {cmd : HostCmd} {response : Vector U32 4}
    (run : Program.Run (readResponse cmd) trace response) : Responds cmd response trace := by
  unfold readResponse at run
  unfold Responds
  by_cases long : cmd.respType &&& mmcRsp136 ≠ 0
  · rw [if_pos long] at run ⊢
    obtain ⟨first, rest, rfl, afterFirst⟩ := run_call_iff.mp run
    obtain ⟨second, rest, rfl, afterSecond⟩ := run_call_iff.mp afterFirst
    obtain ⟨third, rest, rfl, afterThird⟩ := run_call_iff.mp afterSecond
    obtain ⟨fourth, rest, rfl, afterFourth⟩ := run_call_iff.mp afterThird
    obtain ⟨rfl, rfl⟩ := run_pure_iff.mp afterFourth
    exact ⟨first, second, third, fourth, rfl, rfl⟩
  · rw [if_neg long] at run ⊢
    obtain ⟨first, rest, rfl, follows⟩ := run_call_iff.mp run
    obtain ⟨rfl, rfl⟩ := run_pure_iff.mp follows
    exact ⟨first, rfl, rfl⟩

/-- The completion that fits the transfer -/
def HostData.overFlag (data : HostData) (cmd : HostCmd) : U32 :=
  if data.blocks > 1 ∧ ¬cmd.manual then bit 14 else bit 3

theorem run_awaitTransfer {mmc : HostCard} {cmd : HostCmd} {usedma : Bool} {bytecnt : U32}
    {data : Option HostData}
    (run : Program.Run (awaitTransfer mmc cmd usedma bytecnt data) trace 0) :
    Uneventful trace ∧ ∀ given, data = some given → SeesData usedma (given.overFlag cmd) trace := by
  cases data with
  | none =>
    obtain ⟨rfl, -⟩ := run_pure_iff.mp run
    exact ⟨uneventful_nil, fun given same => nomatch same⟩
  | some data =>
    obtain ⟨uneventful, sees⟩ := run_awaitData run
    refine ⟨uneventful, fun given same => ?_⟩
    obtain rfl := Option.some.inj same
    exact sees

theorem run_awaitBusy {cmd : HostCmd} (run : Program.Run (awaitBusy cmd) trace 0)
    (busy : cmd.respType &&& mmcRspBusy ≠ 0) : SeesIdle trace := by
  unfold awaitBusy at run
  rw [if_pos busy] at run
  exact run_awaitIdle run

/-- The waits behind a command in the order in which they have to be seen to end, and then the
response -/
structure Waited (cmd : HostCmd) (data : Option HostData) (usedma : Bool)
    (response : Vector U32 4) (trace : HostTrace) : Prop where
  inOrder : ∃ command transfer busy reading,
    trace = command ++ (transfer ++ (busy ++ reading)) ∧ SeesCommand command ∧
      (∀ given, data = some given → SeesData usedma (given.overFlag cmd) transfer) ∧
      (cmd.respType &&& mmcRspBusy ≠ 0 → SeesIdle busy) ∧ Responds cmd response reading

theorem run_finishCommand {mmc : HostCard} {cmd : HostCmd} {data : Option HostData}
    {usedma : Bool} {bytecnt : U32} {attempt : Attempt}
    (run : Program.Run (finishCommand mmc cmd data usedma bytecnt) trace attempt)
    (succeeded : attempt.error = 0) :
    Uneventful trace ∧ Waited cmd data usedma attempt.response trace := by
  obtain ⟨command, error, rest, rfl, commanded, follows⟩ := run_bind_iff.mp run
  by_cases failed : error ≠ 0
  · rw [if_pos failed] at follows
    obtain ⟨-, rfl⟩ := run_pure_iff.mp follows
    exact absurd succeeded failed
  rw [if_neg failed] at follows
  obtain rfl := not_not.mp failed
  obtain ⟨commandClear, seesCommand⟩ := run_awaitCommand commanded
  obtain ⟨transfer, error, rest, rfl, transferred, afterTransfer⟩ :=
    run_bind_iff.mp follows
  by_cases failed : error ≠ 0
  · rw [if_pos failed] at afterTransfer
    obtain ⟨-, rfl⟩ := run_pure_iff.mp afterTransfer
    exact absurd succeeded failed
  rw [if_neg failed] at afterTransfer
  obtain rfl := not_not.mp failed
  obtain ⟨transferClear, seesData⟩ := run_awaitTransfer transferred
  obtain ⟨busy, error, rest, rfl, idled, afterBusy⟩ := run_bind_iff.mp afterTransfer
  by_cases failed : error ≠ 0
  · rw [if_pos failed] at afterBusy
    obtain ⟨-, rfl⟩ := run_pure_iff.mp afterBusy
    exact absurd succeeded failed
  rw [if_neg failed] at afterBusy
  obtain rfl := not_not.mp failed
  have busyClear := uneventful_of_still (still_transfer.awaitBusy cmd) idled
  obtain ⟨reading, response, rest, rfl, responded, ends⟩ := run_bind_iff.mp afterBusy
  obtain ⟨rfl, rfl⟩ := run_pure_iff.mp ends
  have readingClear := uneventful_of_still (still_transfer.readResponse cmd) responded
  rw [List.append_nil]
  exact ⟨commandClear.append (transferClear.append (busyClear.append readingClear)),
    command, transfer, busy, reading, rfl, seesCommand, seesData,
    fun given => run_awaitBusy idled given, run_readResponse responded⟩

end Waits

/-! ### The whole command -/

section Command

variable {trace : HostTrace} {host : SunxiMmcHost} {cmd : HostCmd} {data : Option HostData}

/-- Writing the command register with the command -/
def HostCmd.sent (cmd : HostCmd) (data : Option HostData) : HostExchange :=
  ⟨.writel (cmd.cmdval data ||| cmd.cmdidx) .cmd, ()⟩

theorem Uneventful.cons {exchange : HostExchange} (still : exchange.request.Still)
    {rest : HostTrace} (uneventful : Uneventful rest) : Uneventful (exchange :: rest) := by
  refine ⟨uneventful.noError.cons still.1, ?_⟩
  unfold PinePhonePkg.fifo
  rw [List.filter_cons_of_neg (by rw [still.2]; exact Bool.false_ne_true)]
  exact uneventful.fifo

/-- A transfer that is started without an error has sent the command, and the processor has
moved the data if it is the one to do so. -/
theorem run_transData {turns : Nat} {given : HostData}
    (run : Program.Run (transData turns host cmd given) trace (some 0)) :
    NoError trace ∧ cmd.sent (some given) ∈ trace ∧
      (given.bytes ≤ 64 → Moves given (fifo trace)) := by
  unfold transData at run
  by_cases large : given.bytes > 64
  · rw [if_pos large] at run
    obtain ⟨rval, rest, rfl, written⟩ := run_send_bind_iff.mp run
    obtain ⟨_, rest, rfl, prepared⟩ := run_send_bind_iff.mp written
    obtain ⟨dma, ret, rest, rfl, transferred, follows⟩ := run_bind_iff.mp prepared
    have clear := uneventful_of_still (still_transfer.mmcTransDataByDma turns host given) transferred
    cases ret with
    | none => exact nomatch (run_pure_iff.mp follows).2
    | some ret =>
      obtain ⟨_, rest, rfl, ends⟩ := run_send_bind_iff.mp follows
      obtain ⟨rfl, -⟩ := run_pure_iff.mp ends
      refine ⟨.cons (show HostRequest.readl .gctrl ≠ .readl .rint by decide)
        (.cons HostRequest.noConfusion
          (clear.noError.append (.cons HostRequest.noConfusion noError_nil))), ?_,
        fun small => absurd large (BitVec.not_lt.mpr small)⟩
      refine List.mem_cons_of_mem _ (List.mem_cons_of_mem _ (List.mem_append_right _ ?_))
      exact List.mem_cons_self
  · rw [if_neg large] at run
    obtain ⟨rval, rest, rfl, written⟩ := run_send_bind_iff.mp run
    obtain ⟨_, rest, rfl, commanded⟩ := run_send_bind_iff.mp written
    obtain ⟨_, rest, rfl, prepared⟩ := run_send_bind_iff.mp commanded
    obtain ⟨cpu, ret, rest, rfl, transferred, follows⟩ := run_bind_iff.mp prepared
    obtain ⟨rfl, same⟩ := run_pure_iff.mp follows
    obtain rfl := Option.some.inj same
    obtain ⟨noError, moves⟩ := run_mmcTransDataByCpu transferred
    rw [List.append_nil]
    refine ⟨.cons (show HostRequest.readl .gctrl ≠ .readl .rint by decide)
      (.cons HostRequest.noConfusion (.cons HostRequest.noConfusion noError)),
      List.mem_cons_of_mem _ (List.mem_cons_of_mem _ List.mem_cons_self), fun _ => moves⟩

/-- What a command that is reported as done has seen -/
structure CommandDone (cmd : HostCmd) (data : Option HostData) (response : Vector U32 4)
    (trace : HostTrace) : Prop where
  noError : NoError trace
  moved : ∀ given, data = some given → given.bytes ≤ 64 → Moves given (fifo trace)
  inOrder : ∃ sending waiting closing, trace = sending ++ (waiting ++ closing) ∧
    cmd.sent data ∈ sending ∧
      Waited cmd data (data.elim false fun given => given.bytes > 64) response waiting

theorem run_startCommand {turns : Nat} {attempt : Attempt}
    (run : Program.Run (startCommand turns host cmd data) trace (some attempt))
    (succeeded : attempt.error = 0) : CommandDone cmd data attempt.response trace := by
  cases data with
  | none =>
    obtain ⟨_, rest, rfl, commanded⟩ := run_send_bind_iff.mp run
    obtain ⟨_, rest, rfl, prepared⟩ := run_send_bind_iff.mp commanded
    obtain ⟨waiting, _, rest, rfl, finished, ends⟩ := run_bind_iff.mp prepared
    obtain ⟨rfl, same⟩ := run_pure_iff.mp ends
    obtain rfl := Option.some.inj same
    obtain ⟨clear, waited⟩ := run_finishCommand finished succeeded
    refine ⟨.cons HostRequest.noConfusion (.cons HostRequest.noConfusion
      (clear.noError.append noError_nil)), fun _ same => (nomatch same),
      [_, cmd.sent none], waiting, [], rfl, List.mem_cons_of_mem _ List.mem_cons_self, waited⟩
  | some given =>
    change Program.Run (if given.address &&& 3 ≠ 0 then
      pure (some ⟨0xffffffff, false, 0, cmd.response⟩) else _) trace (some attempt) at run
    by_cases misaligned : given.address &&& 3 ≠ 0
    · rw [if_pos misaligned] at run
      obtain rfl := Option.some.inj (run_pure_iff.mp run).2
      exact absurd (show (0xffffffff : U32) = 0 from succeeded) (by decide)
    rw [if_neg misaligned] at run
    obtain ⟨_, rest, rfl, sized⟩ := run_send_bind_iff.mp run
    obtain ⟨_, rest, rfl, counted⟩ := run_send_bind_iff.mp sized
    obtain ⟨_, rest, rfl, prepared⟩ := run_send_bind_iff.mp counted
    obtain ⟨sending, ret, rest, rfl, transferred, follows⟩ := run_bind_iff.mp prepared
    cases ret with
    | none => exact nomatch (run_pure_iff.mp follows).2
    | some ret =>
      dsimp only at follows
      by_cases failed : ret ≠ 0
      · rw [if_pos failed] at follows
        obtain ⟨status, rest, rfl, ends⟩ := run_send_bind_iff.mp follows
        obtain rfl := Option.some.inj (run_pure_iff.mp ends).2
        exact absurd succeeded (errorOf_ne_zero status)
      rw [if_neg failed] at follows
      obtain rfl := not_not.mp failed
      obtain ⟨clear, commanded, moves⟩ := run_transData transferred
      obtain ⟨waiting, finished, rest, rfl, waits, ends⟩ := run_bind_iff.mp follows
      obtain ⟨rfl, same⟩ := run_pure_iff.mp ends
      obtain rfl := Option.some.inj same
      obtain ⟨waitingClear, waited⟩ := run_finishCommand waits succeeded
      rw [List.append_nil]
      refine ⟨?_, ?_, ?_⟩
      · exact .cons HostRequest.noConfusion (.cons HostRequest.noConfusion
          (.cons HostRequest.noConfusion (clear.append waitingClear.noError)))
      · intro other same small
        obtain rfl := Option.some.inj same
        have moved : fifo (sending ++ waiting) = fifo sending := by
          rw [fifo_append, waitingClear.fifo, List.append_nil]
        exact moved ▸ moves small
      · refine ⟨⟨.writel given.blocksize .blksz, ()⟩ ::
          ⟨.writel (given.blocks * given.blocksize) .bytecnt, ()⟩ ::
          ⟨.writel cmd.cmdarg .arg, ()⟩ :: sending, waiting, [], ?_, ?_, waited⟩
        · rw [List.append_nil]
          rfl
        · exact List.mem_cons_of_mem _ (List.mem_cons_of_mem _ (List.mem_cons_of_mem _ commanded))

/-- The end of a command reports a success only of an attempt without an error. -/
theorem run_endCommand {turns : Nat} {attempt : Attempt} {result : SendResult}
    (run : Program.Run (endCommand turns host data attempt) trace (some result))
    (succeeded : result.value = 0) :
    attempt.error = 0 ∧ Uneventful trace ∧ result.response = attempt.response := by
  obtain ⟨errors, rawIntBak, rest, rfl, kept, stopped⟩ := run_bind_iff.mp run
  obtain ⟨stop, _, rest, rfl, stops, follows⟩ := run_bind_iff.mp stopped
  have stopClear := uneventful_of_still (still_transfer.stopDma data attempt) stops
  by_cases failed : attempt.error ≠ 0
  · rw [if_pos failed] at follows
    obtain ⟨drain, _, rest, rfl, drained, recovering⟩ := run_bind_iff.mp follows
    obtain ⟨recovery, recovered, rest, rfl, recovers, ends⟩ := run_bind_iff.mp recovering
    cases recovered with
    | none => exact nomatch (run_pure_iff.mp ends).2
    | some _ =>
      obtain ⟨_, rest, rfl, returned⟩ := run_send_bind_iff.mp ends
      obtain rfl := Option.some.inj (run_pure_iff.mp returned).2
      exact absurd (show (-1 : Int) = 0 from succeeded) (by decide)
  · rw [if_neg failed] at follows
    unfold readErrors at kept
    rw [if_neg failed] at kept
    obtain ⟨rfl, -⟩ := run_pure_iff.mp kept
    obtain ⟨_, rest, rfl, returned⟩ := run_send_bind_iff.mp follows
    obtain ⟨rfl, same⟩ := run_pure_iff.mp returned
    obtain rfl := Option.some.inj same
    exact ⟨not_not.mp failed,
      stopClear.append (.cons ⟨HostRequest.noConfusion, rfl⟩ uneventful_nil), rfl⟩

theorem CommandDone.append {response : Vector U32 4} (done : CommandDone cmd data response trace)
    {rest : HostTrace} (clear : Uneventful rest) :
    CommandDone cmd data response (trace ++ rest) := by
  refine ⟨done.noError.append clear.noError, fun given same small => ?_, ?_⟩
  · rw [fifo_append, clear.fifo, List.append_nil]
    exact done.moved given same small
  · obtain ⟨sending, waiting, closing, rfl, sent, waited⟩ := done.inOrder
    refine ⟨sending, waiting, closing ++ rest, ?_, sent, waited⟩
    rw [List.append_assoc, List.append_assoc]

/-! ### Resets that do not end -/

/-- The bits that the hardware clears when a reset is over -/
def resetBits : List (HostReg × U32) := [(.gctrl, 7), (.dmac, 1)]

/-- The bits of a reset were read as set this many times in a row. -/
def StuckReset (turns : Nat) (trace : HostTrace) : Prop :=
  ∃ reset ∈ resetBits, ∃ values : List U32, values.length = turns ∧
    (∀ value ∈ values, value &&& reset.2 ≠ 0) ∧
      values.map (fun value => (⟨.readl reset.1, value⟩ : HostExchange)) <:+: trace

theorem StuckReset.inside {turns : Nat} {whole : HostTrace} (stuck : StuckReset turns trace)
    (inside : trace <:+: whole) : StuckReset turns whole := by
  obtain ⟨reset, known, values, length, set, among⟩ := stuck
  exact ⟨reset, known, values, length, set, among.trans inside⟩

theorem run_awaitClear {reg : HostReg} {mask : U32} {turns : Nat}
    (run : Program.Run (awaitClear reg mask turns) trace none) :
    ∃ values : List U32, values.length = turns ∧ (∀ value ∈ values, value &&& mask ≠ 0) ∧
      trace = values.map fun value => (⟨.readl reg, value⟩ : HostExchange) := by
  induction turns generalizing trace with
  | zero =>
    obtain ⟨rfl, -⟩ := run_pure_iff.mp run
    exact ⟨[], rfl, fun _ member => absurd member List.not_mem_nil, rfl⟩
  | succ turns inductionHypothesis =>
    obtain ⟨value, rest, rfl, follows⟩ := run_send_bind_iff.mp run
    by_cases set : value &&& mask ≠ 0
    · rw [if_pos set] at follows
      obtain ⟨values, length, all, rfl⟩ := inductionHypothesis follows
      exact ⟨value :: values, congrArg Nat.succ length, List.forall_mem_cons.mpr ⟨set, all⟩, rfl⟩
    · rw [if_neg set] at follows
      exact nomatch (run_pure_iff.mp follows).2

end Command

/-- The program comes to an end unless the bits of a reset stay set. -/
def ComesBack (turns : Nat) {Result : Type} (program : HostProgram (Option Result)) : Prop :=
  ∀ trace, Program.Run program trace none → StuckReset turns trace

namespace ComesBack

variable {turns : Nat} {First Result : Type}

theorem pure (result : Result) :
    ComesBack turns (Pure.pure (some result) : HostProgram (Option Result)) :=
  fun _ run => nomatch (run_pure_iff.mp run).2

theorem ite {condition : Prop} [Decidable condition] {yes no : HostProgram (Option Result)}
    (first : ComesBack turns yes) (second : ComesBack turns no) :
    ComesBack turns (if condition then yes else no) := by
  split
  · exact first
  · exact second

theorem bind {program : HostProgram First} {next : First → HostProgram (Option Result)}
    (rest : ∀ result, ComesBack turns (next result)) : ComesBack turns (program >>= next) := by
  intro trace run
  obtain ⟨before, first, after, rfl, _, follows⟩ := run_bind_iff.mp run
  exact (rest first after follows).inside (List.suffix_append before after).isInfix

/-- What is given up makes the whole be given up. -/
theorem bindSome {program : HostProgram (Option First)}
    {next : Option First → HostProgram (Option Result)} (first : ComesBack turns program)
    (_givenUp : next none = Pure.pure none)
    (rest : ∀ result, ComesBack turns (next (some result))) :
    ComesBack turns (program >>= next) := by
  intro trace run
  obtain ⟨before, result, after, rfl, ended, follows⟩ := run_bind_iff.mp run
  cases result with
  | none => exact (first before ended).inside (List.prefix_append before after).isInfix
  | some result => exact (rest result after follows).inside (List.suffix_append before after).isInfix

theorem awaitClear {reg : HostReg} {mask : U32} (reset : (reg, mask) ∈ resetBits) :
    ComesBack turns (awaitClear reg mask turns) := by
  intro trace run
  obtain ⟨values, length, set, rfl⟩ := run_awaitClear run
  exact ⟨_, reset, values, length, set, List.infix_refl _⟩

theorem resetController : ComesBack turns (resetController turns) :=
  bind fun _ => awaitClear List.mem_cons_self

theorem recoverController (host : SunxiMmcHost) : ComesBack turns (recoverController turns host) :=
  bindSome resetController rfl fun _ => bind fun _ =>
    bindSome resetController rfl fun _ => bind fun _ => pure ()

theorem endCommand (host : SunxiMmcHost) (data : Option HostData) (attempt : Attempt) :
    ComesBack turns (endCommand turns host data attempt) :=
  bind fun _ => bind fun _ => ite
    (bind fun _ => bindSome (recoverController host) rfl fun _ => bind fun _ => pure _)
    (bind fun _ => pure _)

theorem mmcTransDataByDma (host : SunxiMmcHost) (data : HostData) :
    ComesBack turns (mmcTransDataByDma turns host data) :=
  bind fun _ => bind fun _ => bind fun _ => bind fun _ =>
    bindSome (awaitClear (List.mem_cons_of_mem _ List.mem_cons_self)) rfl fun _ =>
      bind fun _ => bind fun _ => bind fun _ => bind fun _ => bind fun _ => pure _

theorem transData (host : SunxiMmcHost) (cmd : HostCmd) (data : HostData) :
    ComesBack turns (transData turns host cmd data) :=
  ite (bind fun _ => bind fun _ => bindSome (mmcTransDataByDma host data) rfl fun _ =>
      bind fun _ => pure _)
    (bind fun _ => bind fun _ => bind fun _ => bind fun _ => pure _)

theorem startCommand (host : SunxiMmcHost) (cmd : HostCmd) (data : Option HostData) :
    ComesBack turns (startCommand turns host cmd data) := by
  cases data with
  | none => exact bind fun _ => bind fun _ => bind fun _ => pure _
  | some data =>
    exact ite (pure _) (bind fun _ => bind fun _ => bind fun _ =>
      bindSome (transData host cmd data) rfl fun _ =>
        ite (bind fun _ => pure _) (bind fun _ => pure _))

theorem mmcSendCmd (host : SunxiMmcHost) (cmd : HostCmd) (data : Option HostData) :
    ComesBack turns (host.mmcSendCmd turns cmd data) :=
  ite (pure _) (ite (bind fun _ => ite (endCommand _ _ _) (pure _))
    (bindSome (startCommand host cmd data) rfl fun _ => endCommand _ _ _))

end ComesBack

/-! ### The outcome -/

/-- The driver leaves a CMD12 to the hardware unless it is asked to send it. -/
def HostCmd.leftOut (cmd : HostCmd) : Prop :=
  cmd.cmdidx = 12 ∧ ¬cmd.manual

instance (cmd : HostCmd) : Decidable cmd.leftOut :=
  inferInstanceAs (Decidable (_ ∧ _))

/-- A command comes back unless the bits of a reset stay set. When it is reported as done, it
was seen to be; in place of a CMD12 that is left to the hardware, the card was seen to be idle,
and the response is kept. -/
theorem mmcSendCmd_outcome (host : SunxiMmcHost) (turns : Nat) (cmd : HostCmd)
    (data : Option HostData) {trace : HostTrace} {result : Option SendResult}
    (run : Program.Run (host.mmcSendCmd turns cmd data) trace result) :
    (result = none → StuckReset turns trace) ∧
      ∀ done, result = some done → done.value = 0 →
        if cmd.leftOut then SeesIdle trace ∧ done.response = cmd.response
        else CommandDone cmd data done.response trace := by
  refine ⟨fun given => ComesBack.mmcSendCmd host cmd data trace (given ▸ run), ?_⟩
  rintro done rfl succeeded
  unfold SunxiMmcHost.mmcSendCmd at run
  by_cases fatal : host.fatalErr ≠ 0
  · rw [if_pos fatal] at run
    obtain rfl := Option.some.inj (run_pure_iff.mp run).2
    exact absurd (show (-1 : Int) = 0 from succeeded) (by decide)
  rw [if_neg fatal] at run
  by_cases leftOut : cmd.leftOut
  · rw [if_pos leftOut]
    rw [if_pos (show cmd.cmdidx = 12 ∧ ¬cmd.manual from leftOut)] at run
    obtain ⟨waiting, error, rest, rfl, waited, follows⟩ := run_bind_iff.mp run
    by_cases failed : error ≠ 0
    · rw [if_pos failed] at follows
      exact absurd (run_endCommand follows succeeded).1 failed
    · rw [if_neg failed] at follows
      obtain rfl := not_not.mp failed
      obtain ⟨rfl, same⟩ := run_pure_iff.mp follows
      obtain rfl := Option.some.inj same
      rw [List.append_nil]
      exact ⟨run_awaitIdle waited, rfl⟩
  · rw [if_neg leftOut]
    rw [if_neg (show ¬(cmd.cmdidx = 12 ∧ ¬cmd.manual) from leftOut)] at run
    obtain ⟨started, attempt, rest, rfl, starts, follows⟩ := run_bind_iff.mp run
    cases attempt with
    | none => exact nomatch (run_pure_iff.mp follows).2
    | some attempt =>
      obtain ⟨noError, clear, response⟩ := run_endCommand follows succeeded
      rw [response]
      exact (run_startCommand starts noError).append clear

/-! ### A controller that is done at once -/

/-- A controller that reports a command and its data done at once -/
def doneAtOnce : (request : HostRequest) → Unit → request.Reply × Unit
  | .readl .rint, world => (bit 2 ||| bit 3, world)
  | .readl _, world => (0, world)
  | .writel _ _, world => ((), world)
  | .storeWord _ _, world => ((), world)
  | .setDes _ _, world => ((), world)

/-- The SD status of a card, of which the processor moves the sixteen words -/
def sdStatus : HostData where
  address := 0x40001000
  src := fun _ => 0
  flags := mmcDataRead
  blocks := 1
  blocksize := 64

theorem mmcSendCmd_outcome_sdStatus :
    CommandDone readSingle (some sdStatus) readSingle.response
      ((emmcHost.mmcSendCmd 1 readSingle (some sdStatus)).trace doneAtOnce ()) := by
  have outcome := (mmcSendCmd_outcome emmcHost 1 readSingle (some sdStatus)
    (run_exec doneAtOnce (emmcHost.mmcSendCmd 1 readSingle (some sdStatus)) ())).2
    ⟨0, readSingle.response, 0⟩ rfl rfl
  rwa [if_neg (by decide)] at outcome

/-- CMD12 as the block driver asks for it -/
def stopReading : HostCmd where
  cmdidx := 12
  respType := 0x1d
  cmdarg := 0
  response := noWords
  flags := 0

theorem stopReading_run :
    Program.Run (emmcHost.mmcSendCmd 1 stopReading none) [⟨.readl .status, 0⟩]
      (some ⟨0, stopReading.response, 0⟩) := by
  have idle : Program.Run (awaitIdle (499999 + 1)) [⟨.readl .status, 0⟩] 0 :=
    run_call_iff.mpr ⟨0, [], rfl, .done 0⟩
  exact run_bind_iff.mpr ⟨_, _, [], rfl, idle, .done _⟩

/-- Not every command that is reported as done was seen to be: a CMD12 is left to the hardware. -/
theorem mmcSendCmd_leaves_out :
    ¬∀ (host : SunxiMmcHost) (turns : Nat) (cmd : HostCmd) (data : Option HostData)
      (trace : HostTrace) (done : SendResult),
      Program.Run (host.mmcSendCmd turns cmd data) trace (some done) → done.value = 0 →
      CommandDone cmd data done.response trace := by
  intro all
  have done := all emmcHost 1 stopReading none _ _ stopReading_run rfl
  obtain ⟨sending, waiting, closing, whole, -, waited⟩ := done.inOrder
  obtain ⟨command, rest, busy, reading, rfl, ⟨status, member, -⟩, -⟩ := waited.inOrder
  have among : ⟨.readl .rint, status⟩ ∈ [(⟨.readl .status, 0⟩ : HostExchange)] := by
    rw [whole]
    exact List.mem_append_right _ (List.mem_append_left _ (List.mem_append_left _ member))
  have other : HostRequest.readl .rint ≠ .readl .status := by decide
  exact other (congrArg Exchange.request (List.mem_singleton.mp among))

end PinePhonePkg
