/-
This file shows that the descriptors of a transfer are a chain over its buffer.
The controller starts at the first descriptor and follows the links it reads.
What it finds covers the buffer from its first byte to its last, in fragments of
the size of their descriptors, and lies in the pool of the host.
-/

import PinePhonePkg.Library.Bits
import PinePhonePkg.Library.Chains
import PinePhonePkg.Host.KeptSettings

namespace PinePhonePkg

open Library Program

/-! ### What the controller sees -/

/-- The size of the pool of descriptors, and of a descriptor in it -/
def pdesBytes : Nat := 256 * 1024

def sizeofDes : Nat := 16

/-- The pool after the requests -/
def poolAfter : List (Exchange HostRequest HostRequest.Reply) → (Nat → MmcDes) → Nat → MmcDes
  | [], pool => pool
  | ⟨.setDes index des, _⟩ :: rest, pool => poolAfter rest (Function.update pool index des)
  | _ :: rest, pool => poolAfter rest pool

/-- The descriptor at an address of the pool -/
def descriptorAt (pdes : Ulong) (pool : Nat → MmcDes) (address : U32) : Option MmcDes :=
  let offset := address.toNat - pdes.toNat
  if pdes.toNat ≤ address.toNat ∧ offset % sizeofDes = 0 ∧ offset + sizeofDes ≤ pdesBytes then
    some (pool (offset / sizeofDes))
  else none

/-- The descriptors in the order of their links, from the one whose address the controller is
given -/
def visited (pdes : Ulong) (pool : Nat → MmcDes) : Option (List MmcDes) :=
  follow (descriptorAt pdes pool) (·.lastDes) (·.bufAddrPtr2) (pdesBytes / sizeofDes)
    (pdes.setWidth 32)

/-- The descriptors are those of a buffer. -/
structure Describes (address bytes : Nat) (chain : List MmcDes) : Prop where
  fits : chain.length * sizeofDes ≤ pdesBytes
  sized : ∀ des ∈ chain, 0 < des.dataBuf1Sz.toNat ∧
    des.dataBuf1Sz.toNat ≤ sdxcDesBufferMaxLen.toNat
  covers : (chain.flatMap fun des =>
    List.range' des.bufAddrPtr1.toNat des.dataBuf1Sz.toNat) = List.range' address bytes
  owned : ∀ des ∈ chain, des.own = true ∧ des.desChain = true
  first : ∀ index des, chain[index]? = some des → (des.firstDes = true ↔ index = 0)
  last : ∀ index des, chain[index]? = some des → (des.lastDes = true ↔ index + 1 = chain.length)
  endOfRing : ∀ index des, chain[index]? = some des →
    (des.endOfRing = true ↔ index + 1 = chain.length)
  /-- An interrupt comes after the last descriptor only. -/
  interrupts : ∀ index des, chain[index]? = some des →
    (des.dic = false ↔ index + 1 = chain.length)

/-! ### The fragments -/

section Counts

variable {bytes : U32} (some : 0 < bytes.toNat)

theorem toNat_and_rest : (bytes &&& (sdxcDesBufferMaxLen - 1)).toNat = bytes.toNat % 4096 :=
  toNat_and_low bytes (show (sdxcDesBufferMaxLen - 1).toNat = 2 ^ 12 - 1 by decide)

theorem rest_ne_zero_iff : bytes &&& (sdxcDesBufferMaxLen - 1) ≠ 0 ↔ bytes.toNat % 4096 ≠ 0 := by
  rw [← toNat_and_rest, Ne, Ne, ← BitVec.toNat_inj]
  rfl

theorem toNat_whole : (bytes >>> sdxcDesNumShift).toNat = bytes.toNat / 4096 := by
  rw [BitVec.toNat_ushiftRight, Nat.shiftRight_eq_div_pow]
  rfl

include some

/-- The number of fragments -/
theorem toNat_buffFragNum :
    (if bytes &&& (sdxcDesBufferMaxLen - 1) ≠ 0 then (bytes >>> sdxcDesNumShift) + 1
      else bytes >>> sdxcDesNumShift).toNat = (bytes.toNat - 1) / 4096 + 1 := by
  have whole : (bytes >>> sdxcDesNumShift).toNat = bytes.toNat / 4096 := toNat_whole
  have bound := bytes.isLt
  split
  case isTrue rest =>
    have left := rest_ne_zero_iff.mp rest
    rw [BitVec.toNat_add, whole]
    simp
    omega
  case isFalse none =>
    have left := (not_congr rest_ne_zero_iff).mp none
    omega

/-- The size of the last fragment -/
theorem toNat_remain :
    (if bytes &&& (sdxcDesBufferMaxLen - 1) ≠ 0 then bytes &&& (sdxcDesBufferMaxLen - 1)
      else sdxcDesBufferMaxLen).toNat = bytes.toNat - (bytes.toNat - 1) / 4096 * 4096 := by
  have low : (bytes &&& (sdxcDesBufferMaxLen - 1)).toNat = bytes.toNat % 4096 := toNat_and_rest
  have full : sdxcDesBufferMaxLen.toNat = 4096 := by decide
  split
  case isTrue rest =>
    have left := rest_ne_zero_iff.mp rest
    omega
  case isFalse none =>
    have left := (not_congr rest_ne_zero_iff).mp none
    omega

end Counts

section Fragments

variable {pdes address : Ulong} {count remain : U32} {final : Nat}
  (counted : count.toNat = final + 1) {index : Nat} (inside : index ≤ final)
include counted inside

theorem index_eq_last_iff : BitVec.ofNat 32 index = count - 1 ↔ index = final := by
  have bound := count.isLt
  have less : (count - 1).toNat = final := by
    have positive : (1 : U32).toNat ≤ count.toNat := by
      rw [counted]
      exact Nat.succ_le_succ (Nat.zero_le _)
    rw [BitVec.toNat_sub_of_le (BitVec.le_def.mpr positive), counted]
    rfl
  rw [← BitVec.toNat_inj, less, BitVec.toNat_ofNat, Nat.mod_eq_of_lt (by omega)]

theorem fragment_lastDes :
    (fragment pdes address count remain (BitVec.ofNat 32 index)).lastDes = true ↔
      index = final := by
  simp only [fragment, decide_eq_true_eq, index_eq_last_iff counted inside]

theorem fragment_endOfRing :
    (fragment pdes address count remain (BitVec.ofNat 32 index)).endOfRing = true ↔
      index = final := by
  simp only [fragment, decide_eq_true_eq, index_eq_last_iff counted inside]

theorem fragment_dic :
    (fragment pdes address count remain (BitVec.ofNat 32 index)).dic = false ↔ index = final := by
  simp only [fragment, decide_eq_false_iff_not, not_not, index_eq_last_iff counted inside]

theorem fragment_firstDes :
    (fragment pdes address count remain (BitVec.ofNat 32 index)).firstDes = true ↔ index = 0 := by
  have bound := count.isLt
  simp only [fragment, decide_eq_true_eq]
  rw [← BitVec.toNat_inj, BitVec.toNat_ofNat, Nat.mod_eq_of_lt (by omega)]
  rfl

theorem fragment_dataBuf1Sz (fits : remain.toNat < 2 ^ 16) :
    (fragment pdes address count remain (BitVec.ofNat 32 index)).dataBuf1Sz.toNat =
      if index = final then remain.toNat else 4096 := by
  have bound := count.isLt
  have last := index_eq_last_iff counted inside
  have several : index ≠ final → count > 1 := by
    intro before
    rw [gt_iff_lt, BitVec.lt_def, counted]
    simp only [BitVec.reduceToNat]
    omega
  unfold fragment
  by_cases atEnd : index = final
  · simp only [ne_eq, last.mpr atEnd, not_true_eq_false, and_false, if_false, if_pos atEnd,
      BitVec.toNat_setWidth]
    exact Nat.mod_eq_of_lt fits
  · simp only [ne_eq, several atEnd, (not_congr last).mpr atEnd, not_false_eq_true, and_self,
      if_true, if_neg atEnd]
    decide

theorem fragment_bufAddrPtr1 (below : address.toNat + index * 4096 < 2 ^ 32) :
    (fragment pdes address count remain (BitVec.ofNat 32 index)).bufAddrPtr1.toNat =
      address.toNat + index * 4096 := by
  have small : index < 2 ^ 20 := by omega
  simp only [fragment, sdxcDesBufferMaxLen, BitVec.toNat_setWidth, BitVec.toNat_add,
    BitVec.toNat_mul, BitVec.toNat_ofNat, BitVec.reduceToNat]
  omega

/-- A fragment that is not the last leads to the next descriptor of the pool. -/
theorem fragment_bufAddrPtr2 (before : index ≠ final) :
    (fragment pdes address count remain (BitVec.ofNat 32 index)).bufAddrPtr2 =
      BitVec.ofNat 32 (pdes.toNat + sizeofDes * (index + 1)) := by
  have last := index_eq_last_iff counted inside
  refine BitVec.eq_of_toNat_eq ?_
  simp only [fragment, if_neg ((not_congr last).mpr before), sizeofDes, BitVec.toNat_setWidth,
    BitVec.toNat_add, BitVec.toNat_mul, BitVec.toNat_ofNat, BitVec.reduceToNat]
  omega

end Fragments

/-! ### The pool after a transfer was prepared -/

theorem poolAfter_append (first second : List (Exchange HostRequest HostRequest.Reply))
    (pool : Nat → MmcDes) :
    poolAfter (first ++ second) pool = poolAfter second (poolAfter first pool) := by
  induction first generalizing pool with
  | nil => rfl
  | cons exchange rest inductionHypothesis =>
    obtain ⟨request, reply⟩ := exchange
    cases request <;> exact inductionHypothesis _

/-- The request is an access to a register. -/
def HostRequest.Register : HostRequest → Prop
  | .readl _ => True
  | .writel _ _ => True
  | _ => False

theorem poolAfter_of_register {trace : List (Exchange HostRequest HostRequest.Reply)}
    (registers : ∀ exchange ∈ trace, exchange.request.Register) (pool : Nat → MmcDes) :
    poolAfter trace pool = pool := by
  induction trace generalizing pool with
  | nil => rfl
  | cons exchange rest inductionHypothesis =>
    obtain ⟨here, later⟩ := List.forall_mem_cons.mp registers
    obtain ⟨request, reply⟩ := exchange
    cases request with
    | readl | writel => exact inductionHypothesis later pool
    | storeWord | setDes => exact here.elim

theorem run_setFragments {pdes address : Ulong} {count remain : U32} {indexes : List Nat}
    {trace : List (Exchange HostRequest HostRequest.Reply)}
    (run : Program.Run (setFragments pdes address count remain indexes) trace ())
    (pool : Nat → MmcDes) {index : Nat} (member : index ∈ indexes) :
    poolAfter trace pool index =
      fragment pdes address count remain (BitVec.ofNat 32 index) := by
  have every : ∀ pool : Nat → MmcDes, ∀ index, poolAfter trace pool index =
      if index ∈ indexes then fragment pdes address count remain (BitVec.ofNat 32 index)
      else pool index := by
    clear member
    induction indexes generalizing trace with
    | nil =>
      obtain ⟨rfl, -⟩ := run_pure_iff.mp run
      intro pool index
      rfl
    | cons first rest inductionHypothesis =>
      obtain ⟨reply, after, rfl, later⟩ := run_send_bind_iff.mp run
      intro pool index
      rw [poolAfter, inductionHypothesis later]
      by_cases inRest : index ∈ rest
      · simp [inRest]
      · by_cases here : index = first
        · subst here
          simp [inRest]
        · simp [inRest, here]
  rw [every, if_pos member]

theorem makes_awaitClear (reg : HostReg) (mask : U32) (turns : Nat) :
    Makes HostRequest.Register (awaitClear reg mask turns) := by
  induction turns with
  | zero => exact .pure none
  | succ turns inductionHypothesis =>
    exact .bind (.send trivial) fun _ => .ite inductionHypothesis (.pure _)

/-- The descriptors are set first, and the rest are accesses to registers. -/
theorem poolAfter_transfer {turns : Nat} {host : SunxiMmcHost} {data : HostData}
    {trace : List (Exchange HostRequest HostRequest.Reply)} {result : Option Int}
    (run : Program.Run (mmcTransDataByDma turns host data) trace result)
    (some : 0 < data.bytes.toNat) (pool : Nat → MmcDes) :
    ∃ (count remain : U32) (final : Nat), count.toNat = final + 1 ∧
      (0 < remain.toNat ∧ remain.toNat ≤ 4096) ∧
      data.bytes.toNat = final * 4096 + remain.toNat ∧
      ∀ index ≤ final, poolAfter trace pool index =
        fragment host.pdes data.address count remain (BitVec.ofNat 32 index) := by
  unfold mmcTransDataByDma at run
  obtain ⟨first, ⟨⟩, rest, rfl, sets, later⟩ := run_bind_iff.mp run
  have registers : ∀ exchange ∈ rest, exchange.request.Register := by
    refine (Always.run (?_ : Makes HostRequest.Register _) later
      fun _ _ => trivial).1
    refine .bind (.send trivial) fun _ => .bind (.send trivial) fun _ =>
      .bind (.send trivial) fun _ => .bind (makes_awaitClear _ _ _) fun cleared => ?_
    cases cleared with
    | none => exact .pure none
    | some cleared =>
      exact .bind (.send trivial) fun _ => .bind (.send trivial) fun _ =>
        .bind (.send trivial) fun _ => .bind (.send trivial) fun _ =>
          .bind (.send trivial) fun _ => .pure _
  have counted := toNat_buffFragNum some
  have rested := toNat_remain some
  generalize (if data.bytes &&& (sdxcDesBufferMaxLen - 1) ≠ 0 then
    (data.bytes >>> sdxcDesNumShift) + 1 else data.bytes >>> sdxcDesNumShift) = count
    at sets counted
  generalize (if data.bytes &&& (sdxcDesBufferMaxLen - 1) ≠ 0 then
    data.bytes &&& (sdxcDesBufferMaxLen - 1) else sdxcDesBufferMaxLen) = remain at sets rested
  refine ⟨count, remain, _, counted, ⟨by omega, by omega⟩, by omega, fun index inside => ?_⟩
  rw [poolAfter_append, poolAfter_of_register registers]
  exact run_setFragments sets pool (List.mem_range.mpr (by omega))

section Chain

variable {pdes : Ulong} {pool : Nat → MmcDes} (low : pdes.toNat + pdesBytes ≤ 2 ^ 32)
include low

theorem descriptorAt_ofNat {index : Nat} (inside : (index + 1) * sizeofDes ≤ pdesBytes) :
    descriptorAt pdes pool (BitVec.ofNat 32 (pdes.toNat + sizeofDes * index)) =
      some (pool index) := by
  unfold sizeofDes pdesBytes at *
  have value : (BitVec.ofNat 32 (pdes.toNat + 16 * index)).toNat = pdes.toNat + 16 * index := by
    rw [BitVec.toNat_ofNat]
    omega
  unfold descriptorAt sizeofDes pdesBytes
  simp only [value]
  rw [if_pos (by omega), Nat.add_sub_cancel_left, Nat.mul_div_cancel_left _ (by decide)]

/-- Descriptors of the pool that lead to each other are visited one after the other. -/
theorem visited_eq {address : Ulong} {count remain : U32} {final : Nat}
    (counted : count.toNat = final + 1) (fits : (final + 1) * sizeofDes ≤ pdesBytes)
    (set : ∀ index ≤ final, pool index =
      fragment pdes address count remain (BitVec.ofNat 32 index)) :
    visited pdes pool = some ((List.range (final + 1)).map fun index =>
      fragment pdes address count remain (BitVec.ofNat 32 index)) := by
  have start : pdes.setWidth 32 = BitVec.ofNat 32 (pdes.toNat + sizeofDes * 0) := by
    rw [Nat.mul_zero, Nat.add_zero]
    rfl
  have enough : final < pdesBytes / sizeofDes := by
    rw [Nat.lt_div_iff_mul_lt (by decide)]
    unfold sizeofDes pdesBytes at *
    omega
  rw [visited, start, List.range_eq_range']
  refine follow_of_linked (fun index => BitVec.ofNat 32 (pdes.toNat + sizeofDes * index))
    (fun index => fragment pdes address count remain (BitVec.ofNat 32 index))
    (fun index upper _ => ?_) (fun index upper _ => ?_) ?_ (fun index upper _ => ?_) enough
  · rw [Nat.zero_add] at upper
    rw [descriptorAt_ofNat low ((Nat.mul_le_mul_right _ (Nat.succ_le_succ upper)).trans fits),
      set index upper]
  · rw [Nat.zero_add] at upper
    exact Bool.eq_false_iff.mpr fun last =>
      Nat.ne_of_lt upper ((fragment_lastDes counted (Nat.le_of_lt upper)).mp last)
  · rw [Nat.zero_add]
    exact (fragment_lastDes counted (Nat.le_refl _)).mpr rfl
  · rw [Nat.zero_add] at upper
    exact fragment_bufAddrPtr2 counted (Nat.le_of_lt upper) (Nat.ne_of_lt upper)

end Chain

theorem describes_fragments {pdes address : Ulong} {count remain : U32} {final : Nat}
    (counted : count.toNat = final + 1) (fits : (final + 1) * sizeofDes ≤ pdesBytes)
    (some : 0 < remain.toNat) (most : remain.toNat ≤ 4096)
    (below : address.toNat + (final * 4096 + remain.toNat) ≤ 2 ^ 32) :
    Describes address.toNat (final * 4096 + remain.toNat)
      ((List.range (final + 1)).map fun index =>
        fragment pdes address count remain (BitVec.ofNat 32 index)) := by
  have small : remain.toNat < 2 ^ 16 := Nat.lt_of_le_of_lt most (by decide)
  have length : ((List.range (final + 1)).map fun index =>
      fragment pdes address count remain (BitVec.ofNat 32 index)).length = final + 1 := by
    rw [List.length_map, List.length_range]
  have found : ∀ index des, ((List.range (final + 1)).map fun index =>
      fragment pdes address count remain (BitVec.ofNat 32 index))[index]? = Option.some des →
        index ≤ final ∧ fragment pdes address count remain (BitVec.ofNat 32 index) = des := by
    intro index des here
    obtain ⟨inside, same⟩ := List.getElem?_eq_some_iff.mp here
    rw [List.getElem_map, List.getElem_range] at same
    rw [length] at inside
    exact ⟨Nat.le_of_lt_succ inside, same⟩
  constructor
  case fits => rwa [length]
  case sized =>
    intro des member
    obtain ⟨index, ranged, rfl⟩ := List.mem_map.mp member
    have inside := Nat.le_of_lt_succ (List.mem_range.mp ranged)
    rw [fragment_dataBuf1Sz counted inside small]
    split
    · exact ⟨some, most⟩
    · decide
  case covers =>
    rw [List.flatMap_map, ← flatMap_pieces]
    refine List.flatMap_congr fun index ranged => ?_
    have inside := Nat.le_of_lt_succ (List.mem_range.mp ranged)
    have lower := Nat.mul_le_mul_right 4096 inside
    rw [fragment_dataBuf1Sz counted inside small, fragment_bufAddrPtr1 counted inside (by omega)]
  case owned =>
    intro des member
    obtain ⟨index, -, rfl⟩ := List.mem_map.mp member
    exact ⟨rfl, rfl⟩
  case first =>
    intro index des here
    obtain ⟨inside, rfl⟩ := found index des here
    exact fragment_firstDes counted inside
  all_goals
    intro index des here
    obtain ⟨inside, rfl⟩ := found index des here
    rw [length, Nat.add_right_cancel_iff]
  case last => exact fragment_lastDes counted inside
  case endOfRing => exact fragment_endOfRing counted inside
  case interrupts => exact fragment_dic counted inside

/-- Whatever the controller answers and whatever was in the pool, the descriptors that it visits are
those of the buffer. -/
theorem mmcTransDataByDma_describes {turns : Nat} {host : SunxiMmcHost} {data : HostData}
    {trace : List (Exchange HostRequest HostRequest.Reply)} {result : Option Int}
    (run : Program.Run (mmcTransDataByDma turns host data) trace result)
    (low : host.pdes.toNat + pdesBytes ≤ 2 ^ 32)
    (some : 0 < data.bytes.toNat) (most : data.bytes.toNat ≤ 65535 * 512)
    (below : data.address.toNat + data.bytes.toNat ≤ 2 ^ 32) (pool : Nat → MmcDes) :
    ∃ chain, visited host.pdes (poolAfter trace pool) = Option.some chain ∧
      Describes data.address.toNat data.bytes.toNat chain := by
  obtain ⟨count, remain, final, counted, ⟨positive, small⟩, bytes, set⟩ :=
    poolAfter_transfer run some pool
  have fits : (final + 1) * sizeofDes ≤ pdesBytes := by
    unfold sizeofDes pdesBytes
    omega
  refine ⟨_, visited_eq low counted fits set, ?_⟩
  rw [bytes] at below ⊢
  exact describes_fragments counted fits positive small below

/-- 17 blocks -/
def twoFragmentsAndRest : HostData where
  address := 0x48000000
  src := fun _ => 0
  flags := mmcDataRead
  blocks := 17
  blocksize := 512

/-- A controller with memory for its descriptors -/
def pooledHost : SunxiMmcHost :=
  { emmcHost with pdes := 0x50000000 }

theorem describes_twoFragmentsAndRest :
    ∃ chain, visited 0x50000000 (poolAfter (trace (serveHost promptSmhc 2)
        (mmcTransDataByDma 1 pooledHost twoFragmentsAndRest) poweredOn)
          fun _ => fragment 0 0 1 512 0) = some chain ∧
      Describes 0x48000000 8704 chain := by
  have run := run_exec (serveHost promptSmhc 2)
    (mmcTransDataByDma 1 pooledHost twoFragmentsAndRest) poweredOn
  exact mmcTransDataByDma_describes run (by decide) (by decide) (by decide) (by decide) _

end PinePhonePkg
