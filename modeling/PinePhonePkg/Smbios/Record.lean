/-
This file embeds how an SMBIOS record is made of a template and a pack of strings.
One loop adds up the size, and another one fills the record. They agree for every
pack that there is, and the record is read back as the template and the strings.
The fill loop reads the pack without the check for a missing one that the size has.
-/

import PinePhonePkg.Dxe.Status
import PinePhonePkg.Library.StringPacks

namespace PinePhonePkg

open Library

/-! ### The record -/

/-- A fixed structure in memory; the second byte of its header is its length. -/
structure SmbiosTemplate : Type where
  memory : Buffer
  length_ge : 4 ≤ (memory 1).toNat

namespace SmbiosTemplate

/-- `Template->Length` -/
def length (template : SmbiosTemplate) : Nat := (template.memory 1).toNat

/-- The bytes of the record -/
def bytes (template : SmbiosTemplate) : List U8 :=
  (List.range template.length).map template.memory

@[simp]
theorem length_bytes (template : SmbiosTemplate) : template.bytes.length = template.length := by
  rw [bytes, List.length_map, List.length_range]

/-- The length is among the bytes. -/
theorem bytes_one (template : SmbiosTemplate) : template.bytes[1]? = some (template.memory 1) := by
  have inside : 1 < template.length := Nat.lt_of_lt_of_le (by decide) template.length_ge
  rw [bytes, List.getElem?_map, List.getElem?_range inside]
  rfl

end SmbiosTemplate

/-- `AsciiStrSize` of a string of a pack -/
def asciiStrSize (string : PackString) : Nat := string.chars.length + 1

/-- `for (Index = 0; StringPack[Index] != NULL; Index++)` of the size -/
def sizeLoop (size : Ulong) : List PackString → Ulong
  | [] => size
  | string :: rest => sizeLoop (size + BitVec.ofNat 64 (asciiStrSize string)) rest

/-- The size that is allocated; there is no pack where `StringPack` is null. -/
def buildSize (template : SmbiosTemplate) (pack : Option (List PackString)) : Ulong :=
  let size : Ulong := (template.memory 1).setWidth 64
  match pack with
  | none => size + 2
  | some strings =>
    let size := sizeLoop size strings
    let size := if strings.isEmpty then size + 1 else size
    size + 1

/-- `for (Index = 0; StringPack[Index] != NULL; Index++)` of the record: the record, and how far
`Str` has come -/
def fillLoop (record : List U8) (str : Nat) : List PackString → Option (List U8 × Nat)
  | [] => some (record, str)
  | string :: rest => do
    let record ← storeBytes record str string.bytes
    fillLoop record (str + asciiStrSize string) rest

/-- The record in a pool of zero bytes. A write behind the pool has no result, and neither has
the read of `StringPack[0]` where `StringPack` is null. -/
def buildRecord (template : SmbiosTemplate) (pack : Option (List PackString)) (size : Ulong) :
    Option (List U8) := do
  let record := List.replicate size.toNat 0
  let record ← storeBytes record 0 template.bytes
  let length ← record[1]?
  let strings ← pack
  let (record, str) ← fillLoop record length.toNat strings
  storeBytes record str [0]

/-! ### The function -/

/-- The number of a record -/
abbrev EfiSmbiosHandle : Type := BitVec 16

def smbiosHandlePiReserved : EfiSmbiosHandle := 0xFFFE

/-- What the function calls: the status of the search for the protocol, which sizes the pool can
give, and the status and handle for a record that is added -/
structure SmbiosServices : Type where
  locateProtocol : Ulong
  allocateZeroPool : Ulong → Bool
  add : List U8 → EfiSmbiosHandle → Ulong × EfiSmbiosHandle

/-- The status, what `Handle` points to where it is not null, the record that is added, and whether
the assertion about the status of `Add` stops the driver there -/
structure SmbiosLogged : Type where
  status : Ulong
  handle : Option EfiSmbiosHandle
  added : Option (List U8)
  asserted : Bool

/-- `LogSmbiosData`; a fault has no result. -/
def logSmbiosData (services : SmbiosServices) (template : SmbiosTemplate)
    (pack : Option (List PackString)) (handle : Option EfiSmbiosHandle) : Option SmbiosLogged :=
  if efiError services.locateProtocol then some ⟨services.locateProtocol, handle, none, false⟩
  else
    let size := buildSize template pack
    if services.allocateZeroPool size then do
      let record ← buildRecord template pack size
      let (status, smbiosHandle) := services.add record smbiosHandlePiReserved
      some ⟨status, handle.map fun _ => smbiosHandle, some record, efiError status⟩
    else some ⟨efiOutOfResources, handle, none, false⟩

/-! ### Right records -/

/-- A record by its own length field: the formatted area, the strings behind it up to an empty
one, and the first two zero bytes side by side behind it, which are its last bytes. -/
structure ReadsBack (record : List U8) (template : SmbiosTemplate)
    (strings : List PackString) : Prop where
  formatted : record.take (record.getD 1 0).toNat = template.bytes
  strings : readStrings [] (record.drop (record.getD 1 0).toNat) =
    some (strings.map PackString.chars)
  ending : pastDoubleZero (record.drop (record.getD 1 0).toNat) =
    some (record.length - (record.getD 1 0).toNat)

/-- The function never comes to a fault, whether or not it is stopped because its record was refused,
and where the protocol and the memory are there, it adds a record of all of that memory that reads
back. -/
def LogsRight (template : SmbiosTemplate) (pack : Option (List PackString)) : Prop :=
  ∀ services handle, ∃ logged, logSmbiosData services template pack handle = some logged ∧
    (efiError services.locateProtocol = false →
      services.allocateZeroPool (buildSize template pack) →
      ∃ record, logged.added = some record ∧
        record.length = (buildSize template pack).toNat ∧
        ReadsBack record template (pack.getD []))

/-- The bytes that a record has at least -/
def recordBytes (template : SmbiosTemplate) (strings : List PackString) : Nat :=
  template.length + (packBytes strings).length + 1

/-! ### The two loops -/

section Loops

variable (strings : List PackString)

theorem sizeLoop_toNat (size : Ulong) :
    (sizeLoop size strings).toNat = (size.toNat + (packBytes strings).length) % 2 ^ 64 := by
  induction strings generalizing size with
  | nil => exact (Nat.mod_eq_of_lt size.isLt).symm
  | cons string rest inductionHypothesis =>
    rw [sizeLoop, inductionHypothesis, BitVec.toNat_add, BitVec.toNat_ofNat, packBytes_cons,
      List.length_append, PackString.length_bytes, asciiStrSize]
    omega

/-- A fill that has a result keeps the length, and has come as far as the strings are long. -/
theorem fillLoop_some {record : List U8} {str : Nat} {filled : List U8 × Nat}
    (found : fillLoop record str strings = some filled) :
    filled.1.length = record.length ∧ filled.2 = str + (packBytes strings).length := by
  induction strings generalizing record str with
  | nil =>
    obtain rfl := Option.some.inj found
    exact ⟨rfl, rfl⟩
  | cons string rest inductionHypothesis =>
    obtain ⟨stored, isStored, next⟩ := Option.bind_eq_some_iff.mp found
    obtain ⟨-, sameLength⟩ := storeBytes_length isStored
    obtain ⟨keeps, reaches⟩ := inductionHypothesis next
    refine ⟨keeps.trans sameLength, ?_⟩
    rw [reaches, packBytes_cons, List.length_append, PackString.length_bytes, asciiStrSize]
    omega

/-- The strings are put behind what is there, where there is room for them. -/
theorem fillLoop_next (front : List U8) (room : Nat) (fits : (packBytes strings).length ≤ room) :
    fillLoop (front ++ List.replicate room 0) front.length strings =
      some (front ++ packBytes strings ++
        List.replicate (room - (packBytes strings).length) 0,
        front.length + (packBytes strings).length) := by
  induction strings generalizing front room with
  | nil =>
    show some _ = some _
    rw [show packBytes [] = [] from rfl, List.append_nil]
    rfl
  | cons string rest inductionHypothesis =>
    rw [packBytes_cons, List.length_append] at fits
    have place : front.length + asciiStrSize string = (front ++ string.bytes).length := by
      rw [List.length_append, PackString.length_bytes, asciiStrSize]
    have later : (packBytes rest).length ≤ room - string.bytes.length := by omega
    rw [fillLoop, storeBytes_next front string.bytes room (by omega)]
    simp only [Option.bind_eq_bind, Option.bind_some]
    rw [place, inductionHypothesis (front ++ string.bytes) _ later]
    simp only [packBytes_cons, List.append_assoc, List.length_append, Nat.sub_sub, Nat.add_assoc]

end Loops

/-! ### The record that is built -/

section Built

variable (template : SmbiosTemplate) (strings : List PackString)

/-- The size has room for all bytes, and for one more where there are no strings. -/
theorem recordSize_toNat (fits : recordBytes template strings < 2 ^ 64) :
    (buildSize template (some strings)).toNat =
      recordBytes template strings + if strings = [] then 1 else 0 := by
  have small : template.length < 256 := (template.memory 1).isLt
  have whole : ((template.memory 1).setWidth 64 : Ulong).toNat = template.length :=
    BitVec.toNat_setWidth_of_le (by decide)
  have one : (1 : Ulong).toNat = 1 := rfl
  unfold recordBytes at fits ⊢
  cases strings with
  | nil =>
    have nothing : (packBytes []).length = 0 := rfl
    simp only [buildSize, sizeLoop, List.isEmpty_nil, if_true, BitVec.toNat_add, whole, nothing,
      one]
    omega
  | cons string rest =>
    simp only [buildSize, List.isEmpty_cons, Bool.false_eq_true, if_false, BitVec.toNat_add,
      sizeLoop_toNat, whole, one, reduceCtorEq]
    omega

theorem buildRecord_eq {size : Ulong} (fits : recordBytes template strings ≤ size.toNat) :
    buildRecord template (some strings) size =
      some (template.bytes ++ packBytes strings ++
        0 :: List.replicate (size.toNat - recordBytes template strings) 0) := by
  have inside : 1 < template.bytes.length := by
    rw [template.length_bytes]
    exact Nat.lt_of_lt_of_le (by decide) template.length_ge
  have room : template.bytes.length + (packBytes strings).length + 1 ≤ size.toNat := by
    rw [template.length_bytes]
    exact fits
  have copied := storeBytes_next [] template.bytes size.toNat (by omega)
  have filled := fillLoop_next strings template.bytes (size.toNat - template.bytes.length)
    (by omega)
  have ended := storeBytes_next (template.bytes ++ packBytes strings) [0]
    (size.toNat - template.bytes.length - (packBytes strings).length)
    (by rw [List.length_singleton]; omega)
  rw [List.nil_append, List.nil_append, List.length_nil] at copied
  have second :
      (template.bytes ++ List.replicate (size.toNat - template.bytes.length) 0)[1]? =
        some (template.memory 1) := by
    rw [List.getElem?_append_left inside, template.bytes_one]
  have start : (template.memory 1).toNat = template.bytes.length := template.length_bytes.symm
  simp only [buildRecord, Option.bind_eq_bind, copied, Option.bind_some, second, start, filled]
  rw [← List.length_append, ended, List.append_assoc _ [0], List.singleton_append]
  simp only [template.length_bytes, List.length_singleton, recordBytes, Nat.sub_sub, Nat.add_assoc]

/-- A record that is built has room for all bytes. -/
theorem buildRecord_room {pack : Option (List PackString)} {size : Ulong} {record : List U8}
    (built : buildRecord template pack size = some record) :
    ∃ strings, pack = some strings ∧ recordBytes template strings ≤ size.toNat ∧
      record.length = size.toNat := by
  obtain ⟨copied, isCopied, next⟩ := Option.bind_eq_some_iff.mp built
  obtain ⟨fits, sameLength⟩ := storeBytes_length isCopied
  obtain ⟨length, isLength, next⟩ := Option.bind_eq_some_iff.mp next
  obtain ⟨strings, isPack, next⟩ := Option.bind_eq_some_iff.mp next
  obtain ⟨⟨filled, str⟩, isFilled, ended⟩ := Option.bind_eq_some_iff.mp next
  obtain ⟨keeps, reaches⟩ : filled.length = _ ∧ str = _ := fillLoop_some strings isFilled
  obtain ⟨room, whole⟩ := storeBytes_length ended
  have isTemplate : length = template.memory 1 := by
    have stored : (template.bytes ++ (List.replicate size.toNat 0).drop template.bytes.length)[1]? =
        some length := by
      rw [← isLength]
      unfold storeBytes at isCopied
      rw [if_pos fits] at isCopied
      rw [← Option.some.inj isCopied, List.take_zero, List.nil_append, Nat.zero_add]
    rw [List.getElem?_append_left, template.bytes_one] at stored
    · exact (Option.some.inj stored).symm
    · rw [template.length_bytes]
      exact Nat.lt_of_lt_of_le (by decide) template.length_ge
  rw [List.length_replicate] at sameLength
  refine ⟨strings, isPack, ?_, (whole.trans keeps).trans sameLength⟩
  rw [reaches, keeps, sameLength, isTemplate, List.length_singleton] at room
  exact room

/-- The bytes of the template, the strings, an empty string, and a zero byte more where there are
no strings, are read back. -/
theorem readsBack (record : List U8)
    (isRecord : record = template.bytes ++ packBytes strings ++
      0 :: List.replicate (if strings = [] then 1 else 0) 0) :
    ReadsBack record template strings := by
  have inside : 1 < template.bytes.length := by
    rw [template.length_bytes]
    exact Nat.lt_of_lt_of_le (by decide) template.length_ge
  have byte : (record.getD 1 0).toNat = template.bytes.length := by
    rw [isRecord, List.append_assoc, List.getD_eq_getElem?_getD, List.getElem?_append_left inside,
      template.bytes_one, template.length_bytes]
    rfl
  have behind : record.drop template.bytes.length =
      packBytes strings ++ 0 :: List.replicate (if strings = [] then 1 else 0) 0 := by
    rw [isRecord, List.append_assoc, List.drop_left]
  refine ⟨?_, ?_, ?_⟩
  · rw [byte, isRecord, List.append_assoc, List.take_left]
  · rw [byte, behind, readStrings_pack]
  · rw [byte, ← List.length_drop, behind]
    cases strings with
    | nil => rfl
    | cons string rest =>
      rw [pastDoubleZero_pack, if_neg (List.cons_ne_nil _ _), List.length_append]
      rfl

end Built

/-! ### When records are right -/

/-- Services that find the protocol and give all memory -/
def willingServices : SmbiosServices :=
  ⟨efiSuccess, fun _ => true, fun _ handle => (efiSuccess, handle)⟩

/-- Records are right exactly if there is a pack and the size of the record is a word. -/
theorem logsRight_iff (template : SmbiosTemplate) (pack : Option (List PackString)) :
    LogsRight template pack ↔
      ∃ strings, pack = some strings ∧ recordBytes template strings < 2 ^ 64 := by
  constructor
  · intro right
    obtain ⟨logged, isLogged, added⟩ := right willingServices none
    obtain ⟨record, isBuilt, -⟩ := Option.bind_eq_some_iff.mp isLogged
    obtain ⟨strings, isPack, room, -⟩ := buildRecord_room template isBuilt
    exact ⟨strings, isPack, Nat.lt_of_le_of_lt room (buildSize template pack).isLt⟩
  · rintro ⟨strings, rfl, fits⟩ services handle
    have size := recordSize_toNat template strings fits
    have built := buildRecord_eq template strings (size ▸ Nat.le_add_right _ _)
    rw [size, Nat.add_sub_cancel_left] at built
    have reads := readsBack template strings _ rfl
    unfold logSmbiosData
    split
    · rename_i missing
      exact ⟨_, rfl, fun found => absurd missing (by rw [found]; decide)⟩
    · dsimp only
      split
      · refine ⟨_, congrArg (Option.bind · _) built, fun _ _ => ⟨_, rfl, ?_, reads⟩⟩
        exact (buildRecord_room template built).elim fun _ rest => rest.2.2
      · rename_i refused
        exact ⟨_, rfl, fun _ given => absurd given refused⟩

/-- A template of only its header -/
def headerTemplate : SmbiosTemplate := ⟨fun address => if address = 1 then 4 else 0, by decide⟩

/-- Where there is no pack, the fill loop reads it all the same. -/
theorem not_logsRight_null : ¬ LogsRight headerTemplate none := by
  intro right
  obtain ⟨logged, isLogged, -⟩ := right willingServices none
  have fault : (logSmbiosData willingServices headerTemplate none none).isNone := rfl
  rw [isLogged] at fault
  exact absurd fault Bool.false_ne_true

example : buildRecord headerTemplate (some []) (buildSize headerTemplate (some [])) =
    some [0, 4, 0, 0, 0, 0] := by decide

end PinePhonePkg
