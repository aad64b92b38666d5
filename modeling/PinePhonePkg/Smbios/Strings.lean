/-
This file embeds how the SMBIOS strings are updated from the script. Each fetch has
a buffer of 128 bytes, and says so with a count that the fetch takes for words. So
a fetch stays in the buffer exactly if the entry is no string of more than 32 words.
A text that fits is passed on with its zero byte either way.
-/

import PinePhonePkg.Script.Agreement
import PinePhonePkg.Smbios.Record

namespace PinePhonePkg

open Library

/-! ### The code -/

/-- The characters of a text -/
def asciiBytes (text : String) : List U8 := text.toList.map fun char => BitVec.ofNat 8 char.toNat

/-- The code of a status of the script -/
def scriptCode : ScriptStatus → Ulong
  | .ok => 0
  | .emptyBuffer => -1
  | .keynameNull => -2
  | .dataValueNull => -3
  | .keyNotFind => -4
  | .bufferNotEnough => -5

/-- What the updates call: the handle after `LogSmbiosData`, the status of the search for the
protocol, the memory from `Str` on before it is cleared, and the status of `UpdateString` for a
handle, a number and a string -/
structure StringServices : Type where
  smbiosHandle : EfiSmbiosHandle
  locateProtocol : Ulong
  allocateZeroPool : Option Buffer
  updateString : EfiSmbiosHandle → Ulong → Buffer → Ulong

/-- A fetch that is made: the memory from `Str` on before and after it, and what is passed to
`UpdateString` then -/
structure StringFetch : Type where
  mainName : List U8
  subName : List U8
  before : Buffer
  status : ScriptStatus
  after : Buffer
  passed : Option Buffer

/-- `script_parser_fetch(mainName, subName, (INT32 *)Str, 128)` -/
def stringFetch (parser : ScriptParser) (mainName subName : List U8) (str : Buffer) :
    StringFetch :=
  let fetched := parser.scriptParserFetch mainName subName str 128
  let after := fetched.2.getD str
  { mainName, subName, before := str, status := fetched.1, after
    passed := if fetched.1 = .ok then some after else none }

/-- The fetches of a function one after the other, with the number of the string for each. The
buffer is cleared between them, and an update that fails ends them. -/
def updateStrings (parser : ScriptParser) (services : StringServices) (mainName : List U8) :
    List (String × Ulong) → Buffer → Ulong → List StringFetch × Ulong
  | [], _, status => ([], status)
  | (key, number) :: rest, str, _ =>
    let fetch := stringFetch parser mainName (asciiBytes key) str
    let status :=
      if fetch.status = .ok then services.updateString services.smbiosHandle number fetch.after
      else scriptCode fetch.status
    if fetch.status = .ok ∧ status ≠ efiSuccess then ([fetch], status)
    else
      let later := updateStrings parser services mainName rest (setMem fetch.after 0 128 0) status
      (fetch :: later.1, later.2)

/-- The section that a function reads, and its keys with the numbers of the strings -/
structure SmbiosUpdate : Type where
  mainName : String
  keys : List (String × Ulong)

/-- A function from the search for the protocol on -/
def SmbiosUpdate.run (update : SmbiosUpdate) (parser : ScriptParser) (services : StringServices) :
    List StringFetch × Ulong :=
  if efiError services.locateProtocol then ([], services.locateProtocol)
  else
    match services.allocateZeroPool with
    | none => ([], efiOutOfResources)
    | some pool =>
      updateStrings parser services (asciiBytes update.mainName) update.keys (setMem pool 0 128 0)
        efiSuccess

/-- The updates of the records: the section of the script, and the numbers of the strings by their
keys -/
def sunxiUpdateSmbiosType0 : SmbiosUpdate :=
  ⟨"type0", [("vendor", 1), ("version", 2), ("release_date", 3)]⟩

def sunxiUpdateSmbiosType1 : SmbiosUpdate :=
  ⟨"type1", [("manufacture", 1), ("product_name", 2), ("version", 3), ("serial_num", 4),
    ("sku_num", 5), ("family", 6)]⟩

def sunxiUpdateSmbiosType2 : SmbiosUpdate :=
  ⟨"type2", [("manufacture", 1), ("product_name", 2), ("version", 3), ("serial_num", 4),
    ("asset_tag", 5), ("chassis", 6)]⟩

def sunxiUpdateSmbiosType3 : SmbiosUpdate :=
  ⟨"type3", [("manufacture", 1), ("version", 2), ("serial_num", 3), ("asset_tag", 4)]⟩

def sunxiUpdateSmbiosType4 : SmbiosUpdate :=
  ⟨"type4", [("socket", 1), ("manufacture", 2), ("version", 3), ("serial_num", 4),
    ("asset_tag", 5), ("part_num", 6)]⟩

def sunxiUpdateSmbiosType7 : SmbiosUpdate := ⟨"type7", [("socket", 1)]⟩

def sunxiUpdateSmbiosType9 : SmbiosUpdate := ⟨"type9", [("slot", 1)]⟩

def sunxiUpdateSmbiosType17 : SmbiosUpdate :=
  ⟨"type17", [("device_locator", 1), ("bank_locator", 2), ("manufacture", 3)]⟩

/-- The functions of the entry point that fetch strings -/
def smbiosUpdates : List SmbiosUpdate :=
  [sunxiUpdateSmbiosType0, sunxiUpdateSmbiosType1, sunxiUpdateSmbiosType2, sunxiUpdateSmbiosType3,
    sunxiUpdateSmbiosType4, sunxiUpdateSmbiosType7, sunxiUpdateSmbiosType9, sunxiUpdateSmbiosType17]

/-! ### Right fetches -/

/-- The text of a string: its bytes in front of the first zero byte, if it has one -/
def entryText (image : Buffer) (subKey : Nat) : List U8 :=
  asciiChars (4 * (wordCount image subKey).toNat) (Memory.drop image (subKeyOffset image subKey))

/-- A fetch writes into its buffer only, and the text of a string is passed on. -/
structure FetchRight (image : Buffer) (fetch : StringFetch) : Prop where
  inside : ∀ place, 128 ≤ place → fetch.after place = fetch.before place
  text : ∀ subKey, fetchedKey image fetch.mainName fetch.subName = some subKey →
    valueType image subKey = valueTypeString → fetch.status = .ok →
    (entryText image subKey).length ≤ 127 →
    ∃ passed, fetch.passed = some passed ∧ NameIs passed (entryText image subKey)

/-- Each fetch that the functions make is right, whatever they call. -/
def StringsRight (image : Buffer) : Prop :=
  ∀ update ∈ smbiosUpdates, ∀ services,
    ∀ fetch ∈ (update.run (scriptParser image) services).1, FetchRight image fetch

/-- The entry, if there is one, is no string of more than 32 words. -/
def EntryFits (image : Buffer) (mainName subName : List U8) : Prop :=
  ∀ subKey, fetchedKey image mainName subName = some subKey →
    valueType image subKey = valueTypeString → (wordCount image subKey).toNat ≤ 32

/-! ### One fetch -/

/-- The buffer is clear. -/
def StrClear (str : Buffer) : Prop := ∀ place < 128, str place = 0

theorem strClear_setMem (str : Buffer) : StrClear (setMem str 0 128 0) := by
  intro place inside
  have cleared := Memory.overwrite_inside str 0 128 (fun _ => BitVec.ofNat 8 0) place inside
  rwa [Nat.zero_add] at cleared

theorem setMem_behind (str : Buffer) {place : Nat} (behind : 128 ≤ place) :
    setMem str 0 128 0 place = str place :=
  Memory.overwrite_outside str 0 128 _ place (.inr (by omega))

section Fetch

variable {image : Buffer} {mainName subName : List U8} {str : Buffer}

/-- A fetch that finds a key does what the fetch of its value does. -/
theorem stringFetch_found {subKey : Nat} (found : fetchedKey image mainName subName = some subKey) :
    (stringFetch (scriptParser image) mainName subName str).status =
        (fetchValue image subKey (fetchName subName) str 128).1 ∧
      (stringFetch (scriptParser image) mainName subName str).after =
        (fetchValue image subKey (fetchName subName) str 128).2 := by
  unfold stringFetch
  rw [scriptParserFetch_cases, if_neg (sections_of_fetched found), found]
  exact ⟨rfl, rfl⟩

/-- A fetch that finds no key changes nothing. -/
theorem stringFetch_missing (missing : fetchedKey image mainName subName = none) :
    (stringFetch (scriptParser image) mainName subName str).after = str := by
  unfold stringFetch
  rw [scriptParserFetch_cases, missing]
  split <;> rfl

/-- A string is copied up to 128 words. -/
theorem stringFetch_string {subKey : Nat} (found : fetchedKey image mainName subName = some subKey)
    (type : valueType image subKey = valueTypeString) :
    (stringFetch (scriptParser image) mainName subName str).after =
      str.overwrite 0 (4 * min 128 (wordCount image subKey).toNat)
        (Memory.drop image (subKeyOffset image subKey)) := by
  rw [(stringFetch_found found).2, fetchValue_string _ str type (by decide)]
  rfl

/-- A pin and a word are inside of the buffer. -/
theorem fetchValue_inside {subKey : Nat} (notString : valueType image subKey ≠ valueTypeString)
    (short : subName.length < 32) {place : Nat} (behind : 128 ≤ place) :
    (fetchValue image subKey subName str 128).2 place = str place := by
  cases accepted : patchable (valueType image subKey) with
  | false => rw [fetchValue_other subName str accepted]
  | true =>
    rcases patchable_cases accepted with single | string | gpio
    · rw [fetchValue_singleWord subName str single]
      exact Memory.overwrite_outside str 0 4 _ place (by omega)
    · exact absurd string notString
    · rw [fetchValue_gpioWord_ok subName str gpio (by decide) (by decide)]
      have name : asciiStrCpyS str 32 subName place = str place := by
        unfold asciiStrCpyS
        rw [if_pos short]
        exact Memory.overwrite_outside str 0 _ _ place (by omega)
      exact (Memory.overwrite_outside _ 32 24 _ place (by omega)).trans name

theorem stringFetch_inside (fits : EntryFits image mainName subName) {place : Nat}
    (behind : 128 ≤ place) :
    (stringFetch (scriptParser image) mainName subName str).after place = str place := by
  cases found : fetchedKey image mainName subName with
  | none => rw [stringFetch_missing found]
  | some subKey =>
    by_cases type : valueType image subKey = valueTypeString
    · have few := fits subKey found type
      rw [stringFetch_string found type]
      exact Memory.overwrite_outside str 0 _ _ place (by omega)
    · rw [(stringFetch_found found).2]
      exact fetchValue_inside type (fetchName_short subName) behind

/-- A text that fits is in the buffer with its zero byte, from the copy or from the clearing. -/
theorem stringFetch_text {subKey : Nat} (clear : StrClear str)
    (found : fetchedKey image mainName subName = some subKey)
    (type : valueType image subKey = valueTypeString)
    (short : (entryText image subKey).length ≤ 127) :
    NameIs (stringFetch (scriptParser image) mainName subName str).after
      (entryText image subKey) := by
  rw [stringFetch_string found type]
  have length := asciiChars_length (4 * (wordCount image subKey).toNat)
    (Memory.drop image (subKeyOffset image subKey))
  have copied (place : Nat) (inside : place < 4 * min 128 (wordCount image subKey).toNat) :=
    Memory.overwrite_inside str 0 _ (Memory.drop image (subKeyOffset image subKey)) place inside
  simp only [Nat.zero_add] at copied
  unfold entryText at short ⊢
  refine ⟨fun index inside => ?_, ?_⟩
  · rw [copied index (by omega), asciiChars_getElem]
  · by_cases ended : (asciiChars (4 * (wordCount image subKey).toNat)
        (Memory.drop image (subKeyOffset image subKey))).length < 4 * (wordCount image subKey).toNat
    · rw [copied _ (by omega)]
      exact asciiChars_end _ ended
    · rw [Memory.overwrite_outside str 0 _ _ _ (.inr (by omega))]
      exact clear _ (by omega)

end Fetch

/-! ### All fetches of a function -/

section Run

variable (parser : ScriptParser) (services : StringServices) (mainName : List U8)

/-- The fetches are of the keys, and each has a clear buffer. -/
theorem updateStrings_fetches (keys : List (String × Ulong)) {str : Buffer} {status : Ulong}
    (clear : StrClear str) {fetch : StringFetch}
    (made : fetch ∈ (updateStrings parser services mainName keys str status).1) :
    ∃ key ∈ keys, ∃ before, StrClear before ∧
      fetch = stringFetch parser mainName (asciiBytes key.1) before := by
  induction keys generalizing str status with
  | nil => exact absurd made List.not_mem_nil
  | cons key rest inductionHypothesis =>
    unfold updateStrings at made
    dsimp only at made
    generalize (if (stringFetch parser mainName (asciiBytes key.1) str).status = .ok then
      services.updateString _ _ _ else scriptCode _) = answer at made
    split at made
    · exact ⟨key, List.mem_cons_self, str, clear, List.mem_singleton.mp made⟩
    · rcases List.mem_cons.mp made with here | later
      · exact ⟨key, List.mem_cons_self, str, clear, here⟩
      · obtain ⟨other, among, before, isClear, isFetch⟩ :=
          inductionHypothesis (strClear_setMem _) later
        exact ⟨other, List.mem_cons_of_mem _ among, before, isClear, isFetch⟩

/-- Where all updates succeed, all keys are fetched; and if no fetch writes behind the buffer, what
is there stays. -/
theorem updateStrings_all (willing : ∀ handle number str,
      services.updateString handle number str = efiSuccess)
    (keys : List (String × Ulong)) {str : Buffer} {status : Ulong}
    (inside : ∀ fetch ∈ (updateStrings parser services mainName keys str status).1,
      ∀ place, 128 ≤ place → fetch.after place = fetch.before place) :
    ∀ key ∈ keys, ∃ before, (∀ place, 128 ≤ place → before place = str place) ∧
      stringFetch parser mainName (asciiBytes key.1) before ∈
        (updateStrings parser services mainName keys str status).1 := by
  induction keys generalizing str status with
  | nil => exact fun key among => absurd among List.not_mem_nil
  | cons first rest inductionHypothesis =>
    have goesOn (result : ScriptStatus) (number : Ulong) (after : Buffer) :
        ¬(result = .ok ∧ (if result = .ok then services.updateString services.smbiosHandle number
          after else scriptCode result) ≠ efiSuccess) := by
      rintro ⟨isOk, failed⟩
      rw [if_pos isOk, willing] at failed
      exact failed rfl
    unfold updateStrings at inside ⊢
    dsimp only at inside ⊢
    rw [if_neg (goesOn _ _ _)] at inside ⊢
    intro key among
    rcases List.mem_cons.mp among with rfl | later
    · exact ⟨str, fun _ _ => rfl, List.mem_cons_self⟩
    · obtain ⟨before, same, made⟩ := inductionHypothesis
        (fun fetch isLater => inside fetch (List.mem_cons_of_mem _ isLater)) key later
      refine ⟨before, fun place behind => ?_, List.mem_cons_of_mem _ made⟩
      rw [same place behind, setMem_behind _ behind]
      exact inside _ List.mem_cons_self place behind

end Run

/-! ### When all fetches are right -/

/-- Services that succeed, with some memory from `Str` on -/
def stringServices (memory : Buffer) : StringServices :=
  ⟨0, efiSuccess, some memory, fun _ _ _ => efiSuccess⟩

theorem run_stringServices (update : SmbiosUpdate) (parser : ScriptParser) (memory : Buffer) :
    update.run parser (stringServices memory) =
      updateStrings parser (stringServices memory) (asciiBytes update.mainName) update.keys
        (setMem memory 0 128 0) efiSuccess := by
  unfold SmbiosUpdate.run
  rw [if_neg (by show ¬efiError efiSuccess = true; decide)]
  rfl

/-- The fetches are right exactly if each entry that they name fits. -/
theorem stringsRight_iff (image : Buffer) :
    StringsRight image ↔ ∀ update ∈ smbiosUpdates, ∀ key ∈ update.keys,
      EntryFits image (asciiBytes update.mainName) (asciiBytes key.1) := by
  constructor
  · intro right update isUpdate key isKey subKey found type
    by_contra many
    -- behind the buffer is a byte that the entry has not
    let memory : Buffer := fun _ => image (subKeyOffset image subKey + 128) + 1
    have fetches : ∀ fetch ∈ (updateStrings (scriptParser image) (stringServices memory)
        (asciiBytes update.mainName) update.keys (setMem memory 0 128 0) efiSuccess).1,
        FetchRight image fetch := by
      rw [← run_stringServices]
      exact right update isUpdate (stringServices memory)
    obtain ⟨before, same, made⟩ := updateStrings_all (scriptParser image) (stringServices memory)
      (asciiBytes update.mainName) (fun _ _ _ => rfl) update.keys
      (fun fetch isFetch => (fetches fetch isFetch).inside) key isKey
    have kept := (fetches _ made).inside 128 (Nat.le_refl _)
    have copied := Memory.overwrite_inside before 0 (4 * min 128 (wordCount image subKey).toNat)
      (Memory.drop image (subKeyOffset image subKey)) 128 (by omega)
    rw [Nat.zero_add] at copied
    rw [stringFetch_string found type, copied] at kept
    have differs : image (subKeyOffset image subKey + 128) =
        image (subKeyOffset image subKey + 128) + 1 :=
      kept.trans ((same 128 (Nat.le_refl _)).trans (setMem_behind memory (Nat.le_refl _)))
    bv_omega
  · intro fits update isUpdate services fetch made
    unfold SmbiosUpdate.run at made
    split at made
    · exact absurd made List.not_mem_nil
    · split at made
      · exact absurd made List.not_mem_nil
      · obtain ⟨key, isKey, before, clear, rfl⟩ :=
          updateStrings_fetches _ _ _ update.keys (strClear_setMem _) made
        refine ⟨fun place behind => stringFetch_inside (fits update isUpdate key isKey) behind,
          fun subKey found type succeeds short => ⟨_, if_pos succeeds, ?_⟩⟩
        exact stringFetch_text clear found type short

/-- The section type0 with the key vendor, which has a string of 33 words. -/
def longVendorScript : Buffer :=
  let image := Memory.setWord (fun _ => 0) 0 4 1
  let image := Memory.setWord image 16 5 0x3065707974
  let image := Memory.setWord image 48 4 1
  let image := Memory.setWord image 52 4 14
  let image := Memory.setWord image 56 6 0x726f646e6576
  let image := Memory.setWord image 88 4 24
  let image := Memory.setWord image 92 4 0x20021
  image.overwrite 96 132 fun _ => 0x41

theorem longVendorScript_wellFormed : ScriptWellFormed longVendorScript :=
  oneKey_wellFormed (by decide +kernel) (by decide +kernel) (by decide +kernel)
    ⟨5, by decide, by decide +kernel⟩ ⟨6, by decide, by decide +kernel⟩ (by decide +kernel)

/-- A string of 33 words is written behind the buffer. -/
theorem not_stringsRight_long : ¬ ∀ image, ScriptWellFormed image → StringsRight image := by
  intro claim
  have fetches := claim longVendorScript longVendorScript_wellFormed sunxiUpdateSmbiosType0
    List.mem_cons_self (stringServices fun _ => 0)
    (stringFetch (scriptParser longVendorScript) (asciiBytes "type0") (asciiBytes "vendor")
      (setMem (fun _ => 0) 0 128 0))
    (by rw [run_stringServices]; exact List.mem_cons_self)
  exact absurd (fetches.inside 128 (Nat.le_refl _)) (by decide +kernel)

end PinePhonePkg
