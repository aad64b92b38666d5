/-
This file compares the readers of a script image. They select the same entry
unless a name is cut for one of them only or the first section of a name lacks
the key, and what they deliver differs for strings and for empty values.
-/

import PinePhonePkg.Script.Readers

namespace PinePhonePkg

open Library

/-! ### What a search comes to -/

section Search

variable (image : Buffer) (mainName subName : List U8)

/-- The section has the name. -/
def SectionIs (index : Nat) : Prop := NameIs (Memory.drop image (mainKeyAt index)) mainName

/-- A section of the image has the names. -/
def HasKey (index : Nat) : Prop :=
  index < sectionCount image ∧ SectionIs image mainName index ∧
    ∃ place < mainKeyLenth image (mainKeyAt index),
      NameIs (Memory.drop image (subKeyAt image (mainKeyAt index) place)) subName

/-- The first section of the image that has the name. -/
def FirstNamed (index : Nat) : Prop :=
  index < sectionCount image ∧ SectionIs image mainName index ∧
    ∀ earlier < index, ¬ SectionIs image mainName earlier

theorem findSubKey_eq_none_iff (mainKey index left : Nat) :
    findSubKey image subName (fun _ => true) mainKey index left = none ↔
      ∀ place, index ≤ place → place < index + left →
        ¬ NameIs (Memory.drop image (subKeyAt image mainKey place)) subName := by
  induction left generalizing index with
  | zero => exact iff_of_true rfl fun place reached inside => by omega
  | succ left inductionHypothesis =>
    unfold findSubKey
    rw [Bool.and_true]
    by_cases here : asciiStrEq subName (Memory.drop image (subKeyAt image mainKey index)) = true
    · rw [if_pos here]
      refine iff_of_false (Option.some_ne_none _) fun absent => ?_
      exact absent index (Nat.le_refl _) (by omega) ((asciiStrEq_iff _ _).mp here)
    · rw [if_neg here, inductionHypothesis]
      refine ⟨fun absent place reached inside => ?_, fun absent place reached inside =>
        absent place (by omega) (by omega)⟩
      by_cases same : place = index
      · rw [same]
        exact fun named => here ((asciiStrEq_iff _ _).mpr named)
      · exact absent place (by omega) (by omega)

/-- The search in one section. -/
def sectionKey (index : Nat) : Option Nat :=
  findSubKey image subName (fun _ => true) (mainKeyAt index) 0 (mainKeyLenth image (mainKeyAt index))

theorem sectionKey_eq_none_iff (index : Nat) :
    sectionKey image subName index = none ↔
      ¬ ∃ place < mainKeyLenth image (mainKeyAt index),
        NameIs (Memory.drop image (subKeyAt image (mainKeyAt index) place)) subName := by
  unfold sectionKey
  rw [findSubKey_eq_none_iff]
  refine ⟨fun absent ⟨place, inside, named⟩ => ?_, fun absent place _ inside named => ?_⟩
  · exact absent place (Nat.zero_le _) (by omega) named
  · exact absent ⟨place, by omega, named⟩

/-- A section of another name is passed over by both searches. -/
theorem findMainKey_passes {index : Nat} (left : Nat) (other : ¬ SectionIs image mainName index) :
    findMainKey image subName (fun _ => true) mainName index (left + 1) =
        findMainKey image subName (fun _ => true) mainName (index + 1) left ∧
      swFindMainKey image mainName subName index (left + 1) =
        swFindMainKey image mainName subName (index + 1) left := by
  have differs : ¬ asciiStrEq mainName (Memory.drop image (mainKeyAt index)) = true :=
    fun same => other ((asciiStrEq_iff _ _).mp same)
  exact ⟨if_neg differs, if_neg differs⟩

/-- In a section that has the name, the fetch goes on where the key is missing. -/
theorem findMainKey_enters {index left : Nat} (named : SectionIs image mainName index) :
    findMainKey image subName (fun _ => true) mainName index (left + 1) =
      match sectionKey image subName index with
      | some subKey => some subKey
      | none => findMainKey image subName (fun _ => true) mainName (index + 1) left :=
  if_pos ((asciiStrEq_iff _ _).mpr named)

/-- The other search never leaves a section that has the name. -/
theorem swFindMainKey_enters {index left : Nat} (named : SectionIs image mainName index) :
    swFindMainKey image mainName subName index (left + 1) = sectionKey image subName index := by
  have same := (asciiStrEq_iff _ _).mpr named
  induction left with
  | zero =>
    unfold swFindMainKey
    rw [if_pos same]
    show (match sectionKey image subName index with | some subKey => _ | none => _) = _
    cases sectionKey image subName index with
    | none | some => rfl
  | succ left inductionHypothesis =>
    unfold swFindMainKey
    rw [if_pos same]
    show (match sectionKey image subName index with | some subKey => _ | none => _) = _
    cases found : sectionKey image subName index with
    | none => exact inductionHypothesis.trans found
    | some subKey => rfl

/-- Neither search finds a key when no section has the name. -/
theorem findMainKey_unnamed (index left : Nat)
    (unnamed : ∀ place, index ≤ place → place < index + left → ¬ SectionIs image mainName place) :
    findMainKey image subName (fun _ => true) mainName index left = none ∧
      swFindMainKey image mainName subName index left = none := by
  induction left generalizing index with
  | zero => exact ⟨rfl, rfl⟩
  | succ left inductionHypothesis =>
    obtain ⟨fetch, sw⟩ := findMainKey_passes image mainName subName left
      (unnamed index (Nat.le_refl _) (by omega))
    rw [fetch, sw]
    exact inductionHypothesis (index + 1) fun place reached inside =>
      unnamed place (by omega) (by omega)

theorem findMainKey_eq_none_iff (index left : Nat) :
    findMainKey image subName (fun _ => true) mainName index left = none ↔
      ∀ place, index ≤ place → place < index + left → SectionIs image mainName place →
        sectionKey image subName place = none := by
  induction left generalizing index with
  | zero => exact iff_of_true rfl fun place reached inside => by omega
  | succ left inductionHypothesis =>
    by_cases named : SectionIs image mainName index
    · rw [findMainKey_enters image mainName subName named]
      cases found : sectionKey image subName index with
      | some subKey =>
        refine iff_of_false (Option.some_ne_none _) fun absent => ?_
        exact absurd (found.symm.trans (absent index (Nat.le_refl _) (by omega) named))
          (Option.some_ne_none _)
      | none =>
        dsimp only
        rw [inductionHypothesis]
        refine ⟨fun absent place reached inside here => ?_, fun absent place reached inside =>
          absent place (by omega) (by omega)⟩
        by_cases same : place = index
        · rw [same]
          exact found
        · exact absent place (by omega) (by omega) here
    · rw [(findMainKey_passes image mainName subName left named).1, inductionHypothesis]
      refine ⟨fun absent place reached inside here => ?_, fun absent place reached inside =>
        absent place (by omega) (by omega)⟩
      refine absent place (Nat.lt_of_le_of_ne reached ?_) (by omega) here
      rintro rfl
      exact named here

/-- The two searches from the first section of the name on. -/
theorem searches_first {index left first : Nat} (reached : index ≤ first)
    (inside : first < index + left) (named : SectionIs image mainName first)
    (others : ∀ earlier, index ≤ earlier → earlier < first →
      ¬ SectionIs image mainName earlier) :
    swFindMainKey image mainName subName index left = sectionKey image subName first ∧
      ∀ subKey, sectionKey image subName first = some subKey →
        findMainKey image subName (fun _ => true) mainName index left = some subKey := by
  induction left generalizing index with
  | zero => omega
  | succ left inductionHypothesis =>
    by_cases here : index = first
    · subst here
      refine ⟨swFindMainKey_enters image mainName subName named, fun subKey found => ?_⟩
      rw [findMainKey_enters image mainName subName named, found]
    · obtain ⟨fetch, sw⟩ := findMainKey_passes image mainName subName left
        (others index (Nat.le_refl _) (by omega))
      rw [fetch, sw]
      exact inductionHypothesis (by omega) (by omega) fun earlier after before =>
        others earlier (by omega) before

end Search

/-! ### The entry that is selected -/

theorem fetchName_eq {name : List U8} (fits : name.length ≤ 31) : fetchName name = name := by
  unfold fetchName
  split
  · exact List.take_of_length_le fits
  · rfl

section Selected

variable {image : Buffer} {mainName subName : List U8}

/-- Where a section has the key under the names cut to 31 characters, no name is cut and the first
section of the name has the key. -/
def SelectsSame (image : Buffer) (mainName subName : List U8) : Prop :=
  ∀ index, HasKey image (fetchName mainName) (fetchName subName) index →
    (mainName.length ≤ 31 ∧ subName.length ≤ 31) ∧
      ∀ first, FirstNamed image mainName first → HasKey image mainName subName first

theorem fetchedKey_eq_none_iff : fetchedKey image mainName subName = none ↔
    ∀ index, ¬ HasKey image (fetchName mainName) (fetchName subName) index := by
  unfold fetchedKey
  rw [findMainKey_eq_none_iff]
  refine ⟨fun absent index ⟨counted, named, keys⟩ => ?_, fun absent index _ counted named => ?_⟩
  · exact (sectionKey_eq_none_iff image _ index).mp
      (absent index (Nat.zero_le _) (by omega) named) keys
  · exact (sectionKey_eq_none_iff image _ index).mpr fun keys =>
      absent index ⟨by omega, named, keys⟩

theorem firstNamed_or (image : Buffer) (mainName : List U8) :
    (∃ first, FirstNamed image mainName first) ∨
      ∀ index < sectionCount image, ¬ SectionIs image mainName index := by
  classical
  by_cases some : ∃ index, index < sectionCount image ∧ SectionIs image mainName index
  · obtain ⟨counted, named⟩ := Nat.find_spec some
    refine .inl ⟨Nat.find some, counted, named, fun earlier before here => ?_⟩
    exact Nat.find_min some before ⟨by omega, here⟩
  · exact .inr fun index counted named => some ⟨index, counted, named⟩

theorem swCfgGetSubkey_eq {first : Nat} (firstNamed : FirstNamed image mainName first) :
    swCfgGetSubkey image mainName subName = sectionKey image subName first :=
  (searches_first image mainName subName (Nat.zero_le _) (by have := firstNamed.1; omega)
    firstNamed.2.1 fun earlier _ before => firstNamed.2.2 earlier before).1

/-- A name of 32 characters or more is not in the image. -/
theorem swCfgGetSubkey_long (wellFormed : ScriptWellFormed image) (mainNoZero : 0 ∉ mainName)
    (subNoZero : 0 ∉ subName) (long : ¬(mainName.length ≤ 31 ∧ subName.length ≤ 31)) :
    swCfgGetSubkey image mainName subName = none := by
  rcases firstNamed_or image mainName with ⟨first, firstNamed⟩ | unnamed
  · rw [swCfgGetSubkey_eq firstNamed, sectionKey_eq_none_iff]
    rintro ⟨place, inside, named⟩
    have main := firstNamed.2.1.length_lt mainNoZero (wellFormed.mainNames first firstNamed.1)
    have sub := named.length_lt subNoZero
      (wellFormed.subNames _ ⟨first, firstNamed.1, place, inside, rfl⟩)
    omega
  · exact (findMainKey_unnamed image mainName subName _ _ fun place _ inside =>
      unnamed place (by omega)).2

/-- The readers select the same entry, or none, exactly where no name is cut and the first section
of the name has the key. -/
theorem selectsSame_iff (wellFormed : ScriptWellFormed image) (mainNoZero : 0 ∉ mainName)
    (subNoZero : 0 ∉ subName) :
    swCfgGetSubkey image mainName subName = fetchedKey image mainName subName ↔
      SelectsSame image mainName subName := by
  by_cases short : mainName.length ≤ 31 ∧ subName.length ≤ 31
  · unfold SelectsSame
    rw [fetchName_eq short.1, fetchName_eq short.2]
    have absent := @fetchedKey_eq_none_iff image mainName subName
    rw [fetchName_eq short.1, fetchName_eq short.2] at absent
    rcases firstNamed_or image mainName with ⟨first, firstNamed⟩ | unnamed
    · rw [swCfgGetSubkey_eq firstNamed]
      cases found : sectionKey image subName first with
      | none =>
        have lacks : ¬ HasKey image mainName subName first := fun has =>
          (sectionKey_eq_none_iff image subName first).mp found has.2.2
        rw [eq_comm, absent]
        exact ⟨fun none index has => absurd has (none index), fun same index has =>
          lacks ((same index has).2 first firstNamed)⟩
      | some subKey =>
        have counted : first < 0 + sectionCount image := by
          rw [Nat.zero_add]
          exact firstNamed.1
        have fetched := (searches_first image mainName subName (Nat.zero_le _) counted
          firstNamed.2.1 fun earlier _ before => firstNamed.2.2 earlier before).2 subKey found
        have has : HasKey image mainName subName first := by
          refine ⟨firstNamed.1, firstNamed.2.1, ?_⟩
          by_contra lacks
          exact absurd (found.symm.trans ((sectionKey_eq_none_iff image subName first).mpr lacks))
            (Option.some_ne_none _)
        refine iff_of_true ?_ fun index _ => ⟨short, fun other otherFirst => ?_⟩
        · unfold fetchedKey
          rw [fetchName_eq short.1, fetchName_eq short.2]
          exact fetched.symm
        · rcases Nat.lt_trichotomy other first with before | same | after
          · exact absurd otherFirst.2.1 (firstNamed.2.2 other before)
          · exact same ▸ has
          · exact absurd firstNamed.2.1 (otherFirst.2.2 first after)
    · have both := findMainKey_unnamed image mainName subName 0 (sectionCount image)
        fun place _ inside => unnamed place (by omega)
      refine iff_of_true ?_ fun index has => absurd has.2.1 (unnamed index has.1)
      unfold fetchedKey
      rw [fetchName_eq short.1, fetchName_eq short.2, both.1]
      exact both.2
  · rw [swCfgGetSubkey_long wellFormed mainNoZero subNoZero short, eq_comm,
      fetchedKey_eq_none_iff]
    exact ⟨fun none index has => absurd has (none index), fun same index has =>
      short (same index has).1⟩

end Selected

/-! ### The value that is delivered -/

/-- A word of the image that was copied to a buffer. -/
theorem scriptWord_copied (image value : Buffer) (offset : Nat) :
    scriptWord (value.overwrite 0 4 (Memory.drop image offset)) 0 = scriptWord image offset := by
  have copied : Memory.word (value.overwrite 0 4 (Memory.drop image offset)) 0 4 =
      Memory.word (Memory.drop image offset) 0 4 :=
    Memory.word_congr fun index small => by
      rw [Memory.overwrite_inside value 0 4 _ index small, Nat.zero_add]
  exact congrArg (BitVec.ofNat 32) copied

section Delivered

variable (image : Buffer) (subKey : Nat)

/-- The bytes of a string that a fetch copies. -/
def fetchedBytes (count : U32) : Nat :=
  (((if count.slt (wordCount image subKey) then count else wordCount image subKey) <<< 2).signExtend
    64).toNat

/-- The bytes that only one of the readers copies are in the buffer already. -/
def StringDelivered (value : Buffer) (count : U32) : Prop :=
  ∀ place, min (wordCount image subKey).toNat (fetchedBytes image subKey count) ≤ place →
    place < max (wordCount image subKey).toNat (fetchedBytes image subKey count) →
    value place = image (subKeyOffset image subKey + place)

theorem stringDelivered_iff (value : Buffer) (count : U32) :
    value.overwrite 0 (wordCount image subKey).toNat
        (Memory.drop image (subKeyOffset image subKey)) =
      value.overwrite 0 (fetchedBytes image subKey count)
        (Memory.drop image (subKeyOffset image subKey)) ↔
      StringDelivered image subKey value count := by
  refine ⟨fun same place most fewest => ?_, fun delivered => funext fun place => ?_⟩
  · have here := congrFun same place
    unfold Memory.overwrite Memory.drop at here
    rw [Nat.sub_zero] at here
    by_cases bytes : place < (wordCount image subKey).toNat
    · rw [if_pos (by omega), if_neg (by omega)] at here
      exact here.symm
    · rw [if_neg (by omega), if_pos (by omega)] at here
      exact here
  · unfold Memory.overwrite Memory.drop
    rw [Nat.sub_zero]
    by_cases bytes : place < (wordCount image subKey).toNat <;>
      by_cases fetched : place < fetchedBytes image subKey count
    · rw [if_pos (by omega), if_pos (by omega)]
    · rw [if_pos (by omega), if_neg (by omega), delivered place (by omega) (by omega)]
    · rw [if_neg (by omega), if_pos (by omega), delivered place (by omega) (by omega)]
    · rw [if_neg (by omega), if_neg (by omega)]

variable {image subKey}

theorem fetchValue_copied (type : valueType image subKey = valueTypeString) (subName : List U8)
    (value : Buffer) (count : U32) :
    fetchValue image subKey subName value count =
      (.ok, value.overwrite 0 (fetchedBytes image subKey count)
        (Memory.drop image (subKeyOffset image subKey))) := by
  unfold fetchValue
  rw [type]
  rfl

/-- The two fetches differ for an empty value alone. -/
theorem fetchValueEx_eq (subName : List U8) (value : Buffer) (type : Nat) (count : U32) :
    ((fetchValueEx image subKey subName value type count).1,
        (fetchValueEx image subKey subName value type count).2.1) =
      if valueType image subKey = valueTypeDataEmpty then (.ok, value)
      else fetchValue image subKey subName value count := by
  unfold fetchValueEx fetchValue
  generalize valueType image subKey = kind
  split
  · rfl
  · rfl
  · rfl
  · rw [if_neg (show ¬ valueTypeGpioWord = valueTypeDataEmpty by decide)]
    by_cases room : ((count <<< 2).signExtend 64).toNat < sizeofScriptGpioSet
    · simp only [if_pos room]
    · simp only [if_neg room]
  · rename_i notSingle notString notMulti notGpio
    by_cases empty : kind = valueTypeDataEmpty
    · rw [if_pos empty]
    · rw [if_neg empty]
      split
      · exact absurd rfl notSingle
      · exact absurd rfl notString
      · exact absurd rfl notGpio
      · exact absurd rfl empty
      · rfl

end Delivered

/-! ### Agreement -/

/-- A status that says that there is no such key. -/
def ScriptStatus.Missing (status : ScriptStatus) : Prop := status = .keyNotFind ∨ status = .emptyBuffer

/-- All readers select the same entry or report it as missing, and deliver the same words and
strings in a buffer; the two fetches come to the same status. -/
structure ReadersAgree (image : Buffer) (mainName subName : List U8) (value : Buffer) (type : Nat)
    (count : U32) : Prop where
  selected : swCfgGetSubkey image mainName subName = fetchedKey image mainName subName
  missing : fetchedKey image mainName subName = none →
    swCfgGetInt image mainName subName = -1 ∧ swCfgGetStr image mainName subName value = none ∧
      ((scriptParser image).scriptParserFetch mainName subName value count).1.Missing ∧
      ((scriptParser image).scriptParserFetchEx mainName subName value type count).1.Missing
  singleWord : ∀ subKey, fetchedKey image mainName subName = some subKey →
    valueType image subKey = valueTypeSingleWord → ∃ fetched,
      (scriptParser image).scriptParserFetch mainName subName value count = (.ok, some fetched) ∧
      (scriptParser image).scriptParserFetchEx mainName subName value type count =
        (.ok, some fetched, valueTypeSingleWord) ∧
      scriptWord fetched 0 = swCfgGetInt image mainName subName
  string : ∀ subKey, fetchedKey image mainName subName = some subKey →
    valueType image subKey = valueTypeString → ∃ fetched,
      (scriptParser image).scriptParserFetch mainName subName value count = (.ok, some fetched) ∧
      (scriptParser image).scriptParserFetchEx mainName subName value type count =
        (.ok, some fetched, valueTypeString) ∧
      swCfgGetStr image mainName subName value = some fetched
  status : ((scriptParser image).scriptParserFetch mainName subName value count).1 =
    ((scriptParser image).scriptParserFetchEx mainName subName value type count).1

section Agreement

variable {image : Buffer} {mainName subName : List U8}

/-- What a fetch comes to in an image of no sections, and otherwise by the key that it finds. -/
theorem scriptParserFetch_cases (value : Buffer) (count : U32) :
    (scriptParser image).scriptParserFetch mainName subName value count =
      if (scriptWord image 0).toInt ≤ 0 then (.emptyBuffer, some value)
      else
        match fetchedKey image mainName subName with
        | none => (.keyNotFind, some value)
        | some subKey => ((fetchValue image subKey (fetchName subName) value count).1,
            some (fetchValue image subKey (fetchName subName) value count).2) := rfl

theorem scriptParserFetchEx_cases (value : Buffer) (type : Nat) (count : U32) :
    (scriptParser image).scriptParserFetchEx mainName subName value type count =
      if (scriptWord image 0).toInt ≤ 0 then (.emptyBuffer, some value, type)
      else
        match fetchedKey image mainName subName with
        | none => (.keyNotFind, some value, type)
        | some subKey => ((fetchValueEx image subKey (fetchName subName) value type count).1,
            some (fetchValueEx image subKey (fetchName subName) value type count).2.1,
            (fetchValueEx image subKey (fetchName subName) value type count).2.2) := rfl

/-- An image with a key has sections. -/
theorem sections_of_fetched {subKey : Nat}
    (found : fetchedKey image mainName subName = some subKey) : ¬(scriptWord image 0).toInt ≤ 0 := by
  intro none
  have empty : sectionCount image = 0 := by
    unfold sectionCount
    omega
  unfold fetchedKey at found
  rw [empty] at found
  cases found

/-- The two fetches come to the same status, unless the value is empty. -/
theorem status_iff (value : Buffer) (type : Nat) (count : U32) :
    ((scriptParser image).scriptParserFetch mainName subName value count).1 =
        ((scriptParser image).scriptParserFetchEx mainName subName value type count).1 ↔
      ∀ subKey, fetchedKey image mainName subName = some subKey →
        valueType image subKey ≠ valueTypeDataEmpty := by
  rw [scriptParserFetch_cases, scriptParserFetchEx_cases]
  cases found : fetchedKey image mainName subName with
  | none =>
    refine iff_of_true ?_ fun subKey other => by cases other
    split <;> rfl
  | some subKey =>
    have sections := sections_of_fetched found
    have same := congrArg Prod.fst
      (@fetchValueEx_eq image subKey (fetchName subName) value type count)
    rw [if_neg sections, if_neg sections]
    dsimp only at same ⊢
    rw [same]
    by_cases empty : valueType image subKey = valueTypeDataEmpty
    · rw [if_pos empty]
      refine iff_of_false ?_ fun all => all subKey rfl empty
      unfold fetchValue
      rw [empty]
      exact fun same : ScriptStatus.dataValueNull = .ok => by cases same
    · rw [if_neg empty]
      exact iff_of_true rfl fun other here => Option.some.inj here ▸ empty

/-- All readers of a script image agree exactly where they select the same entry, it is not an
empty value, and of a string the buffer holds what only one of them copies. -/
theorem readers_agree_iff (image : Buffer) (mainName subName : List U8) (value : Buffer)
    (type : Nat) (count : U32) (wellFormed : ScriptWellFormed image)
    (mainNoZero : 0 ∉ mainName) (subNoZero : 0 ∉ subName) :
    ReadersAgree image mainName subName value type count ↔
      SelectsSame image mainName subName ∧
        ∀ subKey, fetchedKey image mainName subName = some subKey →
          valueType image subKey ≠ valueTypeDataEmpty ∧
            (valueType image subKey = valueTypeString →
              StringDelivered image subKey value count) := by
  have selects := selectsSame_iff wellFormed mainNoZero subNoZero
  constructor
  · intro agree
    refine ⟨selects.mp agree.selected, fun subKey found => ⟨?_, fun string => ?_⟩⟩
    · exact (status_iff value type count).mp agree.status subKey found
    · obtain ⟨fetched, fetch, -, str⟩ := agree.string subKey found string
      rw [scriptParserFetch_cases, if_neg (sections_of_fetched found), found] at fetch
      unfold swCfgGetStr at str
      rw [agree.selected, found] at str
      dsimp only at fetch str
      rw [fetchValue_copied string] at fetch
      rw [if_pos string] at str
      refine (stringDelivered_iff image subKey value count).mp (Option.some.inj ?_)
      exact str.trans (congrArg Prod.snd fetch).symm
  · rintro ⟨same, entry⟩
    have selected := selects.mpr same
    refine ⟨selected, fun none => ?_, fun subKey found single => ?_, fun subKey found string => ?_,
      (status_iff value type count).mpr fun subKey found => (entry subKey found).1⟩
    · unfold swCfgGetInt swCfgGetStr
      rw [selected, scriptParserFetch_cases, scriptParserFetchEx_cases, none]
      refine ⟨rfl, rfl, ?_, ?_⟩ <;>
      · dsimp only
        split
        · exact .inr rfl
        · exact .inl rfl
    · refine ⟨value.overwrite 0 4 (Memory.drop image (subKeyOffset image subKey)), ?_, ?_, ?_⟩
      · rw [scriptParserFetch_cases, if_neg (sections_of_fetched found), found]
        dsimp only
        rw [fetchValue_singleWord _ _ single]
      · rw [scriptParserFetchEx_cases, if_neg (sections_of_fetched found), found]
        dsimp only
        unfold fetchValueEx
        rw [single]
        rfl
      · unfold swCfgGetInt
        rw [selected, found]
        dsimp only
        rw [if_pos single]
        exact scriptWord_copied image value (subKeyOffset image subKey)
    · refine ⟨value.overwrite 0 (fetchedBytes image subKey count)
        (Memory.drop image (subKeyOffset image subKey)), ?_, ?_, ?_⟩
      · rw [scriptParserFetch_cases, if_neg (sections_of_fetched found), found]
        dsimp only
        rw [fetchValue_copied string]
      · rw [scriptParserFetchEx_cases, if_neg (sections_of_fetched found), found]
        dsimp only
        unfold fetchValueEx
        rw [string]
        rfl
      · unfold swCfgGetStr
        rw [selected, found]
        dsimp only
        rw [if_pos string, (stringDelivered_iff image subKey value count).mpr
          ((entry subKey found).2 string)]

/-- The readers agree about the string AAAABBBB where the buffer ends with AABBBB already, which only
two of them copy; and they agree that there is no key a. -/
theorem readers_agree_iff_sample :
    ReadersAgree sampleScript [97] [98]
        (fun place => if place < 2 then 0 else if place < 4 then 65 else 66)
        valueTypeString 2 ∧
      ReadersAgree sampleScript [97] [97] (fun _ => 0) valueTypeString 2 := by
  constructor
  · have isFound : fetchedKey sampleScript [97] [98] = some 56 := by decide +kernel
    have count : sectionCount sampleScript = 1 := by decide +kernel
    refine (readers_agree_iff sampleScript [97] [98] _ valueTypeString 2 sampleScript_wellFormed
      (by decide) (by decide)).mpr ⟨fun index has => ⟨by decide, fun first isFirst => ?_⟩,
      fun subKey found => ?_⟩
    · have isIndex : index = 0 := by have counted := has.1; omega
      have isZero : first = 0 := by have counted := isFirst.1; omega
      subst isIndex isZero
      exact has
    · obtain rfl := Option.some.inj (isFound.symm.trans found)
      refine ⟨by decide +kernel, fun _ place least most => ?_⟩
      have words : (wordCount sampleScript 56).toNat = 2 := by decide +kernel
      have bytes : fetchedBytes sampleScript 56 2 = 8 := by decide +kernel
      rw [words, bytes] at least most
      have all : ∀ place < 8, 2 ≤ place → (if place < 2 then 0 else if place < 4 then 65 else 66 : U8) =
          sampleScript (subKeyOffset sampleScript 56 + place) := by decide +kernel
      exact all place most least
  · have missing : fetchedKey sampleScript [97] [97] = none := by decide +kernel
    refine (readers_agree_iff sampleScript [97] [97] (fun _ => 0) valueTypeString 2
      sampleScript_wellFormed (by decide) (by decide)).mpr ⟨fun index has => ?_, fun subKey found =>
        absurd (missing.symm.trans found) (Option.some_ne_none _).symm⟩
    exact absurd has (fetchedKey_eq_none_iff.mp missing index)

/-- Of the string AAAABBBB one reader copies two bytes, the others copy two words. -/
theorem readers_not_agree :
    ¬ ∀ image (mainName subName : List U8) (value : Buffer) (type : Nat) (count : U32),
      ScriptWellFormed image → 0 ∉ mainName → 0 ∉ subName →
      ReadersAgree image mainName subName value type count := by
  intro claim
  have agree := claim sampleScript [97] [98] (fun _ => 0) 0 2 sampleScript_wellFormed
    (by decide) (by decide)
  obtain ⟨fetched, fetch, -, str⟩ := agree.string 56 (by decide +kernel) (by decide +kernel)
  have there : ((scriptParser sampleScript).scriptParserFetch ([97] : List U8) ([98] : List U8)
      (some fun _ => 0) 2).2.map (fun buffer => buffer 2) = some 65 := by decide +kernel
  have here : (swCfgGetStr sampleScript [97] [98] fun _ => 0).map (fun buffer => buffer 2) =
      some 0 := by decide +kernel
  rw [fetch] at there
  rw [str] at here
  exact absurd (there.symm.trans here) (by decide)

end Agreement

end PinePhonePkg
