import Peripheral.FunctionFsStrings

/-!
The descriptors of a FunctionFS gadget as they reach endpoint zero. Counts, flags and lengths come from passes of their own,
and the copies are not bounded by the room that is left: that they stay inside, and that the reader of the format finds the
descriptors again, rests on the agreement of all passes.
-/
namespace Peripheral.FunctionFs
open Faults Formats UsbDescriptorHeader List

/-- A descriptor, as long as its first byte says. -/
def readDescriptor : Reader (List UInt8)
  | [] => none
  | b :: l => if b.toNat < 2 then none else take b.toNat (b :: l)

/-- There is a count for each speed that is flagged. -/
def readCount (flags flag : Nat) : Reader Nat := if flags &&& flag = 0 then pure 0 else wordOf 4

abbrev Speeds := List (List UInt8) × List (List UInt8) × List (List UInt8)

def readDescs (size : Nat) : Reader Speeds := do
  expect 4 FUNCTIONFS_DESCRIPTORS_MAGIC_V2.toNat
  expect 4 size
  let flags ← wordOf 4
  let fsCount ← readCount flags FUNCTIONFS_HAS_FS_DESC.toNat
  let hsCount ← readCount flags FUNCTIONFS_HAS_HS_DESC.toNat
  let ssCount ← readCount flags FUNCTIONFS_HAS_SS_DESC.toNat
  let fs ← times readDescriptor fsCount
  let hs ← times readDescriptor hsCount
  let ss ← times readDescriptor ssCount
  pure (fs, hs, ss)

def decodeDescs (l : List UInt8) : Option Speeds := whole (readDescs l.length) l

def Legal (l : List UsbDescriptorHeader) : Prop := ∀ d ∈ l, 2 ≤ d.bLength.toNat

def descBytes (l : List UsbDescriptorHeader) : List UInt8 := l.flatMap bytes

theorem descBytes_cons (d : UsbDescriptorHeader) (l : List UsbDescriptorHeader) : descBytes (d :: l) = d.bytes ++ descBytes l := rfl

@[simp] theorem length_bytes' (d : UsbDescriptorHeader) : d.bytes.length = d.bLength.toNat := by
  have holds := d.holds
  simp only [bytes, length_take, length_cons]
  omega

theorem reads_descriptor {d : UsbDescriptorHeader} (legal : 2 ≤ d.bLength.toNat) : Reads readDescriptor d.bytes d.bytes := by
  intro rest
  obtain ⟨n, two⟩ := Nat.exists_eq_add_of_le' (Nat.le_of_succ_le legal)
  have first : d.bytes = d.bLength :: d.rest.take n := by
    rw [bytes, two, take_succ_cons]
  have whole := reads_take (length_bytes' d) rest
  rw [first, cons_append] at whole ⊢
  rw [readDescriptor, if_neg (by omega), whole]

theorem reads_descriptors {l : List UsbDescriptorHeader} (legal : Legal l) :
    Reads (times readDescriptor l.length) (descBytes l) (l.map bytes) :=
  reads_times fun d among => reads_descriptor (legal d among)

theorem length_le_bytes {l : List UsbDescriptorHeader} (legal : Legal l) : l.length ≤ (descBytes l).length := by
  induction l with
  | nil => exact Nat.le_refl 0
  | cons d l ih =>
    have others := ih fun e among => legal e (mem_cons_of_mem d among)
    have first := legal d mem_cons_self
    simp only [descBytes, flatMap_cons, length_append, length_bytes', length_cons] at others ⊢
    omega

theorem count_eq (l : List UsbDescriptorHeader) : count l = UInt32.ofNat l.length := by
  have counted : ∀ n : UInt32, l.foldl (fun n _ => n + 1) n = n + UInt32.ofNat l.length := by
    induction l with
    | nil => simp
    | cons d l ih =>
      intro n
      rw [foldl_cons, ih, length_cons, UInt32.ofNat_add]
      grind
  rw [count, counted, UInt32.zero_add]

theorem sumLengths_eq (len : UInt32) (l : List UsbDescriptorHeader) : sumLengths len l = len + UInt32.ofNat (descBytes l).length := by
  induction l generalizing len with
  | nil => simp [sumLengths, descBytes]
  | cons d l ih =>
    have first : d.bLength.toUInt32 = UInt32.ofNat d.bLength.toNat := UInt32.toNat_inj.mp (by simp)
    rw [sumLengths, foldl_cons, ← sumLengths, ih, descBytes_cons, length_append, UInt32.ofNat_add, length_bytes', first]
    grind

def countBytes (l : List UsbDescriptorHeader) : List UInt8 := if l = [] then [] else word 4 l.length

def Few (l : List UsbDescriptorHeader) : Prop := l.length < UInt32.size

section
variable {l : List UsbDescriptorHeader}

theorem Few.toNat_count (few : Few l) : (count l).toNat = l.length := by
  rw [count_eq]
  exact UInt32.toNat_ofNat_of_lt' few

theorem Few.count_eq_zero (few : Few l) : count l = 0 ↔ l = [] := by
  rw [← UInt32.toNat_inj, few.toNat_count]
  exact length_eq_zero_iff

theorem Few.flagged (few : Few l) (flag : UInt32) :
    speedFlag (count l) flag = (UInt32.ofNat (countBytes l).length, if l = [] then 0 else flag) := by
  simp only [speedFlag, few.count_eq_zero, countBytes]
  split <;> simp

end

section
variable {ends : Ends Fault Ret State Bool} {s : State} {l : List UsbDescriptorHeader}

theorem needs_copyCountOf (few : Few l) (room : s.passed.length + (countBytes l).length ≤ s.size) :
    Needs (copyCountOf (count l)) ends s ↔ ends.last true (s.pass (countBytes l)) := by
  rw [copyCountOf]
  simp only [few.count_eq_zero]
  by_cases none : l = []
  · rw [if_pos none, needs_pure, countBytes, if_pos none]
    simp [State.pass]
  · rw [countBytes, if_neg none] at room ⊢
    rw [length_word] at room
    rw [if_neg none, needs_memcpyS, few.toNat_count, length_word, if_neg (by decide), if_neg (by omega)]

theorem needs_copyCount {fs hs ss : List UsbDescriptorHeader} (few : Few fs ∧ Few hs ∧ Few ss)
    (room : s.passed.length + (countBytes fs ++ countBytes hs ++ countBytes ss).length ≤ s.size) :
    Needs (copyCount (count fs) (count hs) (count ss)) ends s ↔
      ends.last true (s.pass (countBytes fs ++ countBytes hs ++ countBytes ss)) := by
  simp only [length_append] at room
  rw [copyCount, needs_bind, needs_copyCountOf few.1 (by omega)]
  simp only [before_last, Bool.not_true, Bool.false_eq_true, if_false, needs_bind]
  rw [needs_copyCountOf few.2.1 (by simp only [pass_passed, pass_size, length_append]; omega)]
  simp only [before_last, Bool.not_true, Bool.false_eq_true, if_false]
  rw [needs_copyCountOf few.2.2 (by simp only [pass_passed, pass_size, length_append]; omega)]
  rw [pass_pass, pass_pass, append_assoc]

theorem needs_writeFuncDescriptors (legal : Legal l) (room : s.passed.length + (descBytes l).length ≤ s.size) :
    Needs (writeFuncDescriptors l) ends s ↔ ends.last true (s.pass (descBytes l)) := by
  induction l generalizing s with
  | nil => simp [writeFuncDescriptors, descBytes, State.pass]
  | cons d l ih =>
    have two := legal d mem_cons_self
    have narrow := d.bLength.toNat_lt
    rw [descBytes_cons, length_append, length_bytes'] at room
    have rest := ih (s := s.pass d.bytes) (fun e among => legal e (mem_cons_of_mem d among))
      (by simp only [pass_passed, pass_size, length_append, length_bytes']; omega)
    rw [writeFuncDescriptors, needs_bind, needs_memcpyS, length_bytes', if_neg (by rw [SECUREC_MEM_MAX_LEN]; omega), if_neg (by omega)]
    simp only [before_last, Bool.not_true, Bool.false_eq_true, if_false]
    rw [rest, pass_pass, descBytes_cons]

end

def body (func : UsbFnFunction) : List UInt8 :=
  countBytes func.fsDescriptors ++ countBytes func.hsDescriptors ++ countBytes func.ssDescriptors ++
    (descBytes func.fsDescriptors ++ descBytes func.hsDescriptors ++ descBytes func.ssDescriptors)

def descTotal (func : UsbFnFunction) : Nat :=
  (descBytes func.fsDescriptors ++ descBytes func.hsDescriptors ++ descBytes func.ssDescriptors).length

/-- Descriptors that the format can hold, in a block that the bounds-checked library fills. -/
structure Wellformed (func : UsbFnFunction) : Prop where
  fs : Legal func.fsDescriptors
  hs : Legal func.hsDescriptors
  ss : Legal func.ssDescriptors
  small : 12 + (body func).length ≤ SECUREC_MEM_MAX_LEN

section
variable {func : UsbFnFunction}

theorem descTotal_le_body (func : UsbFnFunction) : descTotal func ≤ (body func).length := by
  simp only [descTotal, body, length_append]
  omega

theorem few_of_descTotal (fs : Legal func.fsDescriptors) (hs : Legal func.hsDescriptors) (ss : Legal func.ssDescriptors)
    (small : descTotal func < 0x80000000) : Few func.fsDescriptors ∧ Few func.hsDescriptors ∧ Few func.ssDescriptors := by
  have fs := length_le_bytes fs
  have hs := length_le_bytes hs
  have ss := length_le_bytes ss
  simp only [descTotal, length_append] at small
  refine ⟨?_, ?_, ?_⟩ <;> rw [Few, UInt32.size] <;> omega

theorem header_length (few : Few func.fsDescriptors ∧ Few func.hsDescriptors ∧ Few func.ssDescriptors)
    (small : descTotal func < 0x80000000) : (getCountAndHead func).length.toNat = 12 + (body func).length := by
  obtain ⟨fs, hs, ss⟩ := few
  have counts (l : List UsbDescriptorHeader) : (countBytes l).length ≤ 4 := by
    rw [countBytes]
    split <;> simp
  have fsCount := counts func.fsDescriptors
  have hsCount := counts func.hsDescriptors
  have ssCount := counts func.ssDescriptors
  simp only [getCountAndHead, sumLengths_eq, fs.flagged, hs.flagged, ss.flagged, UInt32.zero_add]
  rw [show (12 : UInt32) = UInt32.ofNat 12 from rfl]
  simp only [descTotal, ← UInt32.ofNat_add, body, length_append] at small ⊢
  rw [UInt32.toNat_ofNat_of_lt' (by rw [UInt32.size]; omega)]
  omega

section
variable (wellformed : Wellformed func)
include wellformed

theorem Wellformed.descTotal_lt : descTotal func < 0x80000000 := by
  have small := wellformed.small
  have inside := descTotal_le_body func
  rw [SECUREC_MEM_MAX_LEN] at small
  omega

theorem Wellformed.few : Few func.fsDescriptors ∧ Few func.hsDescriptors ∧ Few func.ssDescriptors :=
  few_of_descTotal wellformed.fs wellformed.hs wellformed.ss wellformed.descTotal_lt

theorem Wellformed.length : (getCountAndHead func).length.toNat = 12 + (body func).length :=
  header_length wellformed.few wellformed.descTotal_lt

end

end

def flagsOf (fs hs ss : Bool) : UInt32 :=
  (if fs then 0 else FUNCTIONFS_HAS_FS_DESC) ||| (if hs then 0 else FUNCTIONFS_HAS_HS_DESC) |||
    (if ss then 0 else FUNCTIONFS_HAS_SS_DESC)

theorem flagsOf_and (fs hs ss : Bool) : ((flagsOf fs hs ss).toNat &&& FUNCTIONFS_HAS_FS_DESC.toNat = 0 ↔ fs) ∧
    ((flagsOf fs hs ss).toNat &&& FUNCTIONFS_HAS_HS_DESC.toNat = 0 ↔ hs) ∧
    ((flagsOf fs hs ss).toNat &&& FUNCTIONFS_HAS_SS_DESC.toNat = 0 ↔ ss) := by
  revert fs hs ss
  decide

theorem Wellformed.flags {func : UsbFnFunction} (wellformed : Wellformed func) : (getCountAndHead func).flags =
    flagsOf func.fsDescriptors.isEmpty func.hsDescriptors.isEmpty func.ssDescriptors.isEmpty := by
  obtain ⟨fs, hs, ss⟩ := wellformed.few
  simp only [getCountAndHead, fs.flagged, hs.flagged, ss.flagged, flagsOf, List.isEmpty_iff]

theorem reads_count {l : List UsbDescriptorHeader} (few : Few l) {flags flag : Nat} (flagged : flags &&& flag = 0 ↔ l.isEmpty) :
    Reads (readCount flags flag) (countBytes l) l.length := by
  by_cases none : l = []
  · subst none
    rw [readCount, if_pos (flagged.mpr rfl)]
    exact reads_pure
  · rw [readCount, if_neg (fun zero => none (isEmpty_iff.mp (flagged.mp zero))), countBytes, if_neg none]
    exact reads_word few

theorem Wellformed.decodes {func : UsbFnFunction} (wellformed : Wellformed func) :
    decodeDescs ((getCountAndHead func).bytes ++ body func) = some (func.fsDescriptors.map bytes,
      func.hsDescriptors.map bytes, func.ssDescriptors.map bytes) := by
  have fits (v : UInt32) : v.toNat < 256^4 := v.toNat_lt
  obtain ⟨fs, hs, ss⟩ := wellformed.few
  obtain ⟨fsFlag, hsFlag, ssFlag⟩ := flagsOf_and func.fsDescriptors.isEmpty func.hsDescriptors.isEmpty func.ssDescriptors.isEmpty
  rw [← wellformed.flags] at fsFlag hsFlag ssFlag
  have size : ((getCountAndHead func).bytes ++ body func).length = (getCountAndHead func).length.toNat := by
    rw [wellformed.length]
    simp [UsbFunctionfsDescsHeadV2.bytes]
    omega
  have magic : FUNCTIONFS_DESCRIPTORS_MAGIC_V2 = (getCountAndHead func).magic := rfl
  rw [decodeDescs, size, readDescs, magic, whole]
  simp only [UsbFunctionfsDescsHeadV2.bytes, body, append_assoc]
  rw [(reads_expect (fits _)).next, (reads_expect (fits _)).next, (reads_word (fits _)).next, (reads_count fs fsFlag).next,
    (reads_count hs hsFlag).next, (reads_count ss ssFlag).next, (reads_descriptors wellformed.fs).next,
    (reads_descriptors wellformed.hs).next]
  have last := (reads_descriptors wellformed.ss).next (q := fun l => pure (func.fsDescriptors.map bytes,
    func.hsDescriptors.map bytes, l)) []
  rw [append_nil] at last
  rw [last]
  rfl

/-- The bytes written first have the length of the header and read back as the descriptors. -/
def Described (func : UsbFnFunction) (s t : State) : Prop :=
  ∃ blob more, t.written = s.written ++ blob :: more ∧ blob.length = (getCountAndHead func).length.toNat ∧
    decodeDescs blob = some (func.fsDescriptors.map bytes,
      func.hsDescriptors.map bytes, func.ssDescriptors.map bytes)

/-- No copy leaves its block. Nothing is written where there is no memory, or where writing fails, and otherwise the
    descriptors are, whatever becomes of the strings. -/
def describing (func : UsbFnFunction) (o : Answers) (s : State) : Ends Fault Ret State Ret where
  wrong fault t := fault ≠ .outside ∧ Described func s t
  early _ _ := False
  last r t := Described func s t ∨
    t.written = s.written ∧ t.blocks = s.blocks ∧ (r = .mallocFail ∧ o.block = false ∨ r = .io ∧ o.write = false)

/-- The descriptors of a function come to endpoint zero as the format has them, in one block of the length of the header. -/
theorem creatPipes_describes {func : UsbFnFunction} (wellformed : Wellformed func) (noValue : UInt32) (o more : Answers) (s : State) :
    Needs (usbFnAdapterCreatPipes noValue o more func) (describing func o s) s := by
  obtain ⟨fs, hs, ss⟩ := wellformed.few
  have length := wellformed.length
  have decodes := wellformed.decodes
  have header : (getCountAndHead func).bytes.length = 12 := by simp [UsbFunctionfsDescsHeadV2.bytes]
  have positive : (getCountAndHead func).length ≠ 0 := fun zero => by
    rw [zero, UInt32.toNat_zero] at length
    omega
  have all := length
  have fits : ¬SECUREC_MEM_MAX_LEN < (getCountAndHead func).length.toNat := Nat.not_lt.mpr (length ▸ wellformed.small)
  simp only [body, length_append] at all
  rw [usbFnAdapterCreatPipes, needs_bind, needs_usbFnMemCalloc]
  split
  · rename_i refused
    simp only [beq_iff_eq, positive, fits, or_false, Bool.or_eq_true, Bool.not_eq_true', decide_eq_true_eq] at refused
    exact Or.inr ⟨rfl, rfl, Or.inl ⟨rfl, refused⟩⟩
  · rename_i taken
    simp only [Bool.or_eq_true, Bool.not_eq_true', beq_iff_eq, decide_eq_true_eq, not_or, Bool.not_eq_false] at taken
    obtain ⟨⟨_, _⟩, small⟩ := taken
    have empty : (s.take (getCountAndHead func).length.toNat).passed = [] := rfl
    have room : (s.take (getCountAndHead func).length.toNat).size = (getCountAndHead func).length.toNat := rfl
    simp only [before_last, Bool.not_true, Bool.false_eq_true, if_false, needs_bind, needs_memcpyS]
    rw [header, if_neg (by omega), empty, room, length_nil, if_neg (by omega)]
    rw [needs_copyCount ⟨fs, hs, ss⟩ (by
      simp only [pass_passed, pass_size, empty, room, nil_append, length_append, header]
      omega)]
    simp only [before_last, Bool.not_true, Bool.false_eq_true, if_false, needs_bind, pass_pass]
    rw [needs_writeFuncDescriptors wellformed.fs (by
      simp only [pass_passed, pass_size, empty, room, nil_append, length_append, header]
      omega)]
    simp only [before_last, Bool.not_true, Bool.false_eq_true, if_false, needs_bind, pass_pass]
    rw [needs_writeFuncDescriptors wellformed.hs (by
      simp only [pass_passed, pass_size, empty, room, nil_append, length_append, header]
      omega)]
    simp only [before_last, Bool.not_true, Bool.false_eq_true, if_false, needs_bind, pass_pass]
    rw [needs_writeFuncDescriptors wellformed.ss (by
      simp only [pass_passed, pass_size, empty, room, nil_append, length_append, header]
      omega)]
    simp only [before_last, Bool.not_true, Bool.false_eq_true, if_false, needs_bind, pass_pass, needs_writeEp0]
    have whole : ∀ l : List UInt8, l ++ (countBytes func.fsDescriptors ++ (countBytes func.hsDescriptors ++
        (countBytes func.ssDescriptors ++ (descBytes func.fsDescriptors ++ (descBytes func.hsDescriptors ++
          descBytes func.ssDescriptors))))) = l ++ body func := fun l => by simp only [body, append_assoc]
    simp only [append_assoc, whole]
    split
    · simp only [usbFnMemFree, needs_modify, before_last]
      have block := block_full (s := (s.take (getCountAndHead func).length.toNat).pass ((getCountAndHead func).bytes ++ body func))
        (by rw [pass_passed, pass_size, empty, room, nil_append, length_append, header, length])
      have described (t : State) (more : List (List UInt8)) (written : t.written = s.written ++
          ((getCountAndHead func).bytes ++ body func) :: more) : Described func s t :=
        ⟨_, more, written, by rw [length_append, header, length], decodes⟩
      rw [pass_passed, empty, nil_append] at block
      have sent : ((s.take (getCountAndHead func).length.toNat).pass
          ((getCountAndHead func).bytes ++ body func)).send.free.written = s.written ++ [(getCountAndHead func).bytes ++ body func] :=
        congrArg (fun l => s.written ++ [l]) block
      refine (writeStrings_inside (o := more)).mono ?_ (fun _ _ early => early) ?_
      · rintro fault t ⟨inside, written⟩
        exact ⟨inside, described t [] (by rw [written, sent])⟩
      · rintro r t ⟨others, written⟩
        exact Or.inl (described t others (by rw [written, sent, append_assoc]; rfl))
    · rename_i failed
      simp only [Bool.not_eq_true] at failed
      simp only [Bool.not_false, if_true, needs_bind, usbFnMemFree, needs_modify, before_last, needs_pure]
      exact Or.inr ⟨rfl, rfl, Or.inr ⟨rfl, failed⟩⟩

/-- Two speeds have descriptors, and there is a string. -/
def twoSpeeds : UsbFnFunction :=
  ⟨[⟨2, [4], by decide⟩, ⟨3, [5, 1], by decide⟩], [], [⟨4, [48, 0, 0, 9], by decide⟩], [⟨1033, [⟨[72], by simp⟩]⟩]⟩

theorem twoSpeeds_described : ∃ t, (usbFnAdapterCreatPipes 0 ⟨true, true⟩ ⟨true, true⟩ twoSpeeds).run ⟨0, 0, [], []⟩ =
    .ok .success t ∧ t.written.map length = [29, 20] ∧ Described twoSpeeds ⟨0, 0, [], []⟩ t := by
  have wellformed : Wellformed twoSpeeds := ⟨by unfold Legal; decide, by unfold Legal; decide, by unfold Legal; decide, by decide⟩
  have describes := creatPipes_describes wellformed 0 ⟨true, true⟩ ⟨true, true⟩ ⟨0, 0, [], []⟩
  refine ⟨_, rfl, rfl, ?_⟩
  rcases describes with described | ⟨-, -, ⟨-, missing⟩ | ⟨-, missing⟩⟩
  · exact described
  · cases missing
  · cases missing

def uniform (n : Nat) : UsbFnFunction := ⟨replicate n ⟨16, replicate 15 0, by decide⟩, [], [], []⟩

theorem uniform_descTotal (n : Nat) : descTotal (uniform n) = n * 16 := by
  simp [descTotal, uniform, descBytes, length_flatMap]

theorem uniform_body {n : Nat} (some_ : n ≠ 0) : (body (uniform n)).length = 4 + n * 16 := by
  simp [body, countBytes, uniform, descBytes, length_flatMap, some_]

theorem uniform_legal (n : Nat) : Legal (uniform n).fsDescriptors := by
  intro d among
  rw [eq_of_mem_replicate among]
  decide

/-- The header and a count push the block over what the library fills, and nothing is written. -/
theorem uniform_not_described : (Legal (uniform 0x7ffffff).fsDescriptors ∧ descTotal (uniform 0x7ffffff) < 0x80000000) ∧
    ¬Needs (usbFnAdapterCreatPipes 0 ⟨true, true⟩ ⟨true, true⟩ (uniform 0x7ffffff))
      ⟨fun _ t => Described (uniform 0x7ffffff) ⟨0, 0, [], []⟩ t, fun _ t => Described (uniform 0x7ffffff) ⟨0, 0, [], []⟩ t,
        fun _ t => Described (uniform 0x7ffffff) ⟨0, 0, [], []⟩ t⟩ ⟨0, 0, [], []⟩ := by
  have small : descTotal (uniform 0x7ffffff) < 0x80000000 := by
    rw [uniform_descTotal]
    decide
  have none : Legal [] := fun d among => absurd among not_mem_nil
  have length := header_length (few_of_descTotal (uniform_legal 0x7ffffff) none none small) small
  rw [uniform_body (by decide)] at length
  refine ⟨⟨uniform_legal _, small⟩, ?_⟩
  rw [usbFnAdapterCreatPipes, needs_bind, needs_usbFnMemCalloc, if_pos (by simp [length, SECUREC_MEM_MAX_LEN])]
  rintro ⟨blob, more, written, -⟩
  cases written

end Peripheral.FunctionFs
