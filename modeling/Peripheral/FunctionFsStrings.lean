import Peripheral.FunctionFs

/-!
The strings of a FunctionFS gadget on their way to endpoint zero: which copies are made, which of them fit, and where they end.
-/
namespace Peripheral.FunctionFs
open Faults Formats List

/-- Bytes that are copied, and how many zero bytes `whereDec` passes over after them. -/
structure Copy where
  src : List UInt8
  gap : Nat

def Copy.bytes (c : Copy) : List UInt8 := c.src ++ replicate c.gap 0

def bytesOf (l : List Copy) : List UInt8 := l.flatMap Copy.bytes

theorem bytesOf_cons (c : Copy) (l : List Copy) : bytesOf (c :: l) = c.bytes ++ bytesOf l := rfl

theorem bytesOf_append (l m : List Copy) : bytesOf (l ++ m) = bytesOf l ++ bytesOf m := flatMap_append

@[simp] theorem length_bytes (c : Copy) : c.bytes.length = c.src.length + c.gap := by simp [Copy.bytes]

def Fits (size : Nat) : Nat → List Copy → Prop
  | _, [] => True
  | i, c :: l => i + c.src.length ≤ size ∧ Fits size (i + c.src.length + c.gap) l

instance decidableFits (size i : Nat) (l : List Copy) : Decidable (Fits size i l) := by
  induction l generalizing i with
  | nil => exact isTrue trivial
  | cons c l ih =>
    have := ih (i + c.src.length + c.gap)
    exact instDecidableAnd

def visible (s : CString) : Bool := s.bytes ≠ []

def stringCopies (strCount : Nat) (strings : List CString) : List Copy :=
  ((strings.take strCount).takeWhile visible).map fun s => ⟨s.bytes, 1⟩

/-- The strings come to their end before the count does. -/
def Short (strCount : Nat) (strings : List CString) : Prop := strings.length < strCount ∧ ∀ s ∈ strings, visible s

instance (strCount : Nat) (strings : List CString) : Decidable (Short strCount strings) := instDecidableAnd

def copies (strCount : Nat) : List UsbFnStrings → List Copy
  | [] => []
  | l :: strings => ⟨word 2 l.language.toNat, 0⟩ :: (stringCopies strCount l.strings ++
      if Short strCount l.strings then [] else copies strCount strings)

theorem fits_append {size i : Nat} {l m : List Copy} :
    Fits size i (l ++ m) ↔ Fits size i l ∧ Fits size (i + (bytesOf l).length) m := by
  induction l generalizing i with
  | nil => simp [Fits, bytesOf]
  | cons c l ih =>
    have ends : i + c.src.length + c.gap + (bytesOf l).length = i + (bytesOf (c :: l)).length := by
      rw [bytesOf_cons, length_append, length_bytes]
      omega
    rw [cons_append, Fits, Fits, ih, ends, and_assoc]

theorem stringCopies_cons {j : Nat} {c : CString} {strings : List CString} (there : c.bytes ≠ []) :
    stringCopies (j + 1) (c :: strings) = ⟨c.bytes, 1⟩ :: stringCopies j strings := by
  simp [stringCopies, visible, there]

theorem stringCopies_empty {j : Nat} {c : CString} {strings : List CString} (nothing : c.bytes = []) :
    stringCopies j (c :: strings) = [] := by
  cases j with
  | zero => simp [stringCopies]
  | succ j => simp [stringCopies, visible, nothing]

/-- `whereDec` is in the block or one byte behind it, and the block is no larger than a copy may be. -/
def State.Near (s : State) : Prop := s.passed.length ≤ s.size + 1 ∧ s.size ≤ SECUREC_MEM_MAX_LEN

section
variable {ends : Ends Fault Ret State Bool} {s : State}

theorem needs_copy {src : List UInt8} (near : s.Near) (nonempty : src ≠ []) : Needs (memcpyS s.left src) ends s ↔
    if s.passed.length + src.length ≤ s.size then ends.last true (s.pass src) else ends.last false s := by
  have long : 0 < src.length := length_pos_iff.mpr nonempty
  obtain ⟨inside, small⟩ := near
  rw [needs_memcpyS]
  rw [SECUREC_MEM_MAX_LEN] at small ⊢
  by_cases fits : s.passed.length + src.length ≤ s.size
  · have left : s.left = s.size - s.passed.length := by
      rw [State.left, SIZE_COUNT]
      omega
    rw [if_pos fits, if_neg (by omega), if_neg (by omega)]
  · rw [if_neg fits, if_pos]
    rw [State.left, SIZE_COUNT]
    omega

variable {n : Nat}

theorem writeLanguage_fits {strings : List CString} (near : s.Near)
    (fits : Fits s.size s.passed.length (stringCopies n strings)) : Needs (writeLanguage n strings) ends s ↔
      if Short n strings then ends.wrong .null (s.pass (bytesOf (stringCopies n strings)))
      else ends.last true (s.pass (bytesOf (stringCopies n strings))) := by
  induction n generalizing s strings with
  | zero =>
    rw [if_neg (fun short => by simpa using short.1)]
    simp [writeLanguage, stringCopies, bytesOf, State.pass]
  | succ n ih =>
    cases strings with
    | nil =>
      rw [if_pos ⟨by simp, by simp⟩]
      simp [writeLanguage, stringCopies, bytesOf, State.pass]
    | cons c strings =>
      by_cases nothing : c.bytes = []
      · have long : ¬Short (n + 1) (c :: strings) := fun short => by simpa [visible, nothing] using short.2 c mem_cons_self
        rw [if_neg long, stringCopies_empty nothing]
        simp [writeLanguage, nothing, bytesOf, State.pass]
      · rw [stringCopies_cons nothing] at fits ⊢
        have same : Short (n + 1) (c :: strings) ↔ Short n strings := by simp [Short, visible, nothing]
        have moved : ((s.pass c.bytes).pass [0]).Near := by
          refine ⟨?_, near.2⟩
          have first : s.passed.length + c.bytes.length ≤ s.size := fits.1
          simp only [pass_passed, pass_size, length_append, length_singleton]
          omega
        have rest : Fits ((s.pass c.bytes).pass [0]).size ((s.pass c.bytes).pass [0]).passed.length (stringCopies n strings) := by
          simpa [Nat.add_assoc] using fits.2
        have goesOn := ih moved rest
        simp only [pass_pass] at goesOn
        simp only [writeLanguage, nothing, if_false, needs_bind, needs_get, before_last, needs_copy near nothing, if_pos fits.1,
          needs_ite, Bool.not_true, Bool.false_eq_true, needs_modify, pass_pass]
        rw [show Needs (writeLanguage n strings) ends (s.pass (c.bytes ++ [0])) ↔ _ from goesOn]
        simp only [same, bytesOf_cons, Copy.bytes, replicate_one, append_assoc]

/-- What a copy that is refused leaves alone. -/
def Same (s t : State) : Prop := t.blocks = s.blocks ∧ t.size = s.size ∧ t.written = s.written

theorem writeLanguage_full {strings : List CString} (near : s.Near)
    (full : ¬Fits s.size s.passed.length (stringCopies n strings)) (refused : ∀ t, Same s t → ends.last false t) :
    Needs (writeLanguage n strings) ends s := by
  induction n generalizing s strings with
  | zero => exact absurd (by simp [stringCopies, Fits]) full
  | succ n ih =>
    cases strings with
    | nil => exact absurd (by simp [stringCopies, Fits]) full
    | cons c strings =>
      by_cases nothing : c.bytes = []
      · exact absurd (by rw [stringCopies_empty nothing]; trivial) full
      · simp only [writeLanguage, nothing, if_false, needs_bind, needs_get, before_last, needs_copy near nothing, Bool.not_true,
        Bool.not_false, Bool.false_eq_true, if_true, needs_pure, needs_modify, pass_pass]
        split
        · rename_i first
          rw [stringCopies_cons nothing] at full
          have moved : (s.pass (c.bytes ++ [0])).Near := by
            refine ⟨?_, near.2⟩
            simp only [pass_passed, pass_size, length_append, length_singleton]
            omega
          refine ih moved (fun rest => full ⟨first, ?_⟩) fun t same => refused t same
          simpa [Nat.add_assoc] using rest
        · exact refused s ⟨rfl, rfl, rfl⟩

/-- No language is short of strings. -/
def Enough (strCount : Nat) (strings : List UsbFnStrings) : Prop := ∀ l ∈ strings, ¬Short strCount l.strings

instance (strCount : Nat) (strings : List UsbFnStrings) : Decidable (Enough strCount strings) := decidableBAll _ _

theorem word_ne_nil {w v : Nat} (wide : w ≠ 0) : word w v ≠ [] := by
  rw [← length_pos_iff, length_word]
  omega

theorem near_after {i size : Nat} {l : List Copy} (narrow : ∀ c ∈ l, c.gap ≤ 1) (near : i ≤ size + 1) (fits : Fits size i l) :
    i + (bytesOf l).length ≤ size + 1 := by
  induction l generalizing i with
  | nil => simpa [bytesOf] using near
  | cons c l ih =>
    have gap := narrow c mem_cons_self
    have inside := fits.1
    have rest := ih (fun d among => narrow d (mem_cons_of_mem c among)) (by omega) fits.2
    rw [bytesOf_cons, length_append, length_bytes]
    omega

theorem State.Near.after {strings : List CString} (near : s.Near)
    (fits : Fits s.size s.passed.length (stringCopies n strings)) : (s.pass (bytesOf (stringCopies n strings))).Near := by
  refine ⟨?_, near.2⟩
  rw [pass_passed, length_append, pass_size]
  refine near_after (fun c among => ?_) near.1 fits
  obtain ⟨string, _, rfl⟩ := mem_map.mp among
  exact Nat.le_refl 1

theorem writeLanguages_fits {strings : List UsbFnStrings} (near : s.Near)
    (fits : Fits s.size s.passed.length (copies n strings)) : Needs (writeLanguages n strings) ends s ↔
      if Enough n strings then ends.last true (s.pass (bytesOf (copies n strings)))
      else ends.wrong .null (s.pass (bytesOf (copies n strings))) := by
  induction strings generalizing s with
  | nil => simp [writeLanguages, Enough, copies, bytesOf, State.pass]
  | cons l strings ih =>
    have code := word_ne_nil (v := l.language.toNat) (w := 2) (by decide)
    have first : s.passed.length + (word 2 l.language.toNat).length ≤ s.size := fits.1
    have moved : (s.pass (word 2 l.language.toNat)).Near := by
      refine ⟨?_, near.2⟩
      simp only [pass_passed, pass_size, length_append]
      omega
    have rest := fits.2
    rw [Nat.add_zero, fits_append] at rest
    have inside : Fits (s.pass (word 2 l.language.toNat)).size (s.pass (word 2 l.language.toNat)).passed.length
        (stringCopies n l.strings) := by simpa using rest.1
    simp only [writeLanguages, needs_bind, needs_get, before_last, needs_copy near code, if_pos first, Bool.not_true,
      Bool.false_eq_true, if_false, needs_ite, writeLanguage_fits moved inside, before_wrong, pass_pass]
    by_cases short : Short n l.strings
    · have few : ¬Enough n (l :: strings) := fun enough => enough l mem_cons_self short
      rw [if_pos short, if_neg few]
      simp [copies, if_pos short, bytesOf, Copy.bytes]
    · have same : Enough n (l :: strings) ↔ Enough n strings := by simp [Enough, short]
      have goesOn := ih (moved.after inside) (by simpa [if_neg short, Nat.add_assoc] using rest.2)
      rw [if_neg short]
      simp only [pass_pass] at goesOn
      simp only [goesOn, same, copies, if_neg short, bytesOf_cons, bytesOf_append, Copy.bytes, replicate_zero,
        append_nil, append_assoc]

theorem writeLanguages_full {strings : List UsbFnStrings} (near : s.Near)
    (full : ¬Fits s.size s.passed.length (copies n strings)) (refused : ∀ t, Same s t → ends.last false t) :
    Needs (writeLanguages n strings) ends s := by
  induction strings generalizing s with
  | nil => exact absurd trivial full
  | cons l strings ih =>
    have code := word_ne_nil (v := l.language.toNat) (w := 2) (by decide)
    simp only [writeLanguages, needs_bind, needs_get, before_last, needs_copy near code]
    split
    · rename_i first
      have moved : (s.pass (word 2 l.language.toNat)).Near := by
        refine ⟨?_, near.2⟩
        simp only [pass_passed, pass_size, length_append]
        omega
      simp only [Bool.not_true, Bool.false_eq_true, if_false, needs_bind]
      by_cases inside : Fits (s.pass (word 2 l.language.toNat)).size (s.pass (word 2 l.language.toNat)).passed.length
        (stringCopies n l.strings)
      · have long : ¬Short n l.strings := by
          intro short
          refine full ⟨first, ?_⟩
          rw [if_pos short, append_nil]
          simpa using inside
        rw [writeLanguage_fits moved inside, if_neg long, before_last]
        simp only [Bool.not_true, Bool.false_eq_true, if_false]
        refine ih (moved.after inside) (fun rest => full ⟨first, ?_⟩) fun t same => refused t same
        rw [if_neg long, fits_append]
        refine ⟨by simpa using inside, ?_⟩
        simpa [Nat.add_assoc] using rest
      · refine writeLanguage_full moved inside fun t same => ?_
        simpa using refused t same
    · simpa using refused s ⟨rfl, rfl, rfl⟩

end

/-- The counters get past the end of every array. -/
structure Countable (strings : List UsbFnStrings) : Prop where
  languages : strings.length < UInt32.size
  each : ∀ l ∈ strings, l.strings.length < UInt32.size

theorem needs_getHeaderStr {noValue : UInt32} {strings : List UsbFnStrings} {ends : Ends Fault Ret State UsbFunctionfsStringsHead}
    {s : State} (countable : Countable strings) :
    Needs (getHeaderStr noValue strings) ends s ↔ ends.last (headerOf noValue strings) s := by
  rw [getHeaderStr, if_neg, needs_pure]
  rintro (many | ⟨l, among, many⟩)
  · exact Nat.not_lt.mpr many countable.languages
  · exact Nat.not_lt.mpr many (countable.each l among)

@[simp] theorem length_header (header : UsbFunctionfsStringsHead) : header.bytes.length = 16 := by
  simp [UsbFunctionfsStringsHead.bytes]

section
variable {noValue : UInt32} {o : Answers} {strings : List UsbFnStrings} {ends : Ends Fault Ret State Ret} {s : State}

theorem writeStrings_endless (endless : ¬Countable strings) :
    Needs (usbFnWriteStrings noValue o strings) ends s ↔ ends.wrong .endless s := by
  have many : UInt32.size ≤ strings.length ∨ ∃ l ∈ strings, UInt32.size ≤ l.strings.length := by
    by_contra few
    simp only [not_or, not_exists, not_and, Nat.not_le] at few
    exact endless ⟨few.1, few.2⟩
  rw [usbFnWriteStrings, needs_bind, getHeaderStr, if_pos many, needs_goWrong]
  rfl

def filled (s : State) (header : UsbFunctionfsStringsHead) (strings : List UsbFnStrings) : State :=
  (s.take header.length.toNat).pass (header.bytes ++ bytesOf (copies header.strCount.toNat strings))

theorem writeStrings_fits (countable : Countable strings) (block : o.block)
    (large : 16 ≤ (headerOf noValue strings).length.toNat) (small : (headerOf noValue strings).length.toNat ≤ SECUREC_MEM_MAX_LEN)
    (fits : Fits (headerOf noValue strings).length.toNat 16 (copies (headerOf noValue strings).strCount.toNat strings)) :
    Needs (usbFnWriteStrings noValue o strings) ends s ↔ if Enough (headerOf noValue strings).strCount.toNat strings then
        if o.write then ends.last .success (filled s (headerOf noValue strings) strings).send.free
        else ends.last .failure (filled s (headerOf noValue strings) strings).free
      else ends.wrong .null (filled s (headerOf noValue strings) strings) := by
  rw [usbFnWriteStrings, needs_bind, needs_getHeaderStr countable, before_last]
  generalize headerOf noValue strings = header at *
  have positive : header.length ≠ 0 := fun zero => by simp [zero] at large
  have copied : Fits ((s.take header.length.toNat).pass header.bytes).size ((s.take header.length.toNat).pass header.bytes).passed.length
      (copies header.strCount.toNat strings) := by simpa [State.take] using fits
  have near : ((s.take header.length.toNat).pass header.bytes).Near := by
    refine ⟨?_, small⟩
    simpa [State.take] using Nat.le_succ_of_le large
  rw [needs_bind, needs_usbFnMemCalloc, if_neg (by simp [block, positive, small])]
  simp only [before_last, Bool.not_true, Bool.false_eq_true, if_false, needs_bind, needs_memcpyS]
  rw [if_neg (by simp only [length_header]; omega), if_neg (by simp [State.take]; omega)]
  simp only [Bool.not_true, Bool.false_eq_true, if_false, needs_bind, writeLanguages_fits near copied, before_last, before_wrong]
  rw [pass_pass]
  by_cases enough : Enough header.strCount.toNat strings
  · rw [if_pos enough, if_pos enough]
    simp only [Bool.not_true, Bool.false_eq_true, if_false, needs_bind, needs_writeEp0, before_last]
    cases o.write <;> simp [usbFnMemFree, filled]
  · rw [if_neg enough, if_neg enough]
    rfl

theorem writeStrings_refused (countable : Countable strings)
    (refused : o.block = false ∨ (headerOf noValue strings).length.toNat < 16 ∨
      SECUREC_MEM_MAX_LEN < (headerOf noValue strings).length.toNat ∨
      ¬Fits (headerOf noValue strings).length.toNat 16 (copies (headerOf noValue strings).strCount.toNat strings))
    (holds : ∀ r t, r ≠ .success → t.blocks = s.blocks → t.written = s.written → ends.last r t) :
    Needs (usbFnWriteStrings noValue o strings) ends s := by
  rw [usbFnWriteStrings, needs_bind, needs_getHeaderStr countable, before_last]
  generalize headerOf noValue strings = header at *
  rw [needs_bind, needs_usbFnMemCalloc]
  split
  · exact holds .mallocFail s (by decide) rfl rfl
  · rename_i taken
    simp only [Bool.or_eq_true, Bool.not_eq_true', beq_iff_eq, decide_eq_true_eq, not_or, Bool.not_eq_false] at taken
    obtain ⟨⟨block, positive⟩, small⟩ := taken
    simp only [before_last, Bool.not_true, Bool.false_eq_true, if_false, needs_bind, needs_memcpyS, length_header]
    split
    · simpa [usbFnMemFree] using holds .failure (s.take header.length.toNat).free (by decide) rfl rfl
    · rename_i large
      have room : ¬(s.take header.length.toNat).size < (s.take header.length.toNat).passed.length + 16 := by
        simp [State.take]
        omega
      have full : ¬Fits header.length.toNat 16 (copies header.strCount.toNat strings) := by
        rcases refused with no | tiny | huge | full
        · rw [block] at no
          cases no
        · omega
        · omega
        · exact full
      rw [if_neg room]
      refine writeLanguages_full ⟨?_, ?_⟩ ?_ fun t same => ?_
      · simp [State.take]
        omega
      · exact Nat.not_lt.mp small
      · simpa [State.take] using full
      · simpa [usbFnMemFree] using holds .failure t.free (by decide) (by simp [State.free, same.1, State.take, State.pass]) same.2.2

theorem writeStrings_inside : Needs (usbFnWriteStrings noValue o strings)
    ⟨fun fault t => fault ≠ .outside ∧ t.written = s.written, fun _ _ => False, fun _ t => ∃ more, t.written = s.written ++ more⟩ s := by
  by_cases countable : Countable strings
  · by_cases refused : o.block = false ∨ (headerOf noValue strings).length.toNat < 16 ∨
      SECUREC_MEM_MAX_LEN < (headerOf noValue strings).length.toNat ∨
      ¬Fits (headerOf noValue strings).length.toNat 16 (copies (headerOf noValue strings).strCount.toNat strings)
    · exact writeStrings_refused countable refused fun r t _ _ written => ⟨[], by simp [written]⟩
    · simp only [not_or, not_not, Bool.not_eq_false, Nat.not_lt] at refused
      obtain ⟨block, large, small, fits⟩ := refused
      rw [writeStrings_fits countable block large small fits]
      split
      · split
        · exact ⟨_, rfl⟩
        · exact ⟨[], by simp [State.free, filled, State.pass, State.take]⟩
      · exact ⟨by decide, rfl⟩
  · exact (writeStrings_endless countable).mpr ⟨by decide, rfl⟩

end
end Peripheral.FunctionFs
