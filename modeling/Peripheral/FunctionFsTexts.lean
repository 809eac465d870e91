import Mathlib.Data.List.TakeWhile
import Peripheral.FunctionFsStrings

/-!
What the reader of the format makes of the block of strings of a FunctionFS gadget. One count serves all languages, and an
empty string ends the copies of its language, so that the block is right only by what the languages are.
-/
namespace Peripheral.FunctionFs
open Faults Formats List

def spell (l : UsbFnStrings) : List UInt8 := word 2 l.language.toNat ++ l.strings.flatMap fun s => s.bytes ++ [0]

abbrev Meaning := Nat × List (List UInt8)

def meaning (l : UsbFnStrings) : Meaning := (l.language.toNat, l.strings.map CString.bytes)

def readLanguage (strCount : Nat) : Reader Meaning := do
  let code ← wordOf 2
  let texts ← times text strCount
  pure (code, texts)

def readStrings (size : Nat) : Reader (List Meaning) := do
  expect 4 FUNCTIONFS_STRINGS_MAGIC.toNat
  expect 4 size
  let strCount ← wordOf 4
  let langCount ← wordOf 4
  times (readLanguage strCount) langCount

def decodeStrings (l : List UInt8) : Option (List Meaning) := whole (readStrings l.length) l

theorem decode_header {header : UsbFunctionfsStringsHead} {l : List UInt8} (magic : header.magic = FUNCTIONFS_STRINGS_MAGIC)
    (size : header.length.toNat = (header.bytes ++ l).length) :
    decodeStrings (header.bytes ++ l) = whole (times (readLanguage header.strCount.toNat) header.langCount.toNat) l := by
  have fits (v : UInt32) : v.toNat < 256^4 := v.toNat_lt
  rw [decodeStrings, ← size, readStrings, ← magic, whole, whole]
  simp only [UsbFunctionfsStringsHead.bytes, append_assoc]
  rw [(reads_expect (fits _)).next, (reads_expect (fits _)).next, (reads_word (fits _)).next, (reads_word (fits _)).next]

theorem reads_language (l : UsbFnStrings) : Reads (readLanguage l.strings.length) (spell l) (meaning l) := by
  have texts : Reads (times text l.strings.length) (l.strings.flatMap fun s => s.bytes ++ [0]) (l.strings.map CString.bytes) :=
    reads_times fun s _ => reads_text s.visible
  have last : Reads (times text l.strings.length >>= fun texts => pure (l.language.toNat, texts))
      ((l.strings.flatMap fun s => s.bytes ++ [0]) ++ []) (meaning l) := texts.bind reads_pure
  rw [append_nil] at last
  exact (reads_word l.language.toNat_lt).bind last

theorem spells_language (n : Nat) : Spells (readLanguage n) fun m => word 2 m.1 ++ m.2.flatMap (· ++ [0]) := by
  intro l m rest read
  obtain ⟨⟨code, l₁⟩, first, read⟩ := Option.bind_eq_some_iff.mp read
  obtain ⟨⟨texts, l₂⟩, second, read⟩ := Option.bind_eq_some_iff.mp read
  cases read
  rw [spells_wordOf 2 l code l₁ first, spells_text.times n l₁ texts rest second, append_assoc]

variable {n : Nat}

theorem language_count {l : List UInt8} {m : Meaning} {rest : List UInt8} (read : readLanguage n l = some (m, rest)) :
    m.2.length = n := by
  obtain ⟨⟨code, l₁⟩, _, read⟩ := Option.bind_eq_some_iff.mp read
  obtain ⟨⟨texts, l₂⟩, second, read⟩ := Option.bind_eq_some_iff.mp read
  cases read
  exact length_times second

def Counted (n : Nat) (strings : List UsbFnStrings) : Prop := ∀ l ∈ strings, l.strings.length = n

variable {strings : List UsbFnStrings}

theorem languages_read {l : List UInt8} : whole (times (readLanguage n) strings.length) l = some (strings.map meaning) ↔
      Counted n strings ∧ l = strings.flatMap spell := by
  constructor
  · intro all
    have read := whole_eq_some all
    have counts := times_all (fun l m rest => language_count (n := n) (l := l) (m := m)) read
    refine ⟨fun m among => by simpa [meaning] using counts (meaning m) (mem_map_of_mem among), ?_⟩
    rw [(spells_language n).times _ _ _ _ read, append_nil]
    simp only [flatMap_map, meaning]
    rfl
  · rintro ⟨counts, rfl⟩
    exact (reads_times fun m among => counts m among ▸ reads_language m).whole

/-! ### Strings that are passed over -/

/-- Nothing but zero bytes in the format. -/
def Zero (l : UsbFnStrings) : Prop := l.language = 0 ∧ ∀ s ∈ l.strings, s.bytes = []

theorem zero_texts {strings : List CString} :
    (∀ c ∈ strings.flatMap fun s => s.bytes ++ [0], c = 0) ↔ ∀ s ∈ strings, s.bytes = [] := by
  constructor
  · intro zero s among
    refine eq_nil_iff_forall_not_mem.mpr fun c inside => s.visible c inside (zero c ?_)
    exact mem_flatMap.mpr ⟨s, among, mem_append_left [0] inside⟩
  · intro empty c among
    obtain ⟨s, there, inside⟩ := mem_flatMap.mp among
    simpa [empty s there] using inside

variable {l : UsbFnStrings}

theorem zero_spell : (∀ c ∈ spell l, c = 0) ↔ Zero l := by
  have code : (∀ c ∈ word 2 l.language.toNat, c = 0) ↔ l.language = 0 := by
    rw [word_zero l.language.toNat_lt, ← UInt16.toNat_inj]
    rfl
  rw [spell, forall_mem_append, code, zero_texts, Zero]

theorem zero_spelled : (∀ c ∈ strings.flatMap spell, c = 0) ↔ ∀ l ∈ strings, Zero l := by
  simp only [forall_mem_flatMap, zero_spell]

theorem bytesOf_stringCopies (n : Nat) (strings : List CString) :
    bytesOf (stringCopies n strings) = ((strings.take n).takeWhile visible).flatMap fun s => s.bytes ++ [0] := by
  simp only [bytesOf, stringCopies, flatMap_map]
  rfl

/-- What is copied is in the format, but some of that may be left out. -/
theorem copies_sublist (n : Nat) (strings : List UsbFnStrings) : (bytesOf (copies n strings)).Sublist (strings.flatMap spell) := by
  induction strings with
  | nil => exact List.Sublist.refl _
  | cons l strings ih =>
    have texts : (bytesOf (stringCopies n l.strings)).Sublist (l.strings.flatMap fun s => s.bytes ++ [0]) := by
      rw [bytesOf_stringCopies]
      exact ((takeWhile_sublist _).trans (take_sublist n _)).flatMap _
    rw [copies, bytesOf_cons, bytesOf_append, flatMap_cons, spell, append_assoc]
    refine List.Sublist.append (by simp [Copy.bytes]) (texts.append ?_)
    split
    · exact nil_sublist _
    · exact ih

/-- From the first empty string on there are only zero bytes. -/
structure Trailing (strings : List UsbFnStrings) : Prop where
  within : ∀ l ∈ strings, l.strings.Pairwise fun s t => s.bytes = [] → t.bytes = []
  across : strings.Pairwise fun l m => (∃ s ∈ l.strings, s.bytes = []) → Zero m

theorem trailing_cons : Trailing (l :: strings) ↔
    (l.strings.Pairwise fun s t => s.bytes = [] → t.bytes = []) ∧ ((∃ s ∈ l.strings, s.bytes = []) → ∀ m ∈ strings, Zero m) ∧
      Trailing strings := by
  constructor
  · rintro ⟨within, across⟩
    obtain ⟨first, rest⟩ := pairwise_cons.mp across
    refine ⟨within l mem_cons_self, fun empty m among => first m among empty, fun m among => ?_, rest⟩
    exact within m (mem_cons_of_mem l among)
  · rintro ⟨first, next, within, across⟩
    refine ⟨forall_mem_cons.mpr ⟨first, within⟩, pairwise_cons.mpr ⟨fun m among empty => next empty m among, across⟩⟩

theorem trailing_zero (zero : ∀ l ∈ strings, Zero l) : Trailing strings := by
  refine ⟨fun l among => ?_, ?_⟩
  · exact pairwise_of_forall_mem_list fun s _ t there _ => (zero l among).2 t there
  · exact pairwise_of_forall_mem_list fun l _ m there _ => zero m there

/-- Up to the first empty string, where there is one. -/
theorem split_visible (strings : List CString) : (∀ s ∈ strings, visible s) ∨
    ∃ first e rest, strings = first ++ e :: rest ∧ (∀ s ∈ first, visible s) ∧ e.bytes = [] := by
  induction strings with
  | nil => exact Or.inl (by simp)
  | cons c strings ih =>
    by_cases there : visible c
    · obtain all | ⟨first, e, rest, rfl, before, empty⟩ := ih
      · exact Or.inl (forall_mem_cons.mpr ⟨there, all⟩)
      · exact Or.inr ⟨c :: first, e, rest, rfl, forall_mem_cons.mpr ⟨there, before⟩, empty⟩
    · exact Or.inr ⟨[], c, strings, rfl, by simp, by simpa [visible] using there⟩

theorem Counted.enough (counted : Counted n strings) : Enough n strings :=
  fun l among short => by
    have few := short.1
    have all := counted l among
    omega

theorem bytesOf_copies : bytesOf (copies l.strings.length (l :: strings)) = word 2 l.language.toNat ++
      ((l.strings.takeWhile visible).flatMap fun s => s.bytes ++ [0]) ++ bytesOf (copies l.strings.length strings) := by
  have long : ¬Short l.strings.length l.strings := fun short => Nat.lt_irrefl _ short.1
  rw [copies, bytesOf_cons, bytesOf_append, bytesOf_stringCopies, take_length, if_neg long, append_assoc]
  simp [Copy.bytes]

theorem texts_split {strings before rest : List CString} {e : CString} (whole : strings = before ++ e :: rest)
    (there : ∀ s ∈ before, visible s) (empty : e.bytes = []) : strings.takeWhile visible = before ∧
      (strings.flatMap fun s => s.bytes ++ [0]) = (before.flatMap fun s => s.bytes ++ [0]) ++
        0 :: rest.flatMap fun s => s.bytes ++ [0] := by
  subst whole
  rw [takeWhile_append_of_pos there, takeWhile_cons_of_neg (by simp [visible, empty]), append_nil]
  simp [empty]

/-- With zero bytes after them, the copies are the format only if nothing else follows the first empty string. -/
theorem trailing_of_padded {n k : Nat} (counted : Counted n strings)
    (padded : bytesOf (copies n strings) ++ replicate k 0 = strings.flatMap spell) : Trailing strings := by
  induction strings with
  | nil => exact trailing_zero (by simp)
  | cons l strings ih =>
    obtain ⟨first, others⟩ := forall_mem_cons.mp counted
    subst first
    rw [bytesOf_copies, flatMap_cons, spell] at padded
    simp only [append_assoc, append_cancel_left_eq] at padded
    obtain all | ⟨before, e, rest, whole, there, empty⟩ := split_visible l.strings
    · rw [takeWhile_eq_self_iff.mpr all, append_cancel_left_eq] at padded
      have none : ¬∃ s ∈ l.strings, s.bytes = [] := fun ⟨s, among, nothing⟩ => by simpa [visible, nothing] using all s among
      refine trailing_cons.mpr ⟨?_, fun some => absurd some none, ih others padded⟩
      exact pairwise_of_forall_mem_list fun s among _ _ nothing => absurd ⟨s, among, nothing⟩ none
    · obtain ⟨upTo, texts⟩ := texts_split whole there empty
      rw [upTo, texts, append_assoc, append_cancel_left_eq] at padded
      have zero := zero_of_shift (copies_sublist _ strings) (cons_ne_nil _ _) padded
      have others : ∀ c ∈ bytesOf (copies l.strings.length strings) ++ replicate k 0, c = 0 :=
        forall_mem_append.mpr ⟨fun c among => zero c ((copies_sublist _ strings).subset among), fun c => eq_of_mem_replicate⟩
      rw [padded, forall_mem_append, forall_mem_cons] at others
      have rest_empty := zero_texts.mp others.1.2
      refine trailing_cons.mpr ⟨?_, fun _ => zero_spelled.mp zero, trailing_zero (zero_spelled.mp zero)⟩
      rw [whole]
      refine pairwise_append.mpr ⟨?_, pairwise_cons.mpr ⟨fun t among _ => rest_empty t among, ?_⟩, ?_⟩
      · exact pairwise_of_forall_mem_list fun s among _ _ nothing => by simpa [visible, nothing] using there s among
      · exact pairwise_of_forall_mem_list fun _ _ t among _ => rest_empty t among
      · intro s among t _ nothing
        simpa [visible, nothing] using there s among

/-- Where only zero bytes follow the first empty string, the copies lack nothing but zero bytes. -/
theorem padded_of_trailing (counted : Counted n strings) (trailing : Trailing strings) :
    ∃ k, bytesOf (copies n strings) ++ replicate k 0 = strings.flatMap spell := by
  induction strings with
  | nil => exact ⟨0, rfl⟩
  | cons l strings ih =>
    obtain ⟨first, others⟩ := forall_mem_cons.mp counted
    subst first
    obtain ⟨within, across, rest⟩ := trailing_cons.mp trailing
    rw [bytesOf_copies, flatMap_cons, spell]
    obtain all | ⟨before, e, after, whole, there, empty⟩ := split_visible l.strings
    · obtain ⟨k, padded⟩ := ih others rest
      refine ⟨k, ?_⟩
      rw [takeWhile_eq_self_iff.mpr all, append_assoc, padded]
    · obtain ⟨upTo, texts⟩ := texts_split whole there empty
      have among : e ∈ l.strings := by simp [whole]
      rw [whole, pairwise_append, pairwise_cons] at within
      have rest_empty : ∀ s ∈ after, s.bytes = [] := fun s there => within.2.1.1 s there empty
      have zero := zero_spelled.mpr (across ⟨e, among, empty⟩)
      have copied : ∀ c ∈ bytesOf (copies l.strings.length strings), c = 0 :=
        fun c inside => zero c ((copies_sublist _ strings).subset inside)
      have short := (copies_sublist l.strings.length strings).length_le
      obtain ⟨k, padded⟩ := pad_zeros (b := 0 :: (after.flatMap fun s => s.bytes ++ [0]) ++ strings.flatMap spell) copied
        (forall_mem_append.mpr ⟨forall_mem_cons.mpr ⟨rfl, zero_texts.mpr rest_empty⟩, zero⟩)
        (by rw [length_append]; omega)
      refine ⟨k, ?_⟩
      rw [upTo, texts, append_assoc, padded]
      simp only [append_assoc, cons_append]

def total (strings : List UsbFnStrings) : Nat := 16 + (strings.flatMap spell).length

theorem sum_texts (strings : List CString) (len : UInt32) :
    strings.foldl (fun len s => len + (UInt32.ofNat s.bytes.length + 1)) len =
      len + UInt32.ofNat (strings.flatMap fun s => s.bytes ++ [0]).length := by
  induction strings generalizing len with
  | nil => simp
  | cons s strings ih =>
    rw [foldl_cons, ih, flatMap_cons, length_append, length_append, UInt32.ofNat_add, UInt32.ofNat_add, length_singleton]
    grind

theorem count_languages (strings : List UsbFnStrings) (c : Counts) :
    16 + (strings.foldl countLanguage c).langCount * 2 + (strings.foldl countLanguage c).len =
      16 + c.langCount * 2 + c.len + UInt32.ofNat (strings.flatMap spell).length := by
  induction strings generalizing c with
  | nil => simp
  | cons l strings ih =>
    rw [foldl_cons, ih, flatMap_cons, length_append, spell, length_append, length_word]
    simp only [countLanguage, sum_texts, UInt32.ofNat_add]
    grind

theorem headerOf_length (noValue : UInt32) (strings : List UsbFnStrings) :
    (headerOf noValue strings).length.toNat = total strings % UInt32.size := by
  have sum := count_languages strings ⟨0, noValue, 0⟩
  rw [headerOf, Counts.header, sum, total]
  rw [show (16 + 0 * 2 + 0 : UInt32) = UInt32.ofNat 16 from rfl, ← UInt32.ofNat_add, UInt32.toNat_ofNat']

theorem headerOf_langCount (noValue : UInt32) (few : strings.length < UInt32.size) :
    (headerOf noValue strings).langCount.toNat = strings.length := by
  have counted : ∀ c : Counts, (strings.foldl countLanguage c).langCount = c.langCount + UInt32.ofNat strings.length := by
    clear few
    induction strings with
    | nil => simp
    | cons l strings ih =>
      intro c
      rw [foldl_cons, ih, length_cons, UInt32.ofNat_add]
      simp only [countLanguage]
      grind
  rw [headerOf, Counts.header, counted, UInt32.zero_add, UInt32.toNat_ofNat_of_lt' few]

def lastCount (strings : List UsbFnStrings) : Nat := (strings.getLast?.map (·.strings.length)).getD 0

theorem headerOf_strCount (noValue : UInt32) (nonempty : strings ≠ []) (countable : Countable strings) :
    (headerOf noValue strings).strCount.toNat = lastCount strings := by
  obtain ⟨first, l, rfl⟩ := eq_nil_or_concat strings |>.resolve_left nonempty
  rw [concat_eq_append] at countable ⊢
  have few := countable.each l (by simp)
  simp only [headerOf, Counts.header, foldl_append, foldl_cons, foldl_nil, countLanguage, lastCount,
    getLast?_append, getLast?_singleton, Option.some_or, Option.map_some, Option.getD_some]
  exact UInt32.toNat_ofNat_of_lt' few

theorem copies_strCount (noValue : UInt32) (countable : Countable strings) :
    copies (headerOf noValue strings).strCount.toNat strings = copies (lastCount strings) strings := by
  by_cases none : strings = []
  · subst none
    rfl
  · rw [headerOf_strCount noValue none countable]

theorem enough_strCount (noValue : UInt32) (countable : Countable strings) :
    Enough (headerOf noValue strings).strCount.toNat strings ↔ Enough (lastCount strings) strings := by
  by_cases none : strings = []
  · subst none
    simp [Enough]
  · rw [headerOf_strCount noValue none countable]

/-- The length fits, one count serves all languages, and only zero bytes follow the first empty string. -/
structure Plain (strings : List UsbFnStrings) : Prop where
  short : total strings < UInt32.size
  counted : Counted (lastCount strings) strings
  trailing : Trailing strings

/-- There is no block of the length that comes out, or it has no room for the copies. -/
def Refused (strings : List UsbFnStrings) : Prop :=
  total strings % UInt32.size < 16 ∨ SECUREC_MEM_MAX_LEN < total strings % UInt32.size ∨
    ¬Fits (total strings % UInt32.size) 16 (copies (lastCount strings) strings)

theorem counted_strCount (noValue : UInt32) (countable : Countable strings) :
    Counted (headerOf noValue strings).strCount.toNat strings ↔ Counted (lastCount strings) strings := by
  by_cases none : strings = []
  · subst none
    simp [Counted]
  · rw [headerOf_strCount noValue none countable]

theorem block_filled {s : State} {header : UsbFunctionfsStringsHead} (large : 16 ≤ header.length.toNat) :
    (filled s header strings).block = header.bytes ++ (bytesOf (copies header.strCount.toNat strings) ++
      replicate (header.length.toNat - (16 + (bytesOf (copies header.strCount.toNat strings)).length)) 0).take
        (header.length.toNat - 16) := by
  rw [State.block, filled, pass_passed, pass_size]
  simp only [State.take, nil_append, length_append, length_header, append_assoc]
  rw [take_append, length_header, take_of_length_le (by simpa using large)]

/-- The block reads back as the languages exactly if they are plain. -/
theorem block_decodes {noValue : UInt32} {s : State} (countable : Countable strings)
    (large : 16 ≤ (headerOf noValue strings).length.toNat) :
    decodeStrings (filled s (headerOf noValue strings) strings).block = some (strings.map meaning) ↔ Plain strings := by
  have long := copies_sublist (lastCount strings) strings |>.length_le
  have size : (filled s (headerOf noValue strings) strings).block.length = (headerOf noValue strings).length.toNat := length_block _
  rw [block_filled large] at size ⊢
  rw [decode_header rfl size.symm, headerOf_langCount noValue countable.languages, languages_read, counted_strCount noValue countable,
    copies_strCount noValue countable]
  rw [length_append, length_header, headerOf_length, copies_strCount noValue countable] at size
  rw [headerOf_length] at large ⊢
  constructor
  · rintro ⟨counted, same⟩
    rw [same] at size
    have short : total strings < UInt32.size := by
      rw [total, size]
      exact Nat.mod_lt _ (by decide)
    rw [take_of_length_le (by simp only [length_append, length_replicate]; omega)] at same
    exact ⟨short, counted, trailing_of_padded counted same⟩
  · rintro ⟨short, counted, trailing⟩
    obtain ⟨k, padded⟩ := padded_of_trailing counted trailing
    have length := congrArg length padded
    rw [length_append, length_replicate] at length
    rw [Nat.mod_eq_of_lt short, total, show 16 + (strings.flatMap spell).length -
      (16 + (bytesOf (copies (lastCount strings) strings)).length) = k by omega, padded, Nat.add_sub_cancel_left, take_length]
    exact ⟨counted, rfl⟩

/-- Nothing is left behind; and there is an error, and nothing was written, or a block was written that has the length of its
    header and reads back as the languages. -/
def Right (noValue : UInt32) (strings : List UsbFnStrings) (s : State) (r : Ret) (t : State) : Prop :=
  t.blocks = s.blocks ∧ ((r ≠ .success ∧ t.written = s.written) ∨ (r = .success ∧ ∃ blob, t.written = s.written ++ [blob] ∧
    blob.length = (headerOf noValue strings).length.toNat ∧ decodeStrings blob = some (strings.map meaning)))

def rightly (noValue : UInt32) (strings : List UsbFnStrings) (s : State) : Ends Fault Ret State Ret :=
  ⟨fun _ _ => False, fun _ _ => False, Right noValue strings s⟩

/-- The function does what it should exactly if its counters get past all arrays and either no block is filled or the
    languages are plain. -/
theorem strings_right (strings : List UsbFnStrings) :
    (∀ noValue o s, Needs (usbFnWriteStrings noValue o strings) (rightly noValue strings s) s) ↔
      Countable strings ∧ (Refused strings ∨ Plain strings) := by
  constructor
  · intro right
    have run := right 0 ⟨true, true⟩ ⟨0, 0, [], []⟩
    have countable : Countable strings := by
      by_contra endless
      exact (writeStrings_endless endless).mp run
    refine ⟨countable, ?_⟩
    by_cases refused : Refused strings
    · exact Or.inl refused
    · rw [Refused, not_or, not_or, not_not, ← headerOf_length 0, Nat.not_lt, Nat.not_lt, ← copies_strCount 0 countable] at refused
      obtain ⟨large, small, fits⟩ := refused
      rw [writeStrings_fits countable rfl large small fits] at run
      split at run
      · obtain ⟨_, ⟨failed, _⟩ | ⟨_, blob, sent, _, read⟩⟩ := run
        · exact absurd rfl failed
        · cases sent
          exact Or.inr ((block_decodes countable large).mp read)
      · exact run.elim
  · rintro ⟨countable, settled⟩ noValue o s
    by_cases refused : o.block = false ∨ Refused strings
    · rw [Refused, ← headerOf_length noValue, ← copies_strCount noValue countable] at refused
      exact writeStrings_refused countable refused fun r t failed blocks written => ⟨blocks, Or.inl ⟨failed, written⟩⟩
    · simp only [not_or, Bool.not_eq_false] at refused
      obtain ⟨block, taken⟩ := refused
      have plain := settled.resolve_left taken
      rw [Refused, not_or, not_or, not_not, ← headerOf_length noValue, Nat.not_lt, Nat.not_lt,
        ← copies_strCount noValue countable] at taken
      obtain ⟨large, small, fits⟩ := taken
      have enough := (enough_strCount noValue countable).mpr plain.counted.enough
      rw [writeStrings_fits countable block large small fits, if_pos enough]
      split
      · exact ⟨rfl, Or.inr ⟨rfl, _, rfl, length_block _, (block_decodes countable large).mpr plain⟩⟩
      · exact ⟨rfl, Or.inl ⟨by decide, rfl⟩⟩

def textA : CString := ⟨[65], by simp⟩
def textB : CString := ⟨[66], by simp⟩

/-- The first language has one string, and the second one has two: the string after the first one is a null pointer. -/
theorem strings_wrong : ¬Needs (usbFnWriteStrings 0 ⟨true, true⟩ [⟨0x409, [textA]⟩, ⟨0x407, [textA, textB]⟩])
    (rightly 0 [⟨0x409, [textA]⟩, ⟨0x407, [textA, textB]⟩] ⟨0, 0, [], []⟩) ⟨0, 0, [], []⟩ := fun run => run

end Peripheral.FunctionFs
