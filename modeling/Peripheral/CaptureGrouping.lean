import Mathlib.Data.List.Perm.Subperm
import Mathlib.Data.List.Flatten
import Mathlib.Data.List.Pairwise
import Peripheral.CaptureMessage

/-!
Groups of messages are found by type and time only. When no two rounds share both,
every group holds one round and is passed on once; when two do, they can end up in one
group, which is then never passed on.
-/
namespace Peripheral.Camera
open Messenger CaptureMessageOperator MessageGroup Function Round List

namespace Round
variable {r : Round} {m : CaptureMessage}

theorem mem_messages : m ∈ r.messages ↔ ∃ streamId ∈ r.owners, r.message streamId = m := mem_map

theorem messages_nodup (r : Round) : r.messages.Nodup := by
  refine r.distinct.map ?_
  intro a b same
  exact congrArg CaptureMessage.streamId same

theorem messages_ne_nil (r : Round) : r.messages ≠ [] := by
  simpa [messages] using r.owned

theorem length_messages (r : Round) : r.messages.length = (UInt32.ofNat r.owners.length).toNat := by
  have counted := r.counted
  simp only [messages, length_map, UInt32.toNat_ofNat']
  exact (Nat.mod_eq_of_lt counted).symm

structure Of (r : Round) (m : CaptureMessage) : Prop where
  type : m.messageType = r.messageType
  capture : m.captureId = r.captureId
  time : m.timestamp = r.timestamp
  count : m.peerMessageCount = UInt32.ofNat r.owners.length
  round : m.round = r.round

theorem of_mem (member : m ∈ r.messages) : r.Of m := by
  obtain ⟨streamId, _, rfl⟩ := mem_messages.mp member
  exact ⟨rfl, rfl, rfl, rfl, rfl⟩

end Round

theorem Captures.same_round (c : Captures) {r r' : Round} {m : CaptureMessage} (known : r ∈ c.rounds) (known' : r' ∈ c.rounds)
    (member : m ∈ r.messages) (member' : m ∈ r'.messages) : r = r' := by
  have first := of_mem member
  have second := of_mem member'
  exact c.distinct r known r' known' (first.capture.symm.trans second.capture) (first.type.symm.trans second.type)
    (first.round.symm.trans second.round)

section
variable {g : MessageGroup} {r : Round}

/-- A group of messages of a round has room for these only, so a full one has them all. -/
theorem perm_of_full (once : g.Nodup) (inside : ∀ m ∈ g, m ∈ r.messages) (full : g.full = true) : g.Perm r.messages := by
  apply (once.subperm inside).perm_of_length_le
  cases g with
  | nil => cases full
  | cons first others =>
    have count := (of_mem (inside first (mem_cons_self ..))).count
    have length := r.length_messages
    rw [← count] at length
    simp only [MessageGroup.full, decide_eq_true_eq] at full
    omega

theorem full_of_perm (whole : g.Perm r.messages) : g.full = true := by
  cases g with
  | nil => exact absurd whole.symm.eq_nil r.messages_ne_nil
  | cons first others =>
    have count := (Round.of_mem (whole.subset (mem_cons_self ..))).count
    simp only [full, decide_eq_true_eq]
    rw [count, whole.length_eq, r.length_messages]

end

/-- A group that takes the message. -/
def Takes (message : CaptureMessage) (group : MessageGroup) : Prop :=
  ∃ first others, group = first :: others ∧ message.timestamp = first.timestamp ∧ message.messageType = first.messageType

theorem joinGroup_none {message : CaptureMessage} {groups : List MessageGroup} (none : joinGroup message groups = none) :
    ∀ group ∈ groups, ¬Takes message group := by
  induction groups with
  | nil => simp
  | cons group rest ih =>
    intro other member takes
    rcases mem_cons.mp member with rfl | later
    · obtain ⟨first, others, rfl, same⟩ := takes
      simp [joinGroup, same] at none
    · cases group with
      | nil =>
        simp only [joinGroup, Option.map_eq_none_iff] at none
        exact ih none other later takes
      | cons first others =>
        rw [joinGroup] at none
        split at none
        · cases none
        · exact ih (Option.map_eq_none_iff.mp none) other later takes

theorem joinGroup_some {message : CaptureMessage} {groups joined : List MessageGroup} {full : Bool}
    (some : joinGroup message groups = some (joined, full)) : ∃ before group after, groups = before ++ group :: after ∧
      joined = before ++ (group ++ [message]) :: after ∧ Takes message group ∧
      full = MessageGroup.full (group ++ [message]) := by
  induction groups generalizing joined full with
  | nil => cases some
  | cons group rest ih =>
    have later : ∀ pair : List MessageGroup × Bool, joinGroup message rest = .some pair →
        (group :: pair.1, pair.2) = (joined, full) → ∃ before g after, group :: rest = before ++ g :: after ∧
          joined = before ++ (g ++ [message]) :: after ∧ Takes message g ∧ full = MessageGroup.full (g ++ [message]) := by
      rintro ⟨groups', full'⟩ there same
      obtain ⟨before, g, after, rfl, rfl, takes, is⟩ := ih there
      cases same
      exact ⟨group :: before, g, after, rfl, rfl, takes, is⟩
    cases group with
    | nil =>
      simp only [joinGroup, Option.map_eq_some_iff] at some
      obtain ⟨pair, there, same⟩ := some
      exact later pair there same
    | cons first others =>
      rw [joinGroup] at some
      split at some
      next same =>
        cases some
        exact ⟨[], first :: others, rest, rfl, rfl, ⟨first, others, rfl, same⟩, rfl⟩
      next =>
        obtain ⟨pair, there, same⟩ := Option.map_eq_some_iff.mp some
        exact later pair there same

/-- The message is for this group between the others, or for a new one because no other takes it. -/
def Joins (message : CaptureMessage) (groups before : List MessageGroup) (group : MessageGroup) (after : List MessageGroup) :
    Prop :=
  (groups = before ++ group :: after ∧ Takes message group) ∨
    (groups = before ++ after ∧ group = [] ∧ ∀ other ∈ before ++ after, ¬Takes message other)

theorem sendMessage_spec (o : CaptureMessageOperator) (message : CaptureMessage) : ∃ before group after,
    Joins message (o.messageBox message.messageType) before group after ∧ (o.sendMessage message).messageBox =
      update o.messageBox message.messageType (before ++ (group ++ [message]) :: after) ∧
    (o.sendMessage message).wakeup = (o.wakeup || full (group ++ [message])) := by
  cases joins : joinGroup message (o.messageBox message.messageType) with
  | some pair =>
    obtain ⟨before, group, after, was, is, takes, full⟩ := joinGroup_some joins
    refine ⟨before, group, after, .inl ⟨was, takes⟩, ?_, ?_⟩
    · simp only [sendMessage, joins, is]
    · simp only [CaptureMessageOperator.sendMessage, joins, full]
  | none =>
    refine ⟨o.messageBox message.messageType, [], [], .inr ⟨by simp, rfl, ?_⟩, ?_, ?_⟩
    · simpa using joinGroup_none joins
    · simp only [sendMessage, joins, nil_append]
    · have one : message.peerMessageCount = 1 ↔ 1 = message.peerMessageCount.toNat := by
        rw [← UInt32.toNat_inj]
        exact eq_comm
      simp [sendMessage, joins, full, one]

namespace Joins
variable {message : CaptureMessage} {groups before after : List MessageGroup} {group : MessageGroup}

theorem others (joins : Joins message groups before group after) : ∀ other ∈ before ++ after, other ∈ groups := by
  intro other member
  rcases joins with ⟨rfl, _⟩ | ⟨rfl, _⟩
  · rcases mem_append.mp member with earlier | later
    · exact mem_append_left _ earlier
    · exact mem_append_right _ (mem_cons_of_mem _ later)
  · exact member

theorem count (joins : Joins message groups before group after) (m : CaptureMessage) :
    (before ++ (group ++ [message]) :: after).flatten.count m = groups.flatten.count m + [message].count m := by
  rcases joins with ⟨rfl, _⟩ | ⟨rfl, rfl, _⟩
  · simp only [flatten_append, flatten_cons, count_append]
    omega
  · simp only [flatten_append, flatten_cons, count_append, count_nil]
    omega

end Joins

theorem clearFull_eq (groups : List MessageGroup) :
    clearFull groups = groups.filter fun group => !group.full && !group.isEmpty := by
  rw [clearFull]
  induction groups with
  | nil => rfl
  | cons group rest ih =>
    cases full : group.full with
    | true => simp [full, ih]
    | false =>
      cases empty : group.isEmpty with
      | true => simp [full, empty, ih]
      | false => simp [full, empty, ih]

theorem count_clearFull (groups : List MessageGroup) (m : CaptureMessage) : groups.flatten.count m =
    (groups.filter full).flatten.count m + (clearFull groups).flatten.count m := by
  rw [clearFull_eq]
  induction groups with
  | nil => rfl
  | cons group rest ih =>
    rw [flatten_cons, count_append, ih]
    cases full : group.full with
    | true =>
      rw [filter_cons_of_pos full, filter_cons_of_neg (by simp [full]), flatten_cons, count_append]
      omega
    | false =>
      rw [filter_cons_of_neg (by simp [full])]
      cases group with
      | nil => simp
      | cons first others =>
        rw [filter_cons_of_pos (by simp [full]), flatten_cons, count_append]
        omega

theorem count_walk {box : CaptureMessageType → List MessageGroup} {types : List CaptureMessageType} (once : types.Nodup)
    (typed : ∀ type, ∀ group ∈ box type, ∀ m ∈ group, m.messageType = type) (m : CaptureMessage) :
    (types.flatMap fun type => (box type).filter full).flatten.count m =
      if m.messageType ∈ types then ((box m.messageType).filter full).flatten.count m else 0 := by
  induction types with
  | nil => rfl
  | cons type rest ih =>
    rw [nodup_cons] at once
    rw [flatMap_cons, flatten_append, count_append, ih once.2]
    by_cases here : m.messageType = type
    · subst here
      rw [if_neg once.1, if_pos (mem_cons_self ..), Nat.add_zero]
    · have absent : ((box type).filter full).flatten.count m = 0 := by
        apply count_eq_zero.mpr
        intro member
        obtain ⟨group, inside, is⟩ := mem_flatten.mp member
        exact here (typed type group (mem_of_mem_filter inside) m is)
      rw [absent, Nat.zero_add]
      simp [here]

def TimesApart (group group' : MessageGroup) : Prop := ∀ m ∈ group, ∀ m' ∈ group', m.timestamp ≠ m'.timestamp

theorem TimesApart.symm {group group' : MessageGroup} (apart : TimesApart group group') : TimesApart group' group := by
  intro m inside m' inside'
  exact (apart m' inside' m inside).symm

instance : Std.Symm TimesApart where
  symm _ _ := TimesApart.symm

/-- Every message that was sent is in one place. Groups in the box are parts of rounds, one for each at most; groups that were
    taken are rounds, and a full one does not stay unnoticed. -/
structure Sorts (c : Captures) (s : Messenger) : Prop where
  sends : c.Sends s.sent
  placed : ∀ m, s.sent.count m = (s.operator.messageBox m.messageType).flatten.count m +
    s.handler.messages.flatten.count m + s.operated.flatten.count m
  boxed : ∀ type, ∀ group ∈ s.operator.messageBox type, group ≠ [] ∧
    ∃ r ∈ c.rounds, r.messageType = type ∧ ∀ m ∈ group, m ∈ r.messages
  apart : ∀ type, (s.operator.messageBox type).Pairwise TimesApart
  taken : ∀ group ∈ s.handler.messages ++ s.operated, ∃ r ∈ c.rounds, group.Perm r.messages
  noticed : ∀ type, ∀ group ∈ s.operator.messageBox type, group.full = true → s.operator.wakeup = true ∨ s.handler = .awake
  looked : ∀ r ∈ c.rounds, (∀ m ∈ r.messages, m ∈ s.looked) →
    ∀ m ∈ r.messages, m ∈ s.sent ∧ m ∉ (s.operator.messageBox m.messageType).flatten
  handled : ∀ r ∈ c.rounds, (∀ m ∈ r.messages, m ∈ s.handled) → ∀ m ∈ r.messages, m ∈ s.operated.flatten

namespace Sorts
variable {c : Captures} {s : Messenger} {type : CaptureMessageType} {group : MessageGroup} {m : CaptureMessage}

section
variable (sorts : Sorts c s)
include sorts

theorem typed : ∀ type, ∀ group ∈ s.operator.messageBox type, ∀ m ∈ group, m.messageType = type := by
  intro type group member m inside
  obtain ⟨_, r, _, same, parts⟩ := sorts.boxed type group member
  exact (of_mem (parts m inside)).type.trans same

section
variable (member : group ∈ s.operator.messageBox type)
include member

theorem group_nodup : group.Nodup := by
  rw [nodup_iff_count_le_one]
  intro m
  by_cases inside : m ∈ group
  · have same := sorts.typed type group member m inside
    subst same
    have once := nodup_iff_count_le_one.mp sorts.sends.once m
    have inBox : group.count m ≤ (s.operator.messageBox m.messageType).flatten.count m :=
      (sublist_flatten_of_mem member).count_le m
    have placed := sorts.placed m
    omega
  · rw [count_eq_zero.mpr inside]
    exact Nat.zero_le _

theorem not_taken (inside : m ∈ group) : m ∉ s.handler.messages.flatten ∧ m ∉ s.operated.flatten := by
  have same := sorts.typed type group member m inside
  subst same
  have once := nodup_iff_count_le_one.mp sorts.sends.once m
  have inBox : 0 < (s.operator.messageBox m.messageType).flatten.count m :=
    count_pos_iff.mpr (mem_flatten.mpr ⟨group, member, inside⟩)
  have placed := sorts.placed m
  constructor
  · apply count_eq_zero.mp
    omega
  · apply count_eq_zero.mp
    omega

theorem whole_of_full (full : group.full = true) : ∃ r ∈ c.rounds, group.Perm r.messages := by
  obtain ⟨_, r, known, _, parts⟩ := sorts.boxed type group member
  exact ⟨r, known, perm_of_full (sorts.group_nodup member) parts full⟩

end

/-- A group in the box is full when its round was sent: the other messages are in the box too, and no other group has their
    time. -/
theorem full_of_sent {r : Round} (known : r ∈ c.rounds) (sent : ∀ m ∈ r.messages, m ∈ s.sent)
    (member : group ∈ s.operator.messageBox type) (inside : m ∈ group) (own : m ∈ r.messages) : group.full = true := by
  obtain ⟨_, r', known', here, parts⟩ := sorts.boxed type group member
  have same := c.same_round known known' own (parts m inside)
  subst same
  have free := sorts.not_taken member inside
  have elsewhere : ∀ groups : List MessageGroup, (∀ g ∈ groups, g ∈ s.handler.messages ++ s.operated) → m ∉ groups.flatten →
      ∀ m' ∈ r.messages, m' ∉ groups.flatten := by
    intro groups among absent m' own' taken
    obtain ⟨g, there, is⟩ := mem_flatten.mp taken
    obtain ⟨r'', known'', whole⟩ := sorts.taken g (among g there)
    have same := c.same_round known known'' own' (whole.subset is)
    subst same
    exact absent (mem_flatten.mpr ⟨g, there, whole.symm.subset own⟩)
  have all : ∀ m' ∈ r.messages, m' ∈ group := by
    intro m' own'
    have one : 0 < s.sent.count m' := count_pos_iff.mpr (sent m' own')
    have waits := count_eq_zero.mpr
      (elsewhere s.handler.messages (fun g there => mem_append_left _ there) free.1 m' own')
    have done := count_eq_zero.mpr (elsewhere s.operated (fun g there => mem_append_right _ there) free.2 m' own')
    have placed := sorts.placed m'
    have boxed : m' ∈ (s.operator.messageBox m'.messageType).flatten := by
      apply count_pos_iff.mp
      omega
    rw [(of_mem own').type, here] at boxed
    obtain ⟨g, there, is⟩ := mem_flatten.mp boxed
    by_cases differs : g = group
    · rw [← differs]
      exact is
    · have times := (sorts.apart type).forall there member differs m' is m inside
      exact absurd ((of_mem own').time.trans (of_mem own).time.symm) times
  apply full_of_perm (r := r)
  rw [perm_ext_iff_of_nodup (sorts.group_nodup member) r.messages_nodup]
  intro x
  exact ⟨parts x, all x⟩

theorem delivered {r : Round} (known : r ∈ c.rounds) (handled : Handled s r) (own : m ∈ r.messages) :
    m ∈ s.operated.flatten := by
  rcases handled with handled | ⟨waiting, asleep, sent⟩
  · exact sorts.handled r known handled m own
  · have one : 0 < s.sent.count m := count_pos_iff.mpr (sent m own)
    have placed := sorts.placed m
    have free : m ∉ (s.operator.messageBox m.messageType).flatten := by
      intro member
      obtain ⟨group, there, inside⟩ := mem_flatten.mp member
      rcases sorts.noticed _ group there (sorts.full_of_sent known sent there inside own) with woken | awake
      · rw [asleep] at woken
        cases woken
      · rw [waiting] at awake
        cases awake
    rw [count_eq_zero.mpr free, waiting] at placed
    simp only [Handler.messages, flatten_nil, count_nil] at placed
    apply count_pos_iff.mp
    omega

theorem grouped : Grouped c s := by
  have gone : ∀ r ∈ c.rounds, Handled s r → ∀ m ∈ r.messages, ∀ type, ∀ group ∈ s.operator.messageBox type, m ∉ group := by
    intro r known handled m own type group member inside
    exact (sorts.not_taken member inside).2 (sorts.delivered known handled own)
  refine ⟨?_, ?_, gone, ?_⟩
  · intro group member
    exact sorts.taken group (mem_append_right _ member)
  · intro r known handled m own
    have once := nodup_iff_count_le_one.mp sorts.sends.once m
    have passed : 0 < s.operated.flatten.count m := count_pos_iff.mpr (sorts.delivered known handled own)
    have placed := sorts.placed m
    omega
  · intro all type
    rw [eq_nil_iff_forall_not_mem]
    intro group member
    obtain ⟨some, r, known, _, parts⟩ := sorts.boxed type group member
    obtain ⟨m, inside⟩ := exists_mem_of_ne_nil _ some
    have sent : m ∈ s.sent := by
      have same := sorts.typed type group member m inside
      subst same
      have boxed : 0 < (s.operator.messageBox m.messageType).flatten.count m :=
        count_pos_iff.mpr (mem_flatten.mpr ⟨group, member, inside⟩)
      have placed := sorts.placed m
      apply count_pos_iff.mp
      omega
    exact gone r known (all r known ⟨m, parts m inside, sent⟩) m (parts m inside) type group member inside

theorem taken_by (differ : c.TimesDiffer) {r : Round} (known : r ∈ c.rounds) (own : m ∈ r.messages)
    (member : group ∈ s.operator.messageBox m.messageType) (takes : Takes m group) :
    (∀ x ∈ group ++ [m], x ∈ r.messages) ∧ ∀ other, TimesApart other group → TimesApart other (group ++ [m]) := by
  obtain ⟨first, others, rfl, time, type⟩ := takes
  obtain ⟨_, r', known', _, parts⟩ := sorts.boxed _ _ member
  have here := of_mem own
  have there := of_mem (parts first (mem_cons_self ..))
  have same : r = r' := by
    apply differ r known r' known'
    · rw [← here.type, ← there.type, type]
    · rw [← here.time, ← there.time, time]
  subst same
  have inside : ∀ x ∈ first :: others ++ [m], x ∈ r.messages := by
    intro x member
    rcases mem_append.mp member with old | new
    · exact parts x old
    · rw [mem_singleton.mp new]
      exact own
  refine ⟨inside, ?_⟩
  intro other separate x inX y inY
  rw [(of_mem (inside y inY)).time, ← there.time]
  exact separate x inX first (mem_cons_self ..)

theorem not_taken_by (member : group ∈ s.operator.messageBox m.messageType) (refuses : ¬Takes m group) :
    TimesApart group [m] := by
  intro x inX y inY time
  rw [mem_singleton.mp inY] at time
  obtain ⟨some, r, known, type, parts⟩ := sorts.boxed m.messageType group member
  cases group with
  | nil => exact some rfl
  | cons first others =>
    have head := of_mem (parts first (mem_cons_self ..))
    apply refuses
    refine ⟨first, others, rfl, ?_, ?_⟩
    · rw [← time, head.time]
      exact (of_mem (parts x inX)).time
    · rw [head.type, type]

theorem grows (differ : c.TimesDiffer) {r : Round} (known : r ∈ c.rounds) (own : m ∈ r.messages)
    {before after : List MessageGroup} (joins : Joins m (s.operator.messageBox m.messageType) before group after) :
    (∀ x ∈ group ++ [m], x ∈ r.messages) ∧ (before ++ (group ++ [m]) :: after).Pairwise TimesApart := by
  have apart := sorts.apart m.messageType
  have others := joins.others
  have wider : (before ++ after).Pairwise TimesApart ∧ (∀ x ∈ group ++ [m], x ∈ r.messages) ∧
      ∀ other ∈ before ++ after, TimesApart other (group ++ [m]) := by
    rcases joins with ⟨was, takes⟩ | ⟨was, rfl, none⟩
    · have member : group ∈ s.operator.messageBox m.messageType := by
        rw [was]
        exact mem_append_right _ (mem_cons_self ..)
      obtain ⟨inside, wider⟩ := sorts.taken_by differ known own member takes
      rw [was] at apart
      obtain ⟨middle, rest⟩ := pairwise_cons.mp ((pairwise_middle TimesApart.symm).mp apart)
      exact ⟨rest, inside, fun other there => wider other (middle other there).symm⟩
    · rw [was] at apart
      refine ⟨apart, by simpa using own, ?_⟩
      intro other there
      exact sorts.not_taken_by (others other there) (none other there)
  refine ⟨wider.2.1, (pairwise_middle TimesApart.symm).mpr (pairwise_cons.mpr ⟨?_, wider.1⟩)⟩
  intro other there
  exact (wider.2.2 other there).symm

theorem send (differ : c.TimesDiffer) (sends : c.Sends (s.sent ++ [m])) : Sorts c (s.step (.sendMessage m)) := by
  obtain ⟨before, g, after, joins, box, wakeup⟩ := sendMessage_spec s.operator m
  obtain ⟨r, known, own⟩ := sends.own m (mem_append_right _ (mem_singleton_self m))
  obtain ⟨inside, pairs⟩ := sorts.grows differ known own joins
  have counts : ∀ x, ((s.operator.sendMessage m).messageBox x.messageType).flatten.count x =
      (s.operator.messageBox x.messageType).flatten.count x + [m].count x := by
    intro x
    rw [box]
    by_cases here : x.messageType = m.messageType
    · rw [here, update_self, joins.count]
    · rw [update_of_ne here, count_singleton, if_neg, Nat.add_zero]
      intro same
      exact here (congrArg CaptureMessage.messageType (beq_iff_eq.mp same).symm)
  have cases : ∀ type, ∀ group ∈ (s.operator.sendMessage m).messageBox type, group ∈ s.operator.messageBox type ∨
      (type = m.messageType ∧ group = g ++ [m]) := by
    intro type group member
    rw [box] at member
    by_cases here : type = m.messageType
    · rw [here, update_self, mem_append, mem_cons] at member
      rw [here]
      rcases member with earlier | new | later
      · exact .inl (joins.others group (mem_append_left _ earlier))
      · exact .inr ⟨rfl, new⟩
      · exact .inl (joins.others group (mem_append_right _ later))
    · rw [update_of_ne here] at member
      exact .inl member
  refine ⟨sends, ?_, ?_, ?_, sorts.taken, ?_, ?_, sorts.handled⟩
  · intro x
    have placed := sorts.placed x
    simp only [step, count_append, counts x]
    omega
  · intro type group member
    rcases cases type group member with old | ⟨rfl, rfl⟩
    · exact sorts.boxed type group old
    · exact ⟨by simp, r, known, (of_mem own).type.symm, inside⟩
  · intro type
    simp only [step, box]
    by_cases here : type = m.messageType
    · rw [here, update_self]
      exact pairs
    · rw [update_of_ne here]
      exact sorts.apart type
  · intro type group member full
    simp only [step, wakeup]
    rcases cases type group member with old | ⟨_, rfl⟩
    · rcases sorts.noticed type group old full with woken | awake
      · exact .inl (by rw [woken]; rfl)
      · exact .inr awake
    · exact .inl (by rw [full, Bool.or_true])
  · intro r' known' looked x own'
    obtain ⟨sent, free⟩ := sorts.looked r' known' looked x own'
    refine ⟨mem_append_left _ sent, ?_⟩
    have other : x ≠ m := by
      rintro rfl
      exact (nodup_append.mp sends.once).2.2 x sent x (mem_singleton_self x) rfl
    apply count_eq_zero.mp
    have zero := count_eq_zero.mpr free
    have none : [m].count x = 0 := count_eq_zero.mpr (by simpa using other)
    simp only [step, counts x]
    omega

/-- The thread takes the full groups: what is left has no whole round. -/
theorem look (awake : s.handler = .awake) (order : WalkOrder) : Sorts c (s.handleMessage order) := by
  have left : ∀ type, ∀ group ∈ clearFull (s.operator.messageBox type),
      group ∈ s.operator.messageBox type ∧ group.full = false := by
    intro type group member
    rw [clearFull_eq, mem_filter] at member
    simp only [Bool.and_eq_true, Bool.not_eq_true'] at member
    exact ⟨member.1, member.2.1⟩
  have none : s.handler.messages = [] := by
    rw [awake]
    rfl
  rw [handleMessage]
  rw [awake]
  refine ⟨sorts.sends, ?_, ?_, ?_, ?_, ?_, ?_, sorts.handled⟩
  · intro m
    have placed := sorts.placed m
    rw [none, count_clearFull, flatten_nil, count_nil] at placed
    simp only [Handler.messages, count_walk order.once sorts.typed, if_pos (order.all m.messageType)]
    omega
  · intro type group member
    exact sorts.boxed type group (left type group member).1
  · intro type
    simp only [clearFull_eq]
    exact (sorts.apart type).filter _
  · intro group member
    rcases mem_append.mp member with now | earlier
    · obtain ⟨type, _, inside⟩ := mem_flatMap.mp now
      obtain ⟨there, full⟩ := mem_filter.mp inside
      exact sorts.whole_of_full there full
    · exact sorts.taken group (mem_append_right _ earlier)
  · intro type group member full
    rw [(left type group member).2] at full
    cases full
  · intro r known sent m own
    refine ⟨sent m own, ?_⟩
    intro member
    obtain ⟨group, there, inside⟩ := mem_flatten.mp member
    obtain ⟨boxed, part⟩ := left _ group there
    rw [sorts.full_of_sent known sent boxed inside own] at part
    cases part

theorem wake (waiting : s.handler = .waiting) :
    Sorts c { s with operator := { s.operator with wakeup := false }, handler := .awake } := by
  refine ⟨sorts.sends, ?_, sorts.boxed, sorts.apart, ?_, ?_, sorts.looked, sorts.handled⟩
  · intro m
    have placed := sorts.placed m
    rw [waiting] at placed
    exact placed
  · intro group member
    exact sorts.taken group (mem_append_right _ member)
  · intro _ _ _ _
    exact .inr rfl

theorem finish (operating : s.handler = .operating []) :
    Sorts c { s with handler := .waiting, handled := s.looked } := by
  have none : s.handler.messages = [] := by
    rw [operating]
    rfl
  refine ⟨sorts.sends, ?_, sorts.boxed, sorts.apart, ?_, ?_, sorts.looked, ?_⟩
  · intro m
    have placed := sorts.placed m
    rw [none] at placed
    exact placed
  · intro group member
    exact sorts.taken group (mem_append_right _ member)
  · intro type group member full
    refine .inl ((sorts.noticed type group member full).resolve_right ?_)
    rw [operating]
    nofun
  · intro r known looked m own
    obtain ⟨sent, free⟩ := sorts.looked r known looked m own
    have one : 0 < s.sent.count m := count_pos_iff.mpr sent
    have placed := sorts.placed m
    rw [count_eq_zero.mpr free, none] at placed
    simp only [flatten_nil, count_nil] at placed
    have passed : 0 < s.operated.flatten.count m := by omega
    exact count_pos_iff.mp passed

theorem pass {groups : List MessageGroup} (operating : s.handler = .operating (group :: groups)) :
    Sorts c { s with handler := .operating groups, operated := s.operated ++ [group] } := by
  have some : s.handler.messages = group :: groups := by
    rw [operating]
    rfl
  refine ⟨sorts.sends, ?_, sorts.boxed, sorts.apart, ?_, ?_, sorts.looked, ?_⟩
  · intro m
    have placed := sorts.placed m
    rw [some] at placed
    simp only [Handler.messages, flatten_cons, flatten_append, flatten_nil, append_nil, count_append] at placed ⊢
    omega
  · intro other member
    apply sorts.taken other
    rw [some]
    simp only [Handler.messages, mem_append, mem_cons, not_mem_nil, or_false] at member ⊢
    tauto
  · intro type group member full
    refine .inl ((sorts.noticed type group member full).resolve_right ?_)
    rw [operating]
    nofun
  · intro r known handled m own
    rw [flatten_append]
    exact mem_append_left _ (sorts.handled r known handled m own)

theorem handle (order : WalkOrder) : Sorts c (s.handleMessage order) := by
  by_cases awake : s.handler = .awake
  · exact sorts.look awake order
  · rw [handleMessage]
    split
    next waiting =>
      split
      · exact sorts.wake waiting
      · exact sorts
    next is => exact absurd is awake
    next operating => exact sorts.finish operating
    next operating => exact sorts.pass operating

end

end Sorts

theorem sorts_start (c : Captures) : Sorts c start := by
  refine ⟨⟨nodup_nil, nofun⟩, fun _ => rfl, nofun, fun _ => List.Pairwise.nil, nofun, nofun, ?_, ?_⟩
  · intro r _ all m own
    cases all m own
  · intro r _ all m own
    cases all m own

theorem Captures.Sends.left {c : Captures} {first second : List CaptureMessage} (sends : c.Sends (first ++ second)) :
    c.Sends first :=
  ⟨sends.once.of_append_left, fun m member => sends.own m (mem_append_left _ member)⟩

theorem Messenger.run_append (s : Messenger) (first second : List MessengerStep) :
    s.run (first ++ second) = (s.run first).run second := foldl_append

theorem Sorts.run {c : Captures} {s : Messenger} (sorts : Sorts c s) (differ : c.TimesDiffer) (steps : List MessengerStep)
    (sends : c.Sends (s.sent ++ sentBy steps)) : Sorts c (s.run steps) := by
  induction steps generalizing s with
  | nil => exact sorts
  | cons step steps ih =>
    cases step with
    | sendMessage m =>
      have rest : c.Sends (s.sent ++ [m] ++ sentBy steps) := by
        rw [append_assoc]
        exact sends
      exact ih (sorts.send differ rest.left) rest
    | handleMessage order =>
      apply ih (sorts.handle order)
      have same : (s.handleMessage order).sent = s.sent := by
        rw [handleMessage]
        split
        · split <;> rfl
        · rfl
        · rfl
        · rfl
      simp only [same]
      exact sends

/-- Messages of one type and time are all put into the first group. -/
theorem run_merges {s : Messenger} {type : CaptureMessageType} {time : UInt64} {first : CaptureMessage}
    {others later : List CaptureMessage} (box : s.operator.messageBox = update (fun _ => []) type [first :: others])
    (head : first.messageType = type ∧ first.timestamp = time) (same : ∀ m ∈ later, m.messageType = type ∧ m.timestamp = time) :
    (s.run (later.map .sendMessage)).operator.messageBox = update (fun _ => []) type [first :: others ++ later] ∧
      (s.run (later.map .sendMessage)).handler = s.handler ∧ (s.run (later.map .sendMessage)).operated = s.operated ∧
      (s.run (later.map .sendMessage)).sent = s.sent ++ later := by
  induction later generalizing s others with
  | nil =>
    refine ⟨?_, rfl, rfl, (append_nil _).symm⟩
    rw [append_nil]
    exact box
  | cons m later ih =>
    obtain ⟨its, at'⟩ := same m (mem_cons_self ..)
    have joins : joinGroup m [first :: others] =
        some ([first :: others ++ [m]], full (first :: others ++ [m])) := by
      rw [joinGroup]
      rw [if_pos ⟨at'.trans head.2.symm, its.trans head.1.symm⟩]
      rfl
    have next : (s.step (.sendMessage m)).operator.messageBox =
        update (fun _ => []) type [first :: (others ++ [m])] := by
      simp only [step, sendMessage, box, its, update_self, joins, update_idem]
      rfl
    obtain ⟨box', handler, operated, sent⟩ := ih next fun x member => same x (mem_cons_of_mem _ member)
    refine ⟨?_, handler, operated, ?_⟩
    · refine box'.trans ?_
      simp
    · refine sent.trans ?_
      simp [step]

def enumOrder : WalkOrder where
  types := [.invalid, .onStarted, .onError, .onEnded, .onShutter]
  once := by decide
  all := by
    intro type
    cases type <;> decide

section
variable {r r' : Round}

/-- Two rounds in one group are more than its first message says. -/
theorem merged_not_full : full (r.messages ++ r'.messages) = false := by
  have length := r.length_messages
  have more := length_pos_of_ne_nil r'.messages_ne_nil
  cases messages : r.messages with
  | nil => exact absurd messages r.messages_ne_nil
  | cons first others =>
    have count := (of_mem (r := r) (m := first) (by rw [messages]; exact mem_cons_self ..)).count
    rw [← count, messages] at length
    simp only [cons_append, full, decide_eq_false_iff_not, length_cons, length_append] at length ⊢
    omega

/-- When all messages of two rounds are sent before the thread looks, they are in one group. -/
theorem run_both (type : r.messageType = r'.messageType) (time : r.timestamp = r'.timestamp) :
    let s := start.run ((r.messages ++ r'.messages).map .sendMessage)
    s.operator.messageBox = update (fun _ => []) r.messageType [r.messages ++ r'.messages] ∧
      s.handler = .waiting ∧ s.operated = [] ∧ s.sent = r.messages ++ r'.messages := by
  have mine : ∀ m ∈ r.messages ++ r'.messages, m.messageType = r.messageType ∧ m.timestamp = r.timestamp := by
    intro m member
    rcases mem_append.mp member with first | second
    · exact ⟨(of_mem first).type, (of_mem first).time⟩
    · exact ⟨(of_mem second).type.trans type.symm, (of_mem second).time.trans time.symm⟩
  cases messages : r.messages with
  | nil => exact absurd messages r.messages_ne_nil
  | cons first others =>
    rw [messages] at mine
    have head := mine first (mem_cons_self ..)
    have begin : (start.step (.sendMessage first)).operator.messageBox =
        update (fun _ => []) r.messageType [first :: []] := by
      simp only [step, start, sendMessage, joinGroup, head.1, nil_append]
    exact run_merges begin head fun m member => mine m (mem_cons_of_mem _ member)

/-- Then nothing is passed on, and the thread sleeps. -/
theorem merged_not_grouped {c : Captures} (known : r ∈ c.rounds) (type : r.messageType = r'.messageType)
    (time : r.timestamp = r'.timestamp) : ∃ orders : List WalkOrder, ¬Grouped c (start.run
      ((r.messages ++ r'.messages).map .sendMessage ++ orders.map .handleMessage)) := by
  obtain ⟨box, waiting, operated, sent⟩ := run_both type time
  obtain ⟨m, own⟩ := exists_mem_of_ne_nil _ r.messages_ne_nil
  have all : ∀ m ∈ r.messages, m ∈ r.messages ++ r'.messages := fun m member => mem_append_left _ member
  simp only [run_append]
  generalize start.run ((r.messages ++ r'.messages).map .sendMessage) = s at *
  cases wakeup : s.operator.wakeup with
  | false =>
    refine ⟨[], fun grouped : Grouped c s => ?_⟩
    have one := grouped.delivered r known (.inr ⟨waiting, wakeup, by rw [sent]; exact all⟩) m own
    rw [operated] at one
    cases one
  | true =>
    refine ⟨[enumOrder, enumOrder, enumOrder], fun grouped => ?_⟩
    have none : (enumOrder.types.flatMap fun type => (s.operator.messageBox type).filter full) = [] := by
      rw [flatMap_eq_nil_iff]
      intro type _
      rw [box]
      by_cases here : type = r.messageType
      · rw [here, update_self, filter_cons_of_neg (by rw [merged_not_full]; decide), filter_nil]
      · rw [update_of_ne here, filter_nil]
    have after : (s.run ([enumOrder, enumOrder, enumOrder].map .handleMessage)).operated = [] ∧
        (s.run ([enumOrder, enumOrder, enumOrder].map .handleMessage)).handled = s.sent := by
      simp [run, step, handleMessage, waiting, wakeup, none, operated]
    have one := grouped.delivered r known (.inl (by rw [after.2, sent]; exact all)) m own
    rw [after.1] at one
    cases one

end

/-- Every order of sending and handling groups the messages by round exactly when rounds of one type differ in time. -/
theorem grouped_iff_timesDiffer (c : Captures) :
    (∀ steps, c.Sends (sentBy steps) → Grouped c (start.run steps)) ↔ c.TimesDiffer := by
  constructor
  · intro grouped r known r' known' type time
    by_contra other
    obtain ⟨orders, not⟩ := merged_not_grouped known type time
    apply not
    apply grouped
    have sent : sentBy ((r.messages ++ r'.messages).map .sendMessage ++ orders.map .handleMessage) =
        r.messages ++ r'.messages := by
      simp [sentBy, filterMap_append, filterMap_map]
    rw [sent]
    refine ⟨?_, ?_⟩
    · rw [nodup_append]
      refine ⟨r.messages_nodup, r'.messages_nodup, ?_⟩
      rintro m first m' second rfl
      exact other (c.same_round known known' first second)
    · intro m member
      rcases mem_append.mp member with first | second
      · exact ⟨r, known, first⟩
      · exact ⟨r', known', second⟩
  · intro differ steps sends
    exact ((sorts_start c).run differ steps sends).grouped

/-- A capture of one stream that is cancelled before a frame came: `CancelRequest` sends the end with the time zero. -/
def cancelled (captureId streamId : Int) : Round where
  captureId := captureId
  messageType := .onEnded
  round := 0
  timestamp := 0
  owners := [streamId]
  distinct := nodup_singleton streamId
  owned := by simp
  counted := by simp

def cancelledBoth : Captures where
  rounds := {cancelled 1 10, cancelled 2 20}
  distinct := by
    rintro r (rfl | rfl) r' (rfl | rfl) capture _ _
    · rfl
    · cases capture
    · cases capture
    · rfl

/-- Both ends are sent before the thread wakes up. -/
def cancelledSteps : List MessengerStep :=
  [.sendMessage ((cancelled 1 10).message 10), .sendMessage ((cancelled 2 20).message 20),
    .handleMessage enumOrder, .handleMessage enumOrder, .handleMessage enumOrder]

/-- Neither end is ever passed on. -/
theorem cancelledSteps_not_grouped : cancelledBoth.Sends (sentBy cancelledSteps) ∧
    ¬Grouped cancelledBoth (start.run cancelledSteps) := by
  constructor
  · refine ⟨by decide, ?_⟩
    intro m member
    have either : m = (cancelled 1 10).message 10 ∨ m = (cancelled 2 20).message 20 := by
      simpa [sentBy, cancelledSteps] using member
    rcases either with rfl | rfl
    · exact ⟨cancelled 1 10, .inl rfl, mem_singleton_self _⟩
    · exact ⟨cancelled 2 20, .inr rfl, mem_singleton_self _⟩
  · intro grouped
    have handled : Handled (start.run cancelledSteps) (cancelled 1 10) := .inl (by decide)
    have one := grouped.delivered (cancelled 1 10) (.inl rfl) handled _ (mem_singleton_self _)
    revert one
    decide

end Peripheral.Camera
