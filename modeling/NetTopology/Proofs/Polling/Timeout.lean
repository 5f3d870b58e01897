/-
# How long a gather waits

A gather waits for a multiple of the time that one device gets, and at least for
a fixed time. The multiple may have more seconds than a word of 64 bits holds;
then there is no such span. The number of devices is kept in a word too, one of
32 bits. As long as it fits, the wait is the longer one of the two times and
never decreases with the number of devices. A larger number loses its high bits,
so that the wait is too short unless the fixed time covers the whole multiple.
-/

import NetTopology.Polling.Options
import Mathlib.Algebra.Group.Nat.Defs
import Mathlib.Order.MinMax

namespace NetTopology.Polling

namespace Span

variable {base shorter longer span : Span} {count fewer more : Nat}

/-- `count` times the seconds and `count` times the nanoseconds of a span, however
long that is. -/
def multiple (span : Span) (count : Nat) : Span :=
  ofParts (span.seconds * count) (span.subseconds * count)

/-- The span has nanoseconds of less than a second, and its seconds fit into a word
of 64 bits. -/
def IsRepresentable (span : Span) : Prop :=
  ∃ seconds < 2 ^ 64, ∃ nanoseconds < perSecond, span = ofParts seconds nanoseconds

theorem ofParts_seconds_subseconds (span : Span) : ofParts span.seconds span.subseconds = span :=
  congrArg mk (Nat.div_add_mod' span.nanoseconds perSecond)

/-- Nanoseconds that make up whole seconds are carried over. -/
theorem nanoseconds_multiple (span : Span) (count : Nat) :
    (span.multiple count).nanoseconds = span.nanoseconds * count :=
  calc span.seconds * count * perSecond + span.subseconds * count
      = span.seconds * perSecond * count + span.subseconds * count := by
        rw [Nat.mul_right_comm]
    _ = (span.seconds * perSecond + span.subseconds) * count := (Nat.add_mul _ _ _).symm
    _ = span.nanoseconds * count :=
        congrArg (fun whole => whole.nanoseconds * count) span.ofParts_seconds_subseconds

theorem isRepresentable_iff : span.IsRepresentable ↔ span.nanoseconds < limit := by
  rw [limit, Nat.one_shiftLeft]
  constructor
  · rintro ⟨seconds, hseconds, nanoseconds, hnanoseconds, rfl⟩
    calc seconds * perSecond + nanoseconds
        < seconds * perSecond + perSecond := Nat.add_lt_add_left hnanoseconds _
      _ = (seconds + 1) * perSecond := (Nat.succ_mul _ _).symm
      _ ≤ 2 ^ 64 * perSecond := Nat.mul_le_mul_right _ hseconds
  · intro hlimit
    have hseconds : span.seconds < 2 ^ 64 :=
      Nat.div_lt_of_lt_mul (hlimit.trans_eq (Nat.mul_comm _ _))
    have hsubseconds : span.subseconds < perSecond := Nat.mod_lt _ (by decide)
    exact ⟨_, hseconds, _, hsubseconds, span.ofParts_seconds_subseconds.symm⟩

/-- A multiple exists as a span when it is representable. -/
theorem times?_of_isRepresentable (hfits : (span.multiple count).IsRepresentable) :
    span.times? count = some (span.multiple count) := by
  have hlimit := isRepresentable_iff.mp hfits
  rw [nanoseconds_multiple] at hlimit
  rw [times?, if_pos hlimit, ← nanoseconds_multiple]

theorem multiple_le_multiple (span : Span) (hle : fewer ≤ more) :
    span.multiple fewer ≤ span.multiple more := by
  have hnanoseconds := Nat.mul_le_mul_left span.nanoseconds hle
  rwa [← nanoseconds_multiple, ← nanoseconds_multiple] at hnanoseconds

theorem IsRepresentable.of_le (hle : shorter ≤ longer) (hfits : longer.IsRepresentable) :
    shorter.IsRepresentable :=
  isRepresentable_iff.mpr (Nat.lt_of_le_of_lt hle (isRepresentable_iff.mp hfits))

theorem longer_le_longer (hle : shorter ≤ longer) : shorter.longer base ≤ longer.longer base := by
  have hmax : max shorter.nanoseconds base.nanoseconds ≤
      max longer.nanoseconds base.nanoseconds := max_le_max_right _ hle
  exact hmax

/-- Larger multiples are longer, unless the span is empty. -/
theorem multiple_lt_multiple (hlt : fewer < more) (hpos : 0 < span.nanoseconds) :
    (span.multiple fewer).nanoseconds < (span.multiple more).nanoseconds := by
  rw [nanoseconds_multiple, nanoseconds_multiple]
  exact Nat.mul_lt_mul_of_pos_left hlt hpos

/-- A smaller multiple is only as good as a larger one below a base that covers both. -/
theorem longer_multiple_eq_iff (hlt : fewer < more) :
    (span.multiple fewer).longer base = (span.multiple more).longer base ↔
      span.multiple more ≤ base := by
  constructor
  · intro heq
    have hmax : max (span.multiple fewer).nanoseconds base.nanoseconds =
        max (span.multiple more).nanoseconds base.nanoseconds := congrArg nanoseconds heq
    by_contra hlonger
    have hbase : base.nanoseconds < (span.multiple more).nanoseconds := Nat.lt_of_not_le hlonger
    have hpos : 0 < span.nanoseconds := by
      apply Nat.pos_of_ne_zero
      intro hzero
      rw [nanoseconds_multiple, hzero, Nat.zero_mul] at hbase
      exact Nat.not_lt_zero _ hbase
    have hless := multiple_lt_multiple hlt hpos
    omega
  · intro hcovered
    have hless : span.multiple fewer ≤ span.multiple more := span.multiple_le_multiple hlt.le
    have hmax : max (span.multiple fewer).nanoseconds base.nanoseconds =
        max (span.multiple more).nanoseconds base.nanoseconds :=
      (max_eq_right (Nat.le_trans hless hcovered)).trans (max_eq_right hcovered).symm
    exact congrArg mk hmax

end Span

namespace Options

variable {options : Options} {outstanding : Nat}

theorem counted_le (outstanding : Nat) : counted outstanding ≤ outstanding :=
  Nat.mod_le _ _

theorem counted_eq_self (hsmall : outstanding < 2 ^ 32) : counted outstanding = outstanding :=
  Nat.mod_eq_of_lt hsmall

theorem counted_lt (hlarge : 2 ^ 32 ≤ outstanding) : counted outstanding < outstanding :=
  Nat.lt_of_lt_of_le (Nat.mod_lt _ (by decide)) hlarge

/-- When the wait for all devices is representable, the one that is taken is, too. -/
theorem gatherTimeout?_eq_some
    (hfits : (options.deviceTimeout.multiple outstanding).IsRepresentable) :
    options.gatherTimeout? outstanding =
      some ((options.deviceTimeout.multiple (counted outstanding)).longer options.baseTimeout) := by
  have hcounted : (options.deviceTimeout.multiple (counted outstanding)).IsRepresentable :=
    hfits.of_le (Span.multiple_le_multiple _ (counted_le outstanding))
  rw [gatherTimeout?, Span.times?_of_isRepresentable hcounted]
  rfl

/-- The wait is the longer one of the base and the multiple unless the number of
devices does not fit, in which case the base has to cover the multiple. -/
theorem gatherTimeout?_eq_some_longer_iff
    (hfits : (options.deviceTimeout.multiple outstanding).IsRepresentable) :
    options.gatherTimeout? outstanding =
        some ((options.deviceTimeout.multiple outstanding).longer options.baseTimeout) ↔
      outstanding < 2 ^ 32 ∨ options.deviceTimeout.multiple outstanding ≤ options.baseTimeout := by
  rw [gatherTimeout?_eq_some hfits, Option.some.injEq]
  rcases Nat.lt_or_ge outstanding (2 ^ 32) with hsmall | hlarge
  · rw [counted_eq_self hsmall]
    exact iff_of_true rfl (.inl hsmall)
  · rw [Span.longer_multiple_eq_iff (counted_lt hlarge), or_iff_right (Nat.not_lt.mpr hlarge)]

/-- Whenever the multiple of the time of one device is representable, there is a
wait. It is the longer one of the base and the multiple exactly when the number
of devices fits into 32 bits or the base covers the multiple, and up to such a
number it never decreases. -/
theorem gatherTimeout?_eq_longer_iff_and_increasing (options : Options) (outstanding : Nat)
    (hfits : (options.deviceTimeout.multiple outstanding).IsRepresentable) :
    options.gatherTimeout? outstanding =
      some ((options.deviceTimeout.multiple (outstanding % 2 ^ 32)).longer options.baseTimeout) ∧
    (options.gatherTimeout? outstanding =
        some ((options.deviceTimeout.multiple outstanding).longer options.baseTimeout) ↔
      outstanding < 2 ^ 32 ∨ options.deviceTimeout.multiple outstanding ≤ options.baseTimeout) ∧
    (outstanding < 2 ^ 32 → ∀ fewer ≤ outstanding, ∃ shorter longer,
      options.gatherTimeout? fewer = some shorter ∧
        options.gatherTimeout? outstanding = some longer ∧ shorter ≤ longer) := by
  refine ⟨gatherTimeout?_eq_some hfits, gatherTimeout?_eq_some_longer_iff hfits, ?_⟩
  intro hsmall fewer hfewer
  have hmultiple := options.deviceTimeout.multiple_le_multiple hfewer
  have hall := (gatherTimeout?_eq_some_longer_iff hfits).mpr (.inl hsmall)
  have hpart := (gatherTimeout?_eq_some_longer_iff (hfits.of_le hmultiple)).mpr
    (.inl (Nat.lt_of_le_of_lt hfewer hsmall))
  exact ⟨_, _, hpart, hall, Span.longer_le_longer hmultiple⟩

/-! ## More devices than fit -/

/-- A nanosecond for each device, and no fixed time. -/
def brief : Options where
  baseTimeout := .zero
  deviceTimeout := ⟨1⟩

theorem isRepresentable_brief :
    (brief.deviceTimeout.multiple (2 ^ 32)).IsRepresentable :=
  ⟨4, by decide, 294967296, by decide, rfl⟩

/-- The wait for the largest number that fits is more than four seconds, and with
one more device it is gone. -/
theorem gatherTimeout?_eq_longer_iff_and_increasing_brief :
    (brief.deviceTimeout.multiple (2 ^ 32 - 1)).IsRepresentable ∧
    brief.gatherTimeout? (2 ^ 32 - 1) = some (.ofParts 4 294967295) ∧
    (brief.deviceTimeout.multiple (2 ^ 32)).IsRepresentable ∧
    brief.gatherTimeout? (2 ^ 32) = some .zero ∧
    brief.gatherTimeout? (2 ^ 32) ≠
      some ((brief.deviceTimeout.multiple (2 ^ 32)).longer brief.baseTimeout) ∧
    (∃ shorter longer, brief.gatherTimeout? 1000 = some shorter ∧
      brief.gatherTimeout? (2 ^ 32 - 1) = some longer ∧ shorter ≤ longer) := by
  have hfits : (brief.deviceTimeout.multiple (2 ^ 32 - 1)).IsRepresentable :=
    isRepresentable_brief.of_le (Span.multiple_le_multiple _ (Nat.sub_le _ _))
  obtain ⟨hwait, -, hincreasing⟩ :=
    gatherTimeout?_eq_longer_iff_and_increasing brief (2 ^ 32 - 1) hfits
  obtain ⟨hgone, hlonger, -⟩ :=
    gatherTimeout?_eq_longer_iff_and_increasing brief (2 ^ 32) isRepresentable_brief
  have hlarge : ¬ (2 ^ 32 < 2 ^ 32 ∨
      brief.deviceTimeout.multiple (2 ^ 32) ≤ brief.baseTimeout) := by decide
  exact ⟨hfits, hwait, isRepresentable_brief, hgone, fun heq => hlarge (hlonger.mp heq),
    hincreasing (by decide) 1000 (by decide)⟩

/-- The wait for 2^32 devices is not the longer one of the two times. -/
theorem not_forall_gatherTimeout?_eq_longer :
    ¬ ∀ (options : Options) (outstanding : Nat),
      (options.deviceTimeout.multiple outstanding).IsRepresentable →
        options.gatherTimeout? outstanding =
          some ((options.deviceTimeout.multiple outstanding).longer options.baseTimeout) := by
  intro hall
  have hlonger := hall brief (2 ^ 32) isRepresentable_brief
  have hgone : brief.gatherTimeout? (2 ^ 32) = some .zero := by decide
  rw [hgone] at hlonger
  revert hlonger
  decide

end Options

end NetTopology.Polling
