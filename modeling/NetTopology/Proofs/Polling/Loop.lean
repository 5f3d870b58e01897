/-
# How the poll loop ends

After a cycle the loop either goes on to another one or ends in one of a few
ways, and which of them it is can be read from the turn. A run therefore consists
of cycles after which it goes on, and a last one that decides what it returns: an
error exactly when the consumer failed, and the number of cycles exactly when the
stop flag was seen set or the time was over. A flag that is set while a cycle
runs, while the consumer has its snapshot or while the loop sleeps afterwards is
seen at the next look at it, so that no other cycle is started.
-/

import NetTopology.Polling.Loop
import Mathlib.Data.List.Basic

namespace NetTopology.Polling

/-- What a run returns: the number of its cycles, or why the consumer failed. A
run that is aborted or not finished returns nothing. -/
def Ending.returned? : Ending → Option (Except Failure Nat)
  | failed failure => some (.error failure)
  | finished cycles _ => some (.ok cycles)
  | aborted => none
  | unfinished => none

/-- A look that does not end the pause. -/
def Glance.IsEarly (glance : Glance) (deadline : Span) : Prop :=
  glance.stop = false ∧ ¬ deadline ≤ glance.now

/-! ## The pause -/

section

variable {deadline : Span} {glances earlier later : List Glance}

theorem pause_append_of_early (hearly : ∀ glance ∈ earlier, glance.IsEarly deadline) :
    pause deadline (earlier ++ later) = pause deadline later := by
  induction earlier with
  | nil => rfl
  | cons glance rest ih =>
      obtain ⟨⟨hstop, hnow⟩, hrest⟩ := List.forall_mem_cons.mp hearly
      rw [List.cons_append, pause, hstop, if_neg Bool.false_ne_true, if_neg hnow, ih hrest]

/-- A pause ends at the first look that shows the flag set or the deadline reached. -/
theorem pause_cases (deadline : Span) (glances : List Glance) :
    pause deadline glances = .unfinished ∨
      ∃ earlier glance later, glances = earlier ++ glance :: later ∧
        (∀ other ∈ earlier, other.IsEarly deadline) ∧
          (glance.stop = true ∧ pause deadline glances = .stopped ∨
            glance.stop = false ∧ deadline ≤ glance.now ∧ pause deadline glances = .rested) := by
  induction glances with
  | nil => exact .inl rfl
  | cons glance rest ih =>
      by_cases hstop : glance.stop = true
      · exact .inr ⟨[], glance, rest, rfl, nofun, .inl ⟨hstop, by rw [pause, if_pos hstop]⟩⟩
      · by_cases hnow : deadline ≤ glance.now
        · refine .inr ⟨[], glance, rest, rfl, nofun, .inr ⟨by simpa using hstop, hnow, ?_⟩⟩
          rw [pause, if_neg hstop, if_pos hnow]
        · rw [pause, if_neg hstop, if_neg hnow]
          rcases ih with hnone | ⟨earlier, found, later, rfl, hearly, hends⟩
          · exact .inl hnone
          · refine .inr ⟨glance :: earlier, found, later, rfl, ?_, hends⟩
            exact List.forall_mem_cons.mpr ⟨⟨by simpa using hstop, hnow⟩, hearly⟩

/-- A pause is stopped at a look that shows the flag set, when no look before it
has ended the pause. -/
theorem pause_eq_stopped_iff :
    pause deadline glances = .stopped ↔
      ∃ earlier glance later, glances = earlier ++ glance :: later ∧ glance.stop = true ∧
        ∀ other ∈ earlier, other.IsEarly deadline := by
  constructor
  · intro hstopped
    rcases pause_cases deadline glances with hnone |
      ⟨earlier, glance, later, hglances, hearly, ⟨hstop, -⟩ | ⟨-, -, hrested⟩⟩
    · rw [hstopped] at hnone
      cases hnone
    · exact ⟨earlier, glance, later, hglances, hstop, hearly⟩
    · rw [hstopped] at hrested
      cases hrested
  · rintro ⟨earlier, glance, later, rfl, hstop, hearly⟩
    rw [pause_append_of_early hearly, pause, if_pos hstop]

/-- A pause that is over has ended at a look that does not show the flag set. -/
theorem exists_look_of_pause_eq_rested (hrested : pause deadline glances = .rested) :
    ∃ (j : Nat) (glance : Glance), glances[j]? = some glance ∧ glance.stop = false ∧
      deadline ≤ glance.now := by
  rcases pause_cases deadline glances with hnone |
    ⟨earlier, glance, later, rfl, -, ⟨-, hstopped⟩ | ⟨hstop, hnow, -⟩⟩
  · rw [hrested] at hnone
    cases hnone
  · rw [hrested] at hstopped
    cases hstopped
  · exact ⟨earlier.length, glance, by simp, hstop, hnow⟩

end

namespace Options

section

variable (options : Options) (start : Span) (duration : Option Span)

/-- When the pause after a turn is over, if a clock can show that. -/
def pauseEnd? (turn : Turn) : Option Span :=
  turn.paused.after? (options.sleepAfter (turn.ended.since turn.started))

/-- The stop flag is seen set after a turn: right after the cycle, or at a look of
the pause before which nothing has ended the pause. -/
def SeesStop (turn : Turn) : Prop :=
  turn.stop = true ∨ ∃ deadline, options.pauseEnd? turn = some deadline ∧
    ∃ earlier glance later, turn.glances = earlier ++ glance :: later ∧ glance.stop = true ∧
      ∀ other ∈ earlier, other.IsEarly deadline

/-- After the turn the loop goes on to another cycle. -/
structure GoesOn (turn : Turn) : Prop where
  /-- The consumer has taken the snapshot. -/
  answer : turn.answer = .ok ()
  /-- The stop flag is not seen set after the cycle. -/
  running : turn.stop = false
  /-- The time of the loop is not over. -/
  inTime : isOver start duration turn.checked = false
  /-- The pause is over, and nobody has stopped it. -/
  rested : options.pauseAfter turn = .rested

/-- What the loop ends with when it does not go on after a turn, which is the one
of the given cycle. -/
inductive EndsWith (cycle : Nat) (turn : Turn) : Ending → Prop where
  | failed {failure : Failure} (hanswer : turn.answer = .error failure) :
      EndsWith cycle turn (.failed failure)
  | stopped (hanswer : turn.answer = .ok ()) (hstop : turn.stop = true) :
      EndsWith cycle turn (.finished cycle .stopped)
  | timeOver (hanswer : turn.answer = .ok ()) (hstop : turn.stop = false)
      (hover : isOver start duration turn.checked = true) :
      EndsWith cycle turn (.finished cycle .timeOver)
  | awakened (hanswer : turn.answer = .ok ()) (hstop : turn.stop = false)
      (hover : isOver start duration turn.checked = false)
      (hpause : options.pauseAfter turn = .stopped) :
      EndsWith cycle turn (.finished cycle .stopped)
  | aborted (hanswer : turn.answer = .ok ()) (hstop : turn.stop = false)
      (hover : isOver start duration turn.checked = false)
      (hpause : options.pauseAfter turn = .outOfRange) : EndsWith cycle turn .aborted
  | unfinished (hanswer : turn.answer = .ok ()) (hstop : turn.stop = false)
      (hover : isOver start duration turn.checked = false)
      (hpause : options.pauseAfter turn = .unfinished) : EndsWith cycle turn .unfinished

/-- The turns of the cycles that a run performs: as many as it has handed
snapshots to the consumer. -/
def performed (turns : List Turn) : List Turn :=
  turns.take (options.run start duration turns).handed.length

end

variable {options : Options} {start : Span} {duration : Option Span} {turn : Turn}
  {turns : List Turn}

/-! ## One turn -/

theorem pauseAfter_eq_stopped_iff :
    options.pauseAfter turn = .stopped ↔ ∃ deadline, options.pauseEnd? turn = some deadline ∧
      pause deadline turn.glances = .stopped := by
  have hsplit : options.pauseAfter turn =
      (options.pauseEnd? turn).elim .outOfRange fun deadline => pause deadline turn.glances := by
    rw [pauseAfter, pauseEnd?]
    cases turn.paused.after? (options.sleepAfter (turn.ended.since turn.started)) <;> rfl
  rw [hsplit]
  cases options.pauseEnd? turn with
  | none => simp
  | some deadline => simp

theorem seesStop_iff :
    options.SeesStop turn ↔ turn.stop = true ∨ options.pauseAfter turn = .stopped := by
  rw [SeesStop, pauseAfter_eq_stopped_iff]
  simp only [pause_eq_stopped_iff]

/-- The pause of a turn after which the loop goes on has ended at a look that does
not show the flag set. -/
theorem GoesOn.exists_look (hgoes : options.GoesOn start duration turn) :
    ∃ deadline, options.pauseEnd? turn = some deadline ∧
      ∃ (j : Nat) (glance : Glance), turn.glances[j]? = some glance ∧ glance.stop = false ∧
        deadline ≤ glance.now := by
  have hrested := hgoes.rested
  rw [pauseAfter] at hrested
  split at hrested
  · next deadline hdeadline =>
      exact ⟨deadline, hdeadline, exists_look_of_pause_eq_rested hrested⟩
  · cases hrested

/-- After a turn the loop goes on, or it ends. -/
theorem runFrom_cons_cases (cycles : Nat) (turn : Turn) (later : List Turn) :
    (options.GoesOn start duration turn ∧
      options.runFrom start duration cycles (turn :: later) =
        (options.runFrom start duration (cycles + 1) later).after turn.snapshot) ∨
      ∃ ending, options.EndsWith start duration (cycles + 1) turn ending ∧
        options.runFrom start duration cycles (turn :: later) = ⟨[turn.snapshot], ending⟩ := by
  cases hanswer : turn.answer with
  | error failure => exact .inr ⟨_, .failed hanswer, by rw [runFrom, hanswer]⟩
  | ok =>
      cases hstop : turn.stop with
      | true => exact .inr ⟨_, .stopped hanswer hstop, by simp [runFrom, hanswer, hstop]⟩
      | false =>
          cases hover : isOver start duration turn.checked with
          | true =>
              exact .inr ⟨_, .timeOver hanswer hstop hover,
                by simp [runFrom, hanswer, hstop, hover]⟩
          | false =>
              cases hpause : options.pauseAfter turn with
              | rested =>
                  exact .inl ⟨⟨hanswer, hstop, hover, hpause⟩,
                    by simp [runFrom, hanswer, hstop, hover, hpause]⟩
              | stopped =>
                  exact .inr ⟨_, .awakened hanswer hstop hover hpause,
                    by simp [runFrom, hanswer, hstop, hover, hpause]⟩
              | outOfRange =>
                  exact .inr ⟨_, .aborted hanswer hstop hover hpause,
                    by simp [runFrom, hanswer, hstop, hover, hpause]⟩
              | unfinished =>
                  exact .inr ⟨_, .unfinished hanswer hstop hover hpause,
                    by simp [runFrom, hanswer, hstop, hover, hpause]⟩

/-- The loop returns an error after a last turn exactly when the consumer failed. -/
theorem EndsWith.returned?_eq_error_iff {cycle : Nat} {ending : Ending} {failure : Failure}
    (hends : options.EndsWith start duration cycle turn ending) :
    ending.returned? = some (.error failure) ↔ turn.answer = .error failure := by
  cases hends with
  | failed hanswer => simp [Ending.returned?, hanswer]
  | stopped hanswer | timeOver hanswer | awakened hanswer | aborted hanswer
  | unfinished hanswer => simp [Ending.returned?, hanswer]

/-- The loop returns the number of its cycles after a last turn exactly when the
consumer took the snapshot and the flag was seen set or the time was over. -/
theorem EndsWith.returned?_eq_ok_iff {cycle cycles : Nat} {ending : Ending}
    (hends : options.EndsWith start duration cycle turn ending) :
    ending.returned? = some (.ok cycles) ↔
      cycle = cycles ∧ turn.answer = .ok () ∧
        (options.SeesStop turn ∨ isOver start duration turn.checked = true) := by
  rw [seesStop_iff]
  cases hends with
  | failed hanswer => simp [Ending.returned?, hanswer]
  | stopped hanswer hstop => simp [Ending.returned?, hanswer, hstop]
  | timeOver hanswer hstop hover => simp [Ending.returned?, hanswer, hover]
  | awakened hanswer hstop hover hpause => simp [Ending.returned?, hanswer, hpause]
  | aborted hanswer hstop hover hpause | unfinished hanswer hstop hover hpause =>
      simp [Ending.returned?, hanswer, hstop, hover, hpause]

/-! ## A run -/

/-- A run goes on after all its turns, or it goes on until a last one. -/
theorem runFrom_cases (cycles : Nat) (turns : List Turn) :
    ((∀ turn ∈ turns, options.GoesOn start duration turn) ∧
      options.runFrom start duration cycles turns = ⟨turns.map Turn.snapshot, .unfinished⟩) ∨
      ∃ earlier last later ending, turns = earlier ++ last :: later ∧
        (∀ turn ∈ earlier, options.GoesOn start duration turn) ∧
          options.EndsWith start duration (cycles + earlier.length + 1) last ending ∧
            options.runFrom start duration cycles turns =
              ⟨(earlier ++ [last]).map Turn.snapshot, ending⟩ := by
  induction turns generalizing cycles with
  | nil => exact .inl ⟨nofun, rfl⟩
  | cons turn rest ih =>
      rcases runFrom_cons_cases cycles turn rest with ⟨hgoes, hrun⟩ | ⟨ending, hends, hrun⟩
      · rw [hrun]
        rcases ih (cycles + 1) with ⟨hall, hrest⟩ |
          ⟨earlier, last, later, ending, rfl, hall, hends, hrest⟩
        · exact .inl ⟨List.forall_mem_cons.mpr ⟨hgoes, hall⟩, by rw [hrest]; rfl⟩
        · refine .inr ⟨turn :: earlier, last, later, ending, rfl,
            List.forall_mem_cons.mpr ⟨hgoes, hall⟩, ?_, by rw [hrest]; rfl⟩
          rwa [List.length_cons, ← Nat.add_assoc, Nat.add_right_comm cycles]
      · exact .inr ⟨[], turn, rest, ending, rfl, nofun, hends, hrun⟩

/-- The cycles of a run: it goes on after each of them while there are turns, or
after each but the last one. -/
theorem performed_cases (options : Options) (start : Span) (duration : Option Span)
    (turns : List Turn) :
    (options.performed start duration turns = turns ∧
      (∀ turn ∈ turns, options.GoesOn start duration turn) ∧
        (options.run start duration turns).ending = .unfinished) ∨
      ∃ earlier last, options.performed start duration turns = earlier ++ [last] ∧
        (∀ turn ∈ earlier, options.GoesOn start duration turn) ∧
          options.EndsWith start duration (earlier.length + 1) last
            (options.run start duration turns).ending := by
  rw [performed, run]
  rcases runFrom_cases 0 turns with ⟨hall, hrun⟩ |
    ⟨earlier, last, later, ending, rfl, hall, hends, hrun⟩
  · exact .inl ⟨by rw [hrun, List.length_map, List.take_length], hall, by rw [hrun]⟩
  · refine .inr ⟨earlier, last, ?_, hall, ?_⟩
    · rw [hrun, List.length_map, List.append_cons earlier last later, List.take_left]
    · rw [hrun]
      rwa [Nat.zero_add] at hends

/-- Each cycle hands its snapshot to the consumer, in order. -/
theorem handed_eq (options : Options) (start : Span) (duration : Option Span)
    (turns : List Turn) :
    (options.run start duration turns).handed =
      (options.performed start duration turns).map Turn.snapshot := by
  rw [performed, run]
  rcases runFrom_cases 0 turns with ⟨-, hrun⟩ | ⟨earlier, last, later, ending, rfl, -, -, hrun⟩
  · rw [hrun, List.length_map, List.take_length]
  · rw [hrun, List.length_map, List.append_cons earlier last later, List.take_left]

end Options

/-! ## The stop flag -/

/-- A moment at which the stop flag is set. Cycles and the looks of a pause count
from zero. -/
inductive Moment where
  /-- While a cycle runs or the consumer has its snapshot. -/
  | cycle (k : Nat)
  /-- While the loop decides after a cycle whether to pause. -/
  | check (k : Nat)
  /-- While the loop sleeps between look `i` and the next one of the pause after
  a cycle. -/
  | slice (k i : Nat)

namespace Moment

/-- Whether the moment lies before the look at the flag right after a cycle. -/
def isBeforeEnd : Moment → Nat → Bool
  | cycle c, k => c ≤ k
  | check c, k => c < k
  | slice c _, k => c < k

/-- Whether the moment lies before look `j` of the pause after a cycle. -/
def isBeforeLook : Moment → Nat → Nat → Bool
  | cycle c, k, _ => c ≤ k
  | check c, k, _ => c ≤ k
  | slice c i, k, j => c < k || (c == k && i < j)

/-- The flag is set at the moment and stays set: every look after the moment
shows that, and no look before it does. -/
structure SetsFlag (moment : Moment) (turns : List Turn) : Prop where
  atEnd : ∀ k turn, turns[k]? = some turn → turn.stop = moment.isBeforeEnd k
  inPause : ∀ k turn, turns[k]? = some turn → ∀ j glance, turn.glances[j]? = some glance →
    glance.stop = moment.isBeforeLook k j

/-- The moment belongs to a cycle or to the pause after it. To a slice of a pause
belongs that no look up to it has shown the deadline reached. -/
def BelongsTo (options : Options) (turns : List Turn) : Moment → Nat → Prop
  | cycle c, k => c = k
  | check c, k => c = k
  | slice c i, k => c = k ∧ ∀ turn deadline, turns[k]? = some turn →
      options.pauseEnd? turn = some deadline →
        ∀ j glance, j ≤ i → turn.glances[j]? = some glance → ¬ deadline ≤ glance.now

variable {moment : Moment} {options : Options} {start : Span} {duration : Option Span}
  {turn : Turn} {turns : List Turn} {k : Nat}

/-- The loop does not go on after a cycle during which, or during whose pause, the
flag is set. -/
theorem SetsFlag.not_goesOn (hsets : moment.SetsFlag turns)
    (hbelongs : moment.BelongsTo options turns k) (hturn : turns[k]? = some turn) :
    ¬ options.GoesOn start duration turn := by
  intro hgoes
  obtain ⟨deadline, hdeadline, j, glance, hglance, hunset, hnow⟩ := hgoes.exists_look
  have hend := hsets.atEnd k turn hturn
  have hlook := hsets.inPause k turn hturn j glance hglance
  rw [hgoes.running] at hend
  rw [hunset] at hlook
  cases moment with
  | cycle c =>
      obtain rfl : c = k := hbelongs
      simp [isBeforeEnd] at hend
  | check c =>
      obtain rfl : c = k := hbelongs
      simp [isBeforeLook] at hlook
  | slice c i =>
      -- the look that ended the pause came after the slice, or during it at the latest
      obtain ⟨rfl, hlasts⟩ : c = k ∧ _ := hbelongs
      have hle : j ≤ i := by simpa [isBeforeLook] using hlook.symm
      exact hlasts turn deadline hturn hdeadline j glance hle hglance hnow

end Moment

namespace Options

variable {options : Options} {start : Span} {duration : Option Span} {turns : List Turn}

/-! ## What a run returns -/

/-- A run returns an error exactly when the consumer failed in one of its cycles. -/
theorem returned?_eq_error_iff {failure : Failure} :
    (options.run start duration turns).ending.returned? = some (.error failure) ↔
      ∃ turn ∈ options.performed start duration turns, turn.answer = .error failure := by
  rcases performed_cases options start duration turns with ⟨hall, hgoes, hending⟩ |
    ⟨earlier, last, hsplit, hgoes, hends⟩
  · rw [hall, hending]
    refine iff_of_false nofun ?_
    rintro ⟨turn, hturn, hanswer⟩
    rw [(hgoes turn hturn).answer] at hanswer
    cases hanswer
  · rw [hends.returned?_eq_error_iff, hsplit]
    constructor
    · intro hanswer
      exact ⟨last, List.mem_append_right _ (List.mem_singleton.mpr rfl), hanswer⟩
    · rintro ⟨turn, hturn, hanswer⟩
      rcases List.mem_append.mp hturn with hearlier | hlast
      · rw [(hgoes turn hearlier).answer] at hanswer
        cases hanswer
      · obtain rfl := List.mem_singleton.mp hlast
        exact hanswer

/-- The consumer does not fail in a cycle that is not the last one. -/
theorem answer_of_mem_dropLast {turn : Turn}
    (hturn : turn ∈ (options.performed start duration turns).dropLast) : turn.answer = .ok () := by
  rcases performed_cases options start duration turns with ⟨hall, hgoes, -⟩ |
    ⟨earlier, last, hsplit, hgoes, -⟩
  · rw [hall] at hturn
    exact (hgoes turn (List.dropLast_subset _ hturn)).answer
  · rw [hsplit, List.dropLast_concat] at hturn
    exact (hgoes turn hturn).answer

/-- A run returns the number of its cycles exactly when the consumer took every
snapshot and the flag was seen set or the time was over after the last cycle. -/
theorem returned?_eq_ok_iff {cycles : Nat} :
    (options.run start duration turns).ending.returned? = some (.ok cycles) ↔
      (options.performed start duration turns).length = cycles ∧
        (∀ turn ∈ options.performed start duration turns, turn.answer = .ok ()) ∧
          ∃ last, (options.performed start duration turns).getLast? = some last ∧
            (options.SeesStop last ∨ isOver start duration last.checked = true) := by
  rcases performed_cases options start duration turns with ⟨hall, hgoes, hending⟩ |
    ⟨earlier, last, hsplit, hgoes, hends⟩
  · rw [hall, hending]
    refine iff_of_false nofun ?_
    rintro ⟨-, -, last, hlast, hends⟩
    have hlastGoes := hgoes last (List.mem_of_getLast? hlast)
    rw [seesStop_iff, hlastGoes.running, hlastGoes.rested, hlastGoes.inTime] at hends
    simp at hends
  · have hanswers : (∀ turn ∈ earlier ++ [last], turn.answer = .ok ()) ↔ last.answer = .ok () := by
      rw [List.forall_mem_append, List.forall_mem_singleton]
      exact and_iff_right fun turn hturn => (hgoes turn hturn).answer
    rw [hends.returned?_eq_ok_iff, hsplit, hanswers, List.length_append, List.length_singleton,
      List.getLast?_concat]
    simp only [Option.some.injEq, exists_eq_left']

/-- A cycle that is not the last one is one after which the loop goes on. -/
theorem exists_goesOn_of_lt {k : Nat}
    (hlater : k + 1 < (options.performed start duration turns).length) :
    ∃ turn, turns[k]? = some turn ∧ options.GoesOn start duration turn := by
  have hperformed : (options.performed start duration turns)[k]? = turns[k]? := by
    rw [performed, List.length_take] at hlater
    rw [performed, List.getElem?_take_of_lt (by omega)]
  rcases performed_cases options start duration turns with ⟨hall, hgoes, -⟩ |
    ⟨earlier, last, hsplit, hgoes, -⟩
  · rw [hall] at hlater
    exact ⟨turns[k], List.getElem?_eq_getElem (by omega), hgoes _ (List.getElem_mem _)⟩
  · rw [hsplit, List.length_append, List.length_singleton] at hlater
    rw [← hperformed, hsplit, List.getElem?_append_left (by omega)]
    exact ⟨earlier[k], List.getElem?_eq_getElem (by omega), hgoes _ (List.getElem_mem _)⟩

/-- However the devices, the consumer, the clock and the stop flag behave, a run
goes on after each of its cycles until one of them ends it, and hands one
snapshot to the consumer in each cycle, in order. A run that returns has
performed at least one cycle. It returns an error exactly when the consumer
failed with it, which only happens in the last cycle. It returns the number of
its cycles exactly when the consumer took all their snapshots and after the last
one the stop flag was seen set or the time was over. No cycle follows one during
which the stop flag is set, be it while the consumer has the snapshot or in the
pause afterwards. -/
theorem run_returns_and_stops (options : Options) (start : Span) (duration : Option Span)
    (turns : List Turn) :
    ((options.performed start duration turns = turns ∧
        (∀ turn ∈ turns, options.GoesOn start duration turn) ∧
          (options.run start duration turns).ending = .unfinished) ∨
      ∃ earlier last, options.performed start duration turns = earlier ++ [last] ∧
        (∀ turn ∈ earlier, options.GoesOn start duration turn) ∧
          options.EndsWith start duration (earlier.length + 1) last
            (options.run start duration turns).ending) ∧
    (options.run start duration turns).handed =
      (options.performed start duration turns).map Turn.snapshot ∧
    (∀ result, (options.run start duration turns).ending.returned? = some result →
      options.performed start duration turns ≠ []) ∧
    (∀ failure, (options.run start duration turns).ending.returned? = some (.error failure) ↔
      ∃ turn ∈ options.performed start duration turns, turn.answer = .error failure) ∧
    (∀ turn ∈ (options.performed start duration turns).dropLast, turn.answer = .ok ()) ∧
    (∀ cycles, (options.run start duration turns).ending.returned? = some (.ok cycles) ↔
      (options.performed start duration turns).length = cycles ∧
        (∀ turn ∈ options.performed start duration turns, turn.answer = .ok ()) ∧
          ∃ last, (options.performed start duration turns).getLast? = some last ∧
            (options.SeesStop last ∨ isOver start duration last.checked = true)) ∧
    ∀ (moment : Moment) (k : Nat), moment.SetsFlag turns → moment.BelongsTo options turns k →
      (options.performed start duration turns).length ≤ k + 1 := by
  refine ⟨performed_cases options start duration turns, handed_eq options start duration turns,
    ?_, fun _ => returned?_eq_error_iff, fun _ => answer_of_mem_dropLast,
    fun _ => returned?_eq_ok_iff, ?_⟩
  · intro result hresult hnil
    cases result with
    | error failure =>
        obtain ⟨turn, hturn, -⟩ := returned?_eq_error_iff.mp hresult
        rw [hnil] at hturn
        cases hturn
    | ok cycles =>
        obtain ⟨-, -, last, hlast, -⟩ := returned?_eq_ok_iff.mp hresult
        rw [hnil] at hlast
        cases hlast
  · intro moment k hsets hbelongs
    by_contra hlater
    obtain ⟨turn, hturn, hgoes⟩ := exists_goesOn_of_lt (Nat.not_le.mp hlater)
    exact hsets.not_goesOn hbelongs hturn hgoes

/-- Two turns. The first look of the pause between them does not show the stop
flag set, the next one does. -/
def asleep : List Turn :=
  let first : Turn :=
    { snapshot := ⟨[], ∅, [], [], []⟩, started := ⟨0⟩, answer := .ok (), ended := ⟨0⟩
      stop := false, checked := ⟨0⟩, paused := ⟨0⟩, glances := [⟨false, ⟨0⟩⟩, ⟨true, ⟨1⟩⟩] }
  [first, { first with stop := true, glances := [] }]

/-- The flag is set in the first slice of the pause, so there is one cycle only. -/
theorem run_returns_and_stops_asleep :
    (Moment.slice 0 0).SetsFlag asleep ∧ (Moment.slice 0 0).BelongsTo {} asleep 0 ∧
      (({} : Options).run ⟨0⟩ none asleep).ending.returned? = some (.ok 1) ∧
        (({} : Options).performed ⟨0⟩ none asleep).length ≤ 1 := by
  have hsets : (Moment.slice 0 0).SetsFlag asleep := by
    constructor
    · rintro (_ | _ | k) turn hturn <;> cases hturn <;> rfl
    · rintro (_ | _ | k) turn hturn <;> cases hturn
      · rintro (_ | _ | j) glance hglance <;> cases hglance <;> rfl
      · exact nofun
  have hbelongs : (Moment.slice 0 0).BelongsTo {} asleep 0 := by
    refine ⟨rfl, ?_⟩
    intro turn deadline hturn hdeadline j glance hle hglance
    obtain rfl := Nat.le_zero.mp hle
    cases hturn
    cases hglance
    cases hdeadline
    decide
  have hending : (({} : Options).run ⟨0⟩ none asleep).ending = .finished 1 .stopped := by
    decide +kernel
  obtain ⟨-, -, -, -, -, -, hstops⟩ := run_returns_and_stops {} ⟨0⟩ none asleep
  exact ⟨hsets, hbelongs, by rw [hending]; rfl, hstops _ 0 hsets hbelongs⟩

end Options

end NetTopology.Polling
